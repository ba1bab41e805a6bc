import Mathlib.Data.List.DropRight
import Reroute.Proofs.FirstMissing

/-!
# Numbers of groups

Captured groups are kept in sets, but a number counts through all of them: it is an index into what
was pushed since the last clearing, one set behind the other. The number of all groups is kept apart
from the sets, and a number is looked up by walking them and taking off the length of each set that
is passed. So it has to be shown that this count is always right, and that the walk never takes off
more than is left.

Results:
1. `GroupChange`, `GroupSets.after`, `GroupChange.kept`: changes, and the groups that they leave.
2. `GroupSets.Counted.apply`, `GroupSets.toList_after`, `GroupSets.len_after`: one change, and a run
   of changes.
3. `GroupSets.walk_eq_find`: a walk that fails where it would take off too much finds the same.
4. `GroupSets.get_after`: all of it, for every run and every number.
-/

namespace Reroute

/-! ## 1. Changes -/

/-- What is done to sets of groups. -/
inductive GroupChange
  | push (groups : List String)
  | clear
deriving DecidableEq, Repr

namespace GroupChange

def apply (g : GroupSets) : GroupChange → GroupSets
  | .push groups => g.push groups
  | .clear => g.clear

def isPush : GroupChange → Bool
  | .push _ => true
  | .clear => false

/-- The groups that a change brings. -/
def groups : GroupChange → List String
  | .push groups => groups
  | .clear => []

/-- The groups pushed behind the last clearing, in the order of pushing. -/
def kept (changes : List GroupChange) : List String :=
  (changes.rtakeWhile isPush).flatMap groups

theorem kept_push (changes : List GroupChange) (groups : List String) :
    kept (changes ++ [.push groups]) = kept changes ++ groups := by
  rw [kept, List.rtakeWhile_concat_pos _ _ _ rfl, List.flatMap_append, List.flatMap_singleton]
  rfl

theorem kept_clear (changes : List GroupChange) : kept (changes ++ [.clear]) = [] := by
  rw [kept, List.rtakeWhile_concat_neg _ _ _ (by decide)]
  rfl

end GroupChange

namespace GroupSets

/-- What changes make of sets of groups when there are none to begin with. -/
def after (changes : List GroupChange) : GroupSets := changes.foldl GroupChange.apply .empty

theorem after_concat (changes : List GroupChange) (change : GroupChange) :
    after (changes ++ [change]) = change.apply (after changes) := by
  rw [after, List.foldl_concat]
  rfl

/-! ## 2. Runs of changes -/

/-- The number that is kept of all groups is how many there are. -/
def Counted (g : GroupSets) : Prop := g.len = g.toList.length

theorem Counted.apply {g : GroupSets} (counted : g.Counted) (change : GroupChange) :
    (change.apply g).Counted := by
  cases change with
  | push groups =>
    show g.len + groups.length = (g.push groups).toList.length
    rw [toList_push, List.length_append, counted]
  | clear => rfl

theorem counted_after (changes : List GroupChange) : (after changes).Counted := by
  induction changes using List.reverseRecOn with
  | nil => rfl
  | append_singleton changes change ih =>
    rw [after_concat]
    exact ih.apply change

theorem toList_after (changes : List GroupChange) :
    (after changes).toList = GroupChange.kept changes := by
  induction changes using List.reverseRecOn with
  | nil => rfl
  | append_singleton changes change ih =>
    rw [after_concat]
    cases change with
    | push groups => rw [GroupChange.apply, toList_push, ih, GroupChange.kept_push]
    | clear => rw [GroupChange.apply, toList_clear, GroupChange.kept_clear]

theorem len_after (changes : List GroupChange) :
    (after changes).len = (GroupChange.kept changes).length := by
  rw [counted_after changes, toList_after]

/-! ## 3. Walks -/

/-- Walks the sets like `find?`, but fails where the length of a set is more than is left of the
number. -/
def walk? : List (List String) → Nat → Option (Option String)
  | [], _ => some none
  | set :: rest, left =>
    match set[left]? with
    | some group => some (some group)
    | none => if set.length ≤ left then walk? rest (left - set.length) else none

/-- A set that does not hold the group is no longer than what is left of the number. -/
theorem walk_eq_find (sets : List (List String)) (left : Nat) :
    walk? sets left = some (find? sets left) := by
  induction sets generalizing left with
  | nil => rfl
  | cons set rest ih =>
    rw [walk?, find?]
    cases here : set[left]? with
    | some group => rfl
    | none =>
      have passed : set.length ≤ left := List.getElem?_eq_none_iff.mp here
      dsimp only
      rw [if_pos passed, ih]

/-! ## 4. Numbers -/

/-- After any changes, a number stands for the group with this index among those pushed since the
last clearing. From their number on it is refused with itself and with their number, which is also
the number that is kept of them. The walk that finds the group never takes off more than is left. -/
theorem get_after (changes : List GroupChange) (index : Nat) :
    (∀ group, (after changes).get index = .ok group ↔
      (GroupChange.kept changes)[index]? = some group) ∧
    (∀ e, (after changes).get index = .error e ↔
      (GroupChange.kept changes).length ≤ index ∧
        e = ⟨index, (GroupChange.kept changes).length⟩) ∧
    (after changes).len = (GroupChange.kept changes).length ∧
    walk? (after changes).sets index = some (GroupChange.kept changes)[index]? := by
  have found : find? (after changes).sets index = (GroupChange.kept changes)[index]? := by
    rw [find_eq_getElem, ← toList, toList_after]
  refine ⟨fun group => ?_, fun e => ?_, len_after changes, ?_⟩
  · rw [get, found]
    cases (GroupChange.kept changes)[index]? <;> simp
  · rw [get_error_iff, toList_after, len_after]
  · rw [walk_eq_find, found]

/-- Two sets since the last clearing, with an empty one between them. -/
def exChanges : List GroupChange :=
  [.push ["x"], .clear, .push ["a", "b"], .push [], .push ["c"]]

example : (after exChanges).get 2 = .ok "c" := by decide
example : (after exChanges).get 3 = .error ⟨3, 3⟩ := by decide

end GroupSets

end Reroute
