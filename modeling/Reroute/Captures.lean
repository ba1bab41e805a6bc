/-
  Captured groups, and their numbering while one rule is evaluated.
  Groups are numbered through all sets in the order of the sets.
-/
namespace Reroute

/-- A group number with no group. `len` is the number of groups there are. -/
structure OutOfRange where
  index : Nat
  len : Nat
deriving DecidableEq, Repr

def OutOfRange.message (e : OutOfRange) : String :=
  "Back-reference " ++ toString e.index ++ " is outside the " ++ toString e.len ++
    " captured groups"

/-- Sets of groups in the order they were captured, with the number of all groups. -/
structure GroupSets where
  sets : List (List String) := []
  len : Nat := 0
deriving DecidableEq, Repr

namespace GroupSets

def empty : GroupSets := {}

/-- Appends a set of groups. -/
def push (g : GroupSets) (groups : List String) : GroupSets :=
  ⟨g.sets ++ [groups], g.len + groups.length⟩

def clear (_ : GroupSets) : GroupSets := empty

def isEmpty (g : GroupSets) : Bool := g.len == 0

/-- Walks the sets; an index past a set counts on from its end. -/
def find? : List (List String) → Nat → Option String
  | [], _ => none
  | set :: rest, offset =>
    match set[offset]? with
    | some group => some group
    | none => find? rest (offset - set.length)

/-- The group with the given number. -/
def get (g : GroupSets) (index : Nat) : Except OutOfRange String :=
  match find? g.sets index with
  | some group => .ok group
  | none => .error ⟨index, g.len⟩

/-- All groups in the order of their numbers. -/
def toList (g : GroupSets) : List String := g.sets.flatten

@[simp] theorem toList_empty : empty.toList = [] := rfl

@[simp] theorem toList_push (g : GroupSets) (groups : List String) :
    (g.push groups).toList = g.toList ++ groups := by
  simp [push, toList]

@[simp] theorem toList_clear (g : GroupSets) : g.clear.toList = [] := rfl

example : (((empty.push ["a", "b"]).push []).push ["c"]).get 2 = .ok "c" := rfl
example : ((empty.push ["a", "b"]).push []).get 2 = .error ⟨2, 2⟩ := rfl

end GroupSets

/-- The groups of the rule's own match and those of its conditions. -/
structure Captures where
  rule : GroupSets := {}
  conditions : GroupSets := {}
deriving DecidableEq, Repr

namespace Captures

/-- Keeps the groups of the rule's match in place of earlier ones. -/
def recordRule (c : Captures) (groups : List String) : Captures :=
  { c with rule := if groups.isEmpty then .empty else GroupSets.empty.push groups }

/-- Keeps the groups of a condition, after the earlier ones or in their place. A condition
without groups changes nothing. -/
def recordCondition (c : Captures) (groups : List String) (append : Bool) : Captures :=
  if groups.isEmpty then c
  else { c with conditions := (if append then c.conditions else .empty).push groups }

end Captures

end Reroute
