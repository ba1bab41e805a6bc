import Mathlib.Data.List.Induction
import Reroute.Proofs.PatternCode

/-!
# Matches that a search finds

A search follows all ways to match side by side. Each of its threads stands where a run of the
program has come to from some place of the text, and none is added that does not: settling a thread
and moving it over a character are steps of its run. So what the search ends with is a run that
accepts, and this is a match of the pattern.

The slots of a thread hold the places of each group's last part. So a group is answered with what it
matched last, and one that took no part with the empty text.

Results:
1. `searchFrom_found`: slots that a search finds are those of a run that accepts.
2. `recordAll_slots`: they hold the last part of each group.
3. `search_matches`: the groups of a search are those of a match of its pattern.
-/

namespace Reroute

namespace Regex

open Reroute.Text

/-! ## 1. Threads of a search -/

variable {program : Program} {text : List Char} {empty : Slots}

/-- A thread that the program has run to from a place of the text. -/
def Reached (program : Program) (text : List Char) (empty : Slots) (place : Nat)
    (thread : Thread) : Prop :=
  ∃ count first, first ≤ text.length ∧
    Run program.code text count first ⟨program.entry, empty⟩ place thread

/-- Slots of a thread that has come to its end. -/
def Found (program : Program) (text : List Char) (empty slots : Slots) : Prop :=
  ∃ place thread, Reached program text empty place thread ∧
    program.code[thread.at_]? = some .accept ∧ thread.slots = slots

theorem Run.snoc {code : Code} {count place between last : Nat} {thread next final : Thread}
    (run : Run code text count place thread between next)
    (step : Step code text between next last final) :
    Run code text (count + 1) place thread last final := by
  induction run with
  | none => exact .more step .none
  | more first _ ih => exact .more first (ih step)

theorem Reached.step {place last : Nat} {thread final : Thread}
    (reached : Reached program text empty place thread)
    (step : Step program.code text place thread last final) :
    Reached program text empty last final := by
  obtain ⟨count, first, inText, run⟩ := reached
  exact ⟨count + 1, first, inText, run.snoc step⟩

theorem reached_start {place : Nat} (inText : place ≤ text.length) :
    Reached program text empty place ⟨program.entry, empty⟩ := ⟨0, place, inText, .none⟩

/-- Threads are settled where they stand: nothing is consumed on the way. -/
theorem settle_reached {place : Nat} (fuel : Nat) (threads : List Thread) (seen : Array Bool)
    (found : Array Thread)
    (waiting : ∀ thread ∈ threads, Reached program text empty place thread)
    (settled : ∀ thread ∈ found, Reached program text empty place thread) :
    ∀ thread ∈ settle program.code (text.take place).getLast? text[place]? place fuel threads seen
      found, Reached program text empty place thread := by
  fun_induction settle program.code (text.take place).getLast? text[place]? place fuel threads seen
      found with
  | case1 | case2 => exact settled
  | case3 | case4 | case5 =>
    rename_i ih
    exact ih (List.forall_mem_cons.mp waiting).2 settled
  | case6 | case7 =>
    -- The thread accepts or waits for a character: it is one of those found.
    rename_i ih
    obtain ⟨first, rest⟩ := List.forall_mem_cons.mp waiting
    refine ih rest fun thread member => ?_
    rcases Array.mem_push.mp member with before | rfl
    · exact settled thread before
    · exact first
  | case8 fuel thread rest _ _ _ seen condition next holds fulfilled ih =>
    obtain ⟨first, others⟩ := List.forall_mem_cons.mp waiting
    exact ih (List.forall_mem_cons.mpr ⟨first.step (.look holds fulfilled), others⟩) settled
  | case9 =>
    rename_i ih
    exact ih (List.forall_mem_cons.mp waiting).2 settled
  | case10 fuel thread rest _ _ _ seen slot next holds ih =>
    obtain ⟨first, others⟩ := List.forall_mem_cons.mp waiting
    exact ih (List.forall_mem_cons.mpr ⟨first.step (.save holds), others⟩) settled
  | case11 fuel thread rest _ _ _ seen preferred other holds ih =>
    obtain ⟨first, others⟩ := List.forall_mem_cons.mp waiting
    refine ih ?_ settled
    exact List.forall_mem_cons.mpr ⟨first.step (.preferred holds),
      List.forall_mem_cons.mpr ⟨first.step (.other holds), others⟩⟩

theorem advance_reached {place : Nat} (threads : List Thread) (moved : Array Thread)
    (standing : ∀ thread ∈ threads, Reached program text empty place thread)
    (before : ∀ thread ∈ moved, Reached program text empty (place + 1) thread) :
    (∀ thread ∈ (advance program.code text[place]? threads moved).1,
        Reached program text empty (place + 1) thread) ∧
      ∀ slots, (advance program.code text[place]? threads moved).2 = some slots →
        Found program text empty slots := by
  fun_induction advance program.code text[place]? threads moved with
  | case1 moved =>
    exact ⟨fun thread member => before thread (Array.mem_toList_iff.mp member), nofun⟩
  | case2 thread rest moved accepts =>
    refine ⟨fun thread member => before thread (Array.mem_toList_iff.mp member), ?_⟩
    rintro _ ⟨⟩
    exact ⟨place, thread, standing thread List.mem_cons_self, accepts, rfl⟩
  | case3 thread rest moved set target waits member ih =>
    obtain ⟨first, others⟩ := List.forall_mem_cons.mp standing
    obtain ⟨c, stands, inSet⟩ := (Option.any_eq_true _ _).mp member
    refine ih others fun next pushed => ?_
    rcases Array.mem_push.mp pushed with earlier | rfl
    · exact before next earlier
    · exact first.step (.chars waits stands inSet)
  | case4 | case5 =>
    rename_i ih
    exact ih (List.forall_mem_cons.mp standing).2 before

/-- What a search has behind a place: the threads that have moved on, and the match so far. -/
def passed (program : Program) (empty : Slots) (before after : Option Char) (place : Nat)
    (threads : List Thread) (found : Option Slots) : List Thread × Option Slots :=
  let starts := if found.isSome then threads else threads ++ [⟨program.entry, empty⟩]
  let moved := advance program.code after (settleAll program.code before after place starts) #[]
  (moved.1, moved.2 <|> found)

theorem searchFrom_nil (before : Option Char) (place : Nat) (threads : List Thread)
    (found : Option Slots) :
    searchFrom program empty before place threads found [] =
      (passed program empty before none place threads found).2 := rfl

theorem searchFrom_cons (before : Option Char) (place : Nat) (threads : List Thread)
    (found : Option Slots) (c : Char) (rest : List Char) :
    searchFrom program empty before place threads found (c :: rest) =
      let behind := passed program empty before (some c) place threads found
      if behind.1.isEmpty && behind.2.isSome then behind.2
      else searchFrom program empty (some c) (place + 1) behind.1 behind.2 rest := rfl

theorem passed_reached {place : Nat} {threads : List Thread} {found : Option Slots}
    (inText : place ≤ text.length)
    (waiting : ∀ thread ∈ threads, Reached program text empty place thread)
    (had : ∀ slots, found = some slots → Found program text empty slots) :
    let behind := passed program empty (text.take place).getLast? text[place]? place threads found
    (∀ thread ∈ behind.1, Reached program text empty (place + 1) thread) ∧
      ∀ slots, behind.2 = some slots → Found program text empty slots := by
  unfold passed
  generalize begins : (if found.isSome then threads else threads ++ [⟨program.entry, empty⟩]) =
    starts
  have started : ∀ thread ∈ starts, Reached program text empty place thread := by
    rw [← begins]
    split
    · exact waiting
    · intro thread member
      rcases List.mem_append.mp member with older | new
      · exact waiting thread older
      · rw [List.mem_singleton.mp new]
        exact reached_start inText
  have settled : ∀ thread ∈ settleAll program.code (text.take place).getLast? text[place]? place
      starts, Reached program text empty place thread := fun thread member =>
    settle_reached _ _ _ _ started (by simp) thread (Array.mem_toList_iff.mp member)
  obtain ⟨onward, accepted⟩ := advance_reached _ #[] settled (by simp)
  refine ⟨onward, fun slots outcome => ?_⟩
  obtain better | ⟨_, before⟩ : (advance program.code text[place]? (settleAll program.code
      (text.take place).getLast? text[place]? place starts) #[]).2 = some slots ∨
      (_ ∧ found = some slots) := by simpa using outcome
  · exact accepted slots better
  · exact had slots before

/-- Slots that a search finds are those of a thread that has accepted. -/
theorem searchFrom_found {before after : List Char} (whole : before ++ after = text)
    {threads : List Thread} {found : Option Slots}
    (waiting : ∀ thread ∈ threads, Reached program text empty before.length thread)
    (had : ∀ slots, found = some slots → Found program text empty slots) {slots : Slots}
    (finds : searchFrom program empty before.getLast? before.length threads found after =
      some slots) : Found program text empty slots := by
  induction after generalizing before threads found with
  | nil =>
    obtain rfl : before = text := by simpa using whole
    obtain ⟨_, has⟩ := passed_reached (Nat.le_refl _) waiting had
    rw [searchFrom_nil] at finds
    simp only [List.take_length, getElem?_neg, Nat.lt_irrefl, not_false_eq_true] at has
    exact has slots finds
  | cons c rest ih =>
    have behind : (text.take before.length).getLast? = before.getLast? := by
      rw [← whole, List.take_left]
    have ahead : text[before.length]? = some c := by
      rw [← whole, List.getElem?_append_right (Nat.le_refl _), Nat.sub_self]
      rfl
    have inText : before.length ≤ text.length := by
      rw [← whole, List.length_append]
      exact Nat.le_add_right _ _
    obtain ⟨onward, has⟩ := passed_reached inText waiting had
    rw [behind, ahead] at onward has
    rw [searchFrom_cons] at finds
    dsimp only at finds
    split at finds
    · exact has slots finds
    · have next : before ++ [c] ++ rest = text := by rw [← whole]; simp
      refine ih next (by simpa using onward) has ?_
      simpa using finds

/-! ## 2. Slots -/

/-- The last time that a group took part. -/
def lastPart? (parts : List Part) (index : Nat) : Option Part :=
  parts.reverse.find? fun part => part.group == index

/-- The text that a group matched last; empty for a group that took no part. -/
def partText (text : List Char) (parts : List Part) (index : Nat) : String :=
  match lastPart? parts index with
  | some part => String.ofList ((text.take part.stop).drop part.start)
  | none => ""

theorem size_recordAll (slots : Slots) (parts : List Part) :
    (recordAll slots parts).size = slots.size := by
  induction parts generalizing slots with
  | nil => rfl
  | cons part rest ih => exact (ih _).trans (by simp [Part.record])

theorem lastPart?_concat (parts : List Part) (part : Part) (index : Nat) :
    lastPart? (parts ++ [part]) index =
      if part.group = index then some part else lastPart? parts index := by
  simp only [lastPart?, List.reverse_append, List.reverse_singleton, List.singleton_append,
    List.find?_cons]
  split <;> simp_all

/-- A part puts its places into the slots of its own group. -/
theorem record_slots {slots : Slots} {index : Nat} (inBounds : 2 * index + 1 < slots.size)
    (part : Part) :
    (part.record slots).getD (2 * index) none =
        (if part.group = index then some part.start else slots.getD (2 * index) none) ∧
      (part.record slots).getD (2 * index + 1) none =
        (if part.group = index then some part.stop else slots.getD (2 * index + 1) none) := by
  simp only [Part.record, Array.getD_eq_getD_getElem?, Array.getElem?_setIfInBounds,
    Array.size_setIfInBounds]
  by_cases same : part.group = index
  · subst same
    have opens : 2 * part.group < slots.size := Nat.lt_of_succ_lt inBounds
    simp [opens, inBounds]
  · have opens : ¬ 2 * part.group = 2 * index := by omega
    have closes : ¬ 2 * part.group + 1 = 2 * index + 1 := by omega
    have even : ¬ 2 * part.group + 1 = 2 * index := by omega
    have odd : ¬ 2 * part.group = 2 * index + 1 := by omega
    simp only [same, opens, closes, even, odd, ↓reduceIte, and_self]

/-- The slots of a group hold the places of its last part. -/
theorem recordAll_slots {size index : Nat} (inBounds : 2 * index + 1 < size) (parts : List Part) :
    (recordAll (Array.replicate size none) parts).getD (2 * index) none =
        (lastPart? parts index).map Part.start ∧
      (recordAll (Array.replicate size none) parts).getD (2 * index + 1) none =
        (lastPart? parts index).map Part.stop := by
  induction parts using List.reverseRecOn with
  | nil =>
    have opens : 2 * index < size := Nat.lt_of_succ_lt inBounds
    simp [recordAll, lastPart?, inBounds, opens]
  | append_singleton parts part ih =>
    have fits : 2 * index + 1 < (recordAll (Array.replicate size none) parts).size := by
      rwa [size_recordAll, Array.size_replicate]
    rw [recordAll_append, lastPart?_concat]
    obtain ⟨starts, stops⟩ := record_slots fits part
    rw [ih.1] at starts
    rw [ih.2] at stops
    refine ⟨starts.trans ?_, stops.trans ?_⟩
    · split <;> rfl
    · split <;> rfl

theorem groupText_recordAll {size index : Nat} (inBounds : 2 * index + 1 < size)
    (text : List Char) (parts : List Part) :
    groupText text (recordAll (Array.replicate size none) parts) index =
      partText text parts index := by
  obtain ⟨starts, stops⟩ := recordAll_slots inBounds parts
  unfold groupText partText
  rw [starts, stops]
  cases lastPart? parts index <;> rfl

/-! ## 3. Groups of a search -/

/-- `AnsweredBy e text groups`: `groups` are the texts of the groups of a match of `e`. The first is
the whole match. Each of the others has the index of its number; it is what the group matched last,
or empty if the group took no part. -/
def AnsweredBy (e : Expr) (text : String) (groups : List String) : Prop :=
  ∃ first parts last, Matches text.toList e first parts last ∧ Spans text.toList first parts last ∧
    groups.length = e.maxGroup + 1 ∧
    groups[0]? = some (String.ofList ((text.toList.take last).drop first)) ∧
    ∀ index, 1 ≤ index → index ≤ e.maxGroup →
      (∀ part, lastPart? parts index = some part →
        groups[index]? = some (String.ofList ((text.toList.take part.stop).drop part.start))) ∧
      ((∀ part ∈ parts, part.group ≠ index) → groups[index]? = some "")

theorem lastPart?_eq_none {parts : List Part} {index : Nat}
    (absent : ∀ part ∈ parts, part.group ≠ index) : lastPart? parts index = none := by
  simpa [lastPart?] using absent

/-- A search that finds anything has found a match of the pattern, and answers with its groups. -/
theorem search_matches {e : Expr} (once : e.groupNumbers.Nodup)
    (counted : ∀ n ∈ e.groupNumbers, 1 ≤ n) (fewer : e.groupCount ≤ e.maxGroup) {text : String}
    {groups : List String} (found : (ofExpr e fewer).search text = some groups) :
    AnsweredBy e text groups := by
  obtain ⟨slots, finds, rfl⟩ := Option.map_eq_some_iff.mp found
  obtain ⟨place, thread, ⟨count, first, inText, run⟩, accepts, rfl⟩ :=
    searchFrom_found (List.nil_append text.toList) (by simp) (by simp) finds
  have different : (Expr.group 0 e).groupNumbers.Nodup :=
    List.nodup_cons.mpr ⟨fun member => absurd (counted 0 member) (by omega), once⟩
  obtain ⟨_, ⟨parts, matched, rfl⟩, held⟩ := matches_of_accepts different ⟨run, accepts⟩
  have answered : ∀ index ≤ e.maxGroup, ((List.range (ofExpr e fewer).groups).map
      (groupText text.toList thread.slots))[index]? =
        some (partText text.toList (parts ++ [⟨0, first, place⟩]) index) := by
    intro index inTree
    have inRange : index < (ofExpr e fewer).groups := Nat.lt_succ_of_le inTree
    have inSlots : 2 * index + 1 < 2 * (ofExpr e fewer).groups := by omega
    rw [List.getElem?_map, List.getElem?_range inRange, Option.map_some, held,
      groupText_recordAll inSlots]
  refine ⟨first, parts, place, matched, matched.spans inText, by simp [ofExpr], ?_, ?_⟩
  · rw [answered 0 (Nat.zero_le _), partText, lastPart?_concat, if_pos rfl]
  · intro index positive inTree
    have other : ¬ 0 = index := by omega
    rw [answered index inTree, partText, lastPart?_concat, if_neg other]
    refine ⟨fun part takes => by rw [takes], fun absent => by rw [lastPart?_eq_none absent]⟩

end Regex

end Reroute
