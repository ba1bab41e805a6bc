import Reroute.Regex

/-!
# A pattern that matches every text

A pattern is compiled only if its automata are small enough, and it is searched for by threads that
follow its program. The pattern of a dot and a star passes the first and never fails in the second:
a match of no characters is found where the text begins, and what has been found is not lost.

The memory of a set of characters is bounded by what its open states would take if they were closed
as they stand. No step makes the memory and this bound together grow by more than one state for each
byte range.

Results:
1. `Footprint.addSetForward_within`, `Footprint.loop_fits_forward`: what a set and a loop of it take.
2. `compile_of_read`, `compile_dots`: the pattern is compiled.
3. `searchFrom_of_accepts`: a program that accepts where it begins.
4. `search_everyText`: the pattern is found in every text.
-/

namespace Reroute.Regex

open Reroute.Text

/-! ## 1. The memory of a set -/

namespace Footprint

/-- The memory that open states take at most when they are closed. -/
def openBytes : List OpenState → Nat
  | [] => 0
  | s :: deeper => 32 + 8 * (s.arrows.length + 1) + openBytes deeper

/-- The memory that the byte ranges of a set take at most. -/
def rangeBytes : List (List ByteRange) → Nat
  | [] => 0
  | ranges :: rest => 40 * ranges.length + rangeBytes rest

theorem add_within (f : Footprint) (states attached : Nat)
    (fits : f.bytes + (32 * states + attached) ≤ limit) :
    ∃ after, f.add states attached = some after ∧
      after.bytes = f.bytes + (32 * states + attached) := by
  have grown : (⟨f.states + states, f.attached + attached⟩ : Footprint).bytes =
      f.bytes + (32 * states + attached) := by
    simp only [bytes]
    omega
  refine ⟨_, ?_, grown⟩
  rw [add, within?, if_pos (grown ▸ fits)]

theorem share_within (f : Footprint) (known : Known (List Arrow)) (arrows : List Arrow)
    (fits : f.bytes + (32 + 8 * arrows.length) ≤ limit) :
    ∃ state after known', f.share known arrows = some (state, after, known') ∧
      after.bytes ≤ f.bytes + (32 + 8 * arrows.length) := by
  unfold share
  dsimp only
  split
  · exact ⟨_, _, _, rfl, Nat.le_add_right _ _⟩
  · obtain ⟨after, added, grown⟩ := add_within f 1 (8 * arrows.length) fits
    rw [added]
    exact ⟨_, _, _, rfl, Nat.le_of_eq grown⟩

theorem length_close_le (s : OpenState) (target : Nat) :
    (s.close target).length ≤ s.arrows.length + 1 := by
  unfold OpenState.close
  split <;> simp

theorem closeStates_within (f : Footprint) (known : Known (List Arrow)) (stop : Nat)
    (states : List OpenState) (fits : f.bytes + openBytes states ≤ limit) :
    ∃ state after known', closeStates f known stop states = some (state, after, known') ∧
      after.bytes ≤ f.bytes + openBytes states := by
  induction states with
  | nil => exact ⟨_, _, _, rfl, Nat.le_refl _⟩
  | cons s deeper ih =>
    rw [openBytes] at fits ⊢
    obtain ⟨target, closed, known', closes, held⟩ := ih (by omega)
    have short := length_close_le s target
    obtain ⟨state, after, known'', shares, grown⟩ :=
      share_within closed known' (s.close target) (by omega)
    refine ⟨state, after, known'', ?_, by omega⟩
    rw [closeStates, closes]
    exact shares

theorem openBytes_fresh (ranges : List ByteRange) :
    openBytes (ranges.map fun r => ⟨[], some r⟩) = 40 * ranges.length := by
  induction ranges with
  | nil => rfl
  | cons range rest ih =>
    rw [List.map_cons, openBytes, ih, List.length_cons, List.length_nil]
    omega

/-- With the states that stay open, a sequence takes at most a state for each byte range. -/
theorem addSequence_within (f : Footprint) (known : Known (List Arrow)) (stop : Nat)
    (states : List OpenState) (ranges : List ByteRange)
    (fits : f.bytes + openBytes states + 40 * ranges.length ≤ limit) :
    ∃ states' after known', addSequence f known stop states ranges = some (states', after, known') ∧
      after.bytes + openBytes states' ≤
        f.bytes + openBytes states + 40 * ranges.length := by
  induction states generalizing ranges with
  | nil => exact ⟨_, _, _, by rw [addSequence]; simp, by omega⟩
  | cons s deeper ih =>
    cases ranges with
    | nil => exact ⟨_, _, _, by rw [addSequence]; simp, by omega⟩
    | cons range ranges =>
      rw [openBytes, List.length_cons] at fits ⊢
      rw [addSequence]
      split
      · obtain ⟨states', after, known', adds, held⟩ := ih ranges (by omega)
        rw [adds]
        exact ⟨s :: states', after, known', rfl, by rw [openBytes]; omega⟩
      · obtain ⟨target, after, known', closes, held⟩ :=
          closeStates_within f known stop deeper (by omega)
        rw [closes]
        refine ⟨_, after, known', rfl, ?_⟩
        have short := length_close_le s target
        rw [openBytes, openBytes_fresh]
        dsimp only
        omega

theorem addSequences_within (f : Footprint) (known : Known (List Arrow)) (stop : Nat)
    (states : List OpenState) (sequences : List (List ByteRange))
    (fits : f.bytes + openBytes states + rangeBytes sequences ≤ limit) :
    ∃ after, addSequences f known stop states sequences = some after ∧
      after.bytes ≤ f.bytes + openBytes states + rangeBytes sequences := by
  induction sequences generalizing f known states with
  | nil =>
    obtain ⟨state, after, known', closes, held⟩ :=
      closeStates_within f known stop states (by omega)
    exact ⟨after, by rw [addSequences, closes]; rfl, by omega⟩
  | cons ranges rest ih =>
    rw [rangeBytes] at fits ⊢
    obtain ⟨states', between, known', adds, held⟩ :=
      addSequence_within f known stop states ranges (by omega)
    obtain ⟨after, more, grown⟩ := ih between known' states' (by omega)
    exact ⟨after, by rw [addSequences, adds]; exact more, by omega⟩

theorem addSetForward_within (f : Footprint) (set : CharSet)
    (fits : f.bytes + (72 + rangeBytes (ByteRange.sequences set)) ≤ limit) :
    ∃ after, f.addSetForward set = some after ∧
      after.bytes ≤ f.bytes + (72 + rangeBytes (ByteRange.sequences set)) := by
  have start : openBytes [{}] = 40 := rfl
  obtain ⟨first, added, grown⟩ := add_within f 1 0 (by omega)
  obtain ⟨after, adds, held⟩ :=
    addSequences_within first (Array.replicate 10000 none) f.states [{}]
      (ByteRange.sequences set) (by omega)
  exact ⟨after, by rw [addSetForward, added]; exact adds, by omega⟩

variable (set : CharSet) (greedy : Bool)

theorem addExpr_loop (filled : set.isEmpty = false)
    (wide : (set.runs.all fun run => run.2 ≤ 0x7F) = false) {f first laid : Footprint}
    (begins : f.add 1 4 = some first) (lays : first.addSetForward set = some laid) :
    addExpr .forward (.times 0 none greedy (.chars set)) .alone f = some (laid, true) := by
  have body : addExpr .forward (.chars set) .alone first = some (laid, false) := by
    rw [addExpr]
    simp only [addSet, wide, Bool.false_eq_true, ↓reduceIte, lays, Option.bind_some]
    rfl
  have longer : (!(Expr.chars set).minLength.any (0 < ·)) = false := by
    simp [Expr.minLength, filled]
  rw [addExpr]
  simp only [longer, repeated, begins, bind, Option.bind, body]
  rfl

/-- Read forward, a loop of a set takes the memory of the set and a few states more. -/
theorem loop_fits_forward (filled : set.isEmpty = false)
    (wide : (set.runs.all fun run => run.2 ≤ 0x7F) = false)
    (few : 400 + rangeBytes (ByteRange.sequences set) ≤ limit) :
    (ofExpr? .forward (.times 0 none greedy (.chars set))).isSome = true := by
  have empty : ({} : Footprint).bytes = 0 := rfl
  have free : (Expr.times 0 none greedy (.chars set)).anchoredAtStart = false := rfl
  obtain ⟨skips, skipping, held⟩ :=
    add_within {} 3 16 (by omega)
  obtain ⟨opened, opens, held⟩ :=
    add_within skips 1 0 (by omega)
  obtain ⟨first, begins, held⟩ :=
    add_within opened 1 4 (by omega)
  obtain ⟨laid, lays, held⟩ := addSetForward_within first set (by omega)
  obtain ⟨closed, closes, held⟩ :=
    add_within laid 1 0 (by omega)
  obtain ⟨offered, offers, held⟩ :=
    add_within closed 0 4 (by omega)
  obtain ⟨ended, ends, held⟩ :=
    add_within offered 1 0 (by omega)
  have looped := addExpr_loop set greedy filled wide begins lays
  have grouped : addExpr .forward (.group 0 (.times 0 none greedy (.chars set))) .alone skips =
      some (offered, false) := by
    rw [addExpr]
    simp only [opens, bind, Option.bind, looped, closes, leadOn, ↓reduceIte, offers]
    rfl
  simp only [ofExpr?, free, Bool.false_eq_true, ↓reduceIte, skipping, bind, Option.bind, grouped,
    ends]
  rfl

end Footprint

/-! ## 2. The pattern -/

/-- The characters that a dot stands for. -/
def dotSet : CharSet := ⟨#[(0, 9), (11, 55295), (57344, 1114111)]⟩

/-- Any number of characters that do not end a line. -/
def dots : Expr := .times 0 none true (.chars dotSet)

theorem compl_newline : (CharSet.single '\n').compl = dotSet := by
  simp [CharSet.compl, CharSet.single, CharSet.ofRuns, CharSet.joinRuns, List.mergeSort,
    CharSet.gaps, CharSet.surrogates, CharSet.maxCode, dotSet]

theorem read_dots : readExpr? ".*" false = some dots := by
  rw [dots, ← compl_newline]
  rfl

theorem dots_fit : Footprint.fits dots = true := by
  have few : 400 + Footprint.rangeBytes (ByteRange.sequences dotSet) ≤ Footprint.limit := by
    decide +kernel
  have forward := Footprint.loop_fits_forward dotSet true rfl
    (by simp [dotSet]) few
  have backward : (Footprint.ofExpr? .backward dots).isSome = true := by decide +kernel
  rw [Footprint.fits, dots, forward, ← dots, backward]
  rfl

theorem compile_of_read {pattern : String} {ignoreCase : Bool} {e : Expr}
    (reads : readExpr? pattern ignoreCase = some e) (fits : Footprint.fits e = true) :
    compile pattern ignoreCase = .ok (ofExpr e (groupCount_le_maxGroup reads)) := by
  unfold compile
  split
  · next unread =>
    rw [reads] at unread
    cases unread
  · next other found =>
    obtain rfl := Option.some.inj (reads.symm.trans found)
    rw [if_pos (by rw [fits, Bool.or_true])]

/-- The pattern that matches every text. -/
def everyText : Regex := ofExpr dots (groupCount_le_maxGroup read_dots)

theorem compile_dots : compile ".*" false = .ok everyText := compile_of_read read_dots dots_fit

/-! ## 3. Searches -/

theorem advance_isSome {code : Code} {next : Option Char} {threads : List Thread}
    (accepts : ∃ thread ∈ threads, code[thread.at_]? = some .accept) (moved : Array Thread) :
    (advance code next threads moved).2.isSome = true := by
  obtain ⟨thread, member, accept⟩ := accepts
  induction threads generalizing moved with
  | nil => cases member
  | cons first rest ih =>
    unfold advance
    split
    · rfl
    · next other =>
      have behind : thread ∈ rest := by
        refine (List.mem_cons.mp member).resolve_left ?_
        rintro rfl
        simp [accept] at other
      split <;> exact ih _ behind
    · next other _ =>
      refine ih _ ((List.mem_cons.mp member).resolve_left ?_)
      rintro rfl
      exact other accept

/-- A search that has found a match does not lose it. -/
theorem searchFrom_isSome {program : Program} {empty : Slots} {before : Option Char} {place : Nat}
    {threads : List Thread} {found : Option Slots} (has : found.isSome = true) (text : List Char) :
    (searchFrom program empty before place threads found text).isSome = true := by
  induction text generalizing before place threads found with
  | nil =>
    unfold searchFrom
    simp [has]
  | cons c rest ih =>
    unfold searchFrom
    have kept : ∀ better : Option Slots, (better <|> found).isSome = true := by simp [has]
    simp only [has, ↓reduceIte]
    split
    · exact kept _
    · exact ih (kept _)

/-- A program that accepts where it begins finds a match in every text. -/
theorem searchFrom_of_accepts {program : Program} {empty : Slots}
    (accepts : ∀ next, ∃ thread ∈ settleAll program.code none next 0 [⟨program.entry, empty⟩],
      program.code[thread.at_]? = some .accept) (text : List Char) :
    (searchFrom program empty none 0 [] none text).isSome = true := by
  have better : ∀ next, (advance program.code next
      (settleAll program.code none next 0 [⟨program.entry, empty⟩]) #[]).2.isSome = true :=
    fun next => advance_isSome (accepts next) #[]
  unfold searchFrom
  simp only [Option.isSome_none, Bool.false_eq_true, ↓reduceIte, List.nil_append]
  cases text with
  | nil => simp [better none]
  | cons c rest =>
    have kept := better (some c)
    simp only
    split
    · simp [kept]
    · exact searchFrom_isSome (by simp [kept]) rest


/-! ## 4. Every text -/

theorem dots_accept (next : Option Char) :
    ∃ thread ∈ settleAll everyText.program.code none next 0
        [⟨everyText.program.entry, Array.replicate (2 * everyText.groups) none⟩],
      everyText.program.code[thread.at_]? = some .accept := by
  refine ⟨⟨0, #[some 0, some 0]⟩, ?_, rfl⟩
  have settled : settleAll everyText.program.code none next 0
      [⟨everyText.program.entry, Array.replicate (2 * everyText.groups) none⟩] =
        [⟨3, #[some 0, none]⟩, ⟨0, #[some 0, some 0]⟩] := rfl
  rw [settled]
  exact List.mem_cons_of_mem _ List.mem_cons_self

theorem search_everyText (text : String) : ∃ groups, everyText.search text = some groups := by
  have found := searchFrom_of_accepts dots_accept text.toList
  exact Option.isSome_iff_exists.mp (by rw [search, Option.isSome_map]; exact found)

end Reroute.Regex
