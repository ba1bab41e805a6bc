import Reroute.Regex.Reader

/-!
# The numbers of groups

A pattern is read with one counter: every group that is opened takes the next number. The
functions that build trees move groups, take common ones out in front and drop those that are
repeated zero times, but they write none twice. So the groups of a tree have different numbers,
all above zero.

Results:
1. `altOf_count`, `seqOf_numbers`, `repeated_count`: building keeps or drops groups.
2. `Fresh.step`, `Fresh.run`: while a pattern is read no number is used twice or before its turn.
3. `groupNumbers_read`, `groupCount_le_maxGroup`: a tree that was read has different numbers, and no
   more groups than its largest number.
-/

namespace Reroute.Regex

namespace Expr

/-! ## 1. Building trees -/

/-- The numbers of the groups of a tree, from left to right. -/
def groupNumbers : Expr → List Nat
  | .empty | .literal _ | .chars _ | .look _ => []
  | .seq a b => a.groupNumbers ++ b.groupNumbers
  | .alt a b => a.groupNumbers ++ b.groupNumbers
  | .group n e => n :: e.groupNumbers
  | .times _ _ _ e => e.groupNumbers

/-- The numbers of the groups of several trees. -/
def numbersOf (es : List Expr) : List Nat := es.flatMap groupNumbers

@[simp] theorem numbersOf_nil : numbersOf [] = [] := rfl

@[simp] theorem numbersOf_cons (e : Expr) (es : List Expr) :
    numbersOf (e :: es) = e.groupNumbers ++ numbersOf es := rfl

theorem numbersOf_singleton (e : Expr) : numbersOf [e] = e.groupNumbers := by simp

@[simp] theorem numbersOf_append (es more : List Expr) :
    numbersOf (es ++ more) = numbersOf es ++ numbersOf more := List.flatMap_append

theorem numbersOf_flatMap (f : Expr → List Expr)
    (keeps : ∀ e, numbersOf (f e) = e.groupNumbers) (es : List Expr) :
    numbersOf (es.flatMap f) = numbersOf es := by
  induction es with
  | nil => rfl
  | cons e es ih => rw [List.flatMap_cons, numbersOf_append, keeps, ih, numbersOf_cons]

theorem length_groupNumbers (e : Expr) : e.groupNumbers.length = e.groupCount := by
  induction e with
  | empty | literal | chars | look => rfl
  | seq a b iha ihb | alt a b iha ihb => simp [groupNumbers, groupCount, iha, ihb]
  | group n e ih => simp [groupNumbers, groupCount, ih]
  | times min max greedy e ih => simpa [groupNumbers, groupCount] using ih

theorem le_maxGroup {e : Expr} {n : Nat} (h : n ∈ e.groupNumbers) : n ≤ e.maxGroup := by
  induction e with
  | empty | literal | chars | look => cases h
  | seq a b iha ihb | alt a b iha ihb =>
    rcases List.mem_append.mp h with ha | hb
    · exact Nat.le_trans (iha ha) (Nat.le_max_left _ _)
    · exact Nat.le_trans (ihb hb) (Nat.le_max_right _ _)
  | group m e ih =>
    rcases List.mem_cons.mp h with rfl | he
    · exact Nat.le_max_left _ _
    · exact Nat.le_trans (ih he) (Nat.le_max_right _ _)
  | times min max greedy e ih => exact ih h

@[simp] theorem oneOf_numbers (set : Text.CharSet) : (oneOf set).groupNumbers = [] := by
  unfold oneOf
  split
  · split <;> rfl
  · rfl

theorem repeated_count (min : Nat) (max : Option Nat) (greedy : Bool) (e : Expr) (n : Nat) :
    (repeated min max greedy e).groupNumbers.count n ≤ e.groupNumbers.count n := by
  simp only [repeated]
  generalize (if e.zeroWidth then Nat.min min 1 else min) = low
  generalize (if e.zeroWidth then some (Nat.min (max.getD 1) 1) else max) = high
  split
  · exact Nat.zero_le _
  split
  · exact Nat.le_refl _
  · exact Nat.le_refl _

theorem parts_numbers (e : Expr) : numbersOf e.parts = e.groupNumbers := by
  induction e with
  | seq a b _ ihb => rw [parts, numbersOf_cons, ihb, groupNumbers]
  | empty => rfl
  | literal | chars | look | alt | group | times => simp [parts]

theorem joinLiterals_numbers (es : List Expr) : numbersOf (joinLiterals es) = numbersOf es := by
  fun_induction joinLiterals es with
  | case1 => rfl
  | case2 text rest more tail joined ih =>
    rw [joined] at ih
    simpa [groupNumbers] using ih
  | case3 text rest _ ih => rw [numbersOf_cons, ih, numbersOf_cons]
  | case4 e rest _ ih => rw [numbersOf_cons, ih, numbersOf_cons]

theorem chain_numbers (es : List Expr) : (chain es).groupNumbers = numbersOf es := by
  fun_induction chain es with
  | case1 => rfl
  | case2 e => simp
  | case3 e rest _ ih => rw [groupNumbers, ih, numbersOf_cons]

theorem seqOf_numbers (es : List Expr) : (seqOf es).groupNumbers = numbersOf es := by
  rw [seqOf, chain_numbers, joinLiterals_numbers, numbersOf_flatMap parts parts_numbers]

theorem branches_numbers (e : Expr) : numbersOf e.branches = e.groupNumbers := by
  induction e with
  | alt a b _ ihb => rw [branches, numbersOf_cons, ihb, groupNumbers]
  | empty | literal | chars | look | seq | group | times => simp [branches]

theorem choice_numbers (es : List Expr) : (choice es).groupNumbers = numbersOf es := by
  fun_induction choice es with
  | case1 => rfl
  | case2 e => simp
  | case3 e rest _ ih => rw [groupNumbers, ih, numbersOf_cons]

theorem united_numbers {es : List Expr} {e : Expr} (h : united? es = some e) :
    e.groupNumbers = [] := by
  unfold united? at h
  split at h
  · cases h
    exact oneOf_numbers _
  · obtain ⟨sets, _, rfl⟩ := Option.map_eq_some_iff.mp h
    exact oneOf_numbers _

theorem commonStart_begins (es more : List Expr) : commonStart es more <+: es := by
  fun_induction commonStart es more with
  | case1 as b bs ih => exact (List.prefix_cons_inj b).mpr ih
  | case2 => exact List.nil_prefix
  | case3 => exact List.nil_prefix

/-- What alternatives share stands at the beginning of the first of them. -/
theorem sharedStart_begins (first : Expr) (rest : List Expr) :
    sharedStart (first :: rest) <+: first.parts := by
  have shrinks : ∀ (es : List Expr) (start : List Expr),
      es.foldl (fun start e => commonStart start e.parts) start <+: start := by
    intro es
    induction es with
    | nil => intro start; exact List.prefix_rfl
    | cons e es ih =>
      intro start
      exact (ih _).trans (commonStart_begins start e.parts)
  rw [sharedStart]
  split
  · exact shrinks rest first.parts
  · exact List.nil_prefix

/-- Alternatives without their first parts hold no group more often than before. -/
theorem dropParts_count (k n : Nat) (es : List Expr) :
    (numbersOf (es.map fun e => chain (e.parts.drop k))).count n ≤ (numbersOf es).count n := by
  induction es with
  | nil => exact Nat.le_refl _
  | cons e es ih =>
    have whole : numbersOf (e.parts.take k) ++ numbersOf (e.parts.drop k) = e.groupNumbers := by
      rw [← numbersOf_append, List.take_append_drop, parts_numbers]
    simp only [List.map_cons, numbersOf_cons, chain_numbers, ← whole, List.count_append]
    omega

theorem unitedOrChoice_count (es : List Expr) (n : Nat) :
    ((united? es).getD (choice es)).groupNumbers.count n ≤ (numbersOf es).count n := by
  cases united : united? es with
  | none =>
    exact Nat.le_of_eq (by rw [Option.getD_none, choice_numbers])
  | some e =>
    rw [Option.getD_some, united_numbers united]
    exact Nat.zero_le _

/-- What all alternatives begin with is written once, so groups may only get lost. -/
theorem factored_count {start : List Expr} {first : Expr} (shared : start <+: first.parts)
    (rest : List Expr) (n : Nat) :
    (numbersOf start).count n +
        (numbersOf ((first :: rest).map fun e => chain (e.parts.drop start.length))).count n ≤
      (numbersOf (first :: rest)).count n := by
  have whole : numbersOf start ++ numbersOf (first.parts.drop start.length) =
      first.groupNumbers := by
    rw [← numbersOf_append, List.prefix_iff_eq_append.mp shared, parts_numbers]
  have dropped := dropParts_count start.length n rest
  simp only [List.map_cons, numbersOf_cons, chain_numbers, ← whole, List.count_append]
  omega

theorem altOf_count (es : List Expr) (n : Nat) :
    (altOf es).groupNumbers.count n ≤ (numbersOf es).count n := by
  rw [← numbersOf_flatMap branches branches_numbers es, altOf]
  generalize es.flatMap branches = all
  dsimp only
  split
  · rename_i e united
    rw [united_numbers united]
    exact Nat.zero_le _
  split
  · exact Nat.le_of_eq (by rw [choice_numbers])
  · cases all with
    | nil => exact absurd rfl ‹_›
    | cons first rest =>
      -- The common start is written once, in front of a choice of what is left of each.
      have factored := factored_count (sharedStart_begins first rest) rest n
      rw [← numbersOf_flatMap branches branches_numbers (List.map _ _)] at factored
      have rests := unitedOrChoice_count (((first :: rest).map fun e =>
        chain (e.parts.drop (sharedStart (first :: rest)).length)).flatMap branches) n
      rw [seqOf_numbers, numbersOf_append, numbersOf_singleton, List.count_append]
      omega

end Expr

/-! ## 2. Reading a pattern -/

namespace Reader

open Reroute.Regex.Expr

/-- The numbers of the groups in finished parts. -/
def numbersIn (pieces : List Piece) : List Nat := numbersOf (pieces.map (·.expr))

@[simp] theorem numbersIn_nil : numbersIn [] = [] := rfl

@[simp] theorem numbersIn_cons (piece : Piece) (pieces : List Piece) :
    numbersIn (piece :: pieces) = piece.expr.groupNumbers ++ numbersIn pieces := rfl

/-- The numbers that wait around an open group, its own among them. -/
def outerNumbers (o : Outer) : List Nat :=
  o.group.toList ++ numbersIn o.pieces ++ numbersIn o.branches

/-- All numbers of groups that a reader holds. -/
def numbers (r : Reader) : List Nat :=
  numbersIn r.pieces ++ numbersIn r.branches ++ r.outer.flatMap outerNumbers

/-- No number is held twice, and none that the counter has not reached. -/
structure Fresh (r : Reader) : Prop where
  once : ∀ n, r.numbers.count n ≤ 1
  counted : ∀ n, n ∈ r.numbers → 1 ≤ n ∧ n ≤ r.groups

/-- A step that opens no capturing group: it may only drop groups. -/
def Keeps (r next : Reader) : Prop :=
  next.groups = r.groups ∧ ∀ n, next.numbers.count n ≤ r.numbers.count n

theorem Fresh.of_keeps {r next : Reader} (h : r.Fresh) (keeps : r.Keeps next) : next.Fresh where
  once n := Nat.le_trans (keeps.2 n) (h.once n)
  counted n held := by
    have before : n ∈ r.numbers :=
      List.count_pos_iff.mp (Nat.lt_of_lt_of_le (List.count_pos_iff.mpr held) (keeps.2 n))
    rw [keeps.1]
    exact h.counted n before

/-- Opening a capturing group takes a number that no group has. -/
theorem Fresh.opened {r : Reader} (h : r.Fresh) (names : List String) (flags : Flags) :
    (openGroup { r with groups := r.groups + 1, names } (some (r.groups + 1)) flags).Fresh := by
  have unused : r.groups + 1 ∉ r.numbers :=
    fun held => Nat.not_succ_le_self _ (h.counted _ held).2
  have same : ∀ n, (openGroup { r with groups := r.groups + 1, names } (some (r.groups + 1))
      flags).numbers.count n = ((r.groups + 1) :: r.numbers).count n := by
    intro n
    simp [numbers, openGroup, outerNumbers, numbersIn, List.count_cons]
  constructor
  · intro n
    rw [same, List.count_cons]
    split
    · rename_i isNext
      exact Nat.le_of_eq (by rw [← beq_iff_eq.mp isNext, List.count_eq_zero.mpr unused])
    · exact h.once n
  · intro n held
    have held : n ∈ (r.groups + 1) :: r.numbers := by
      rw [← List.count_pos_iff, ← same, List.count_pos_iff]
      exact held
    rcases List.mem_cons.mp held with rfl | before
    · exact ⟨Nat.succ_pos _, Nat.le_refl _⟩
    · exact ⟨(h.counted n before).1, Nat.le_succ_of_le (h.counted n before).2⟩

theorem numbersOf_reverse_count (es : List Expr) (n : Nat) :
    (numbersOf es.reverse).count n = (numbersOf es).count n :=
  ((List.reverse_perm es).flatMap_right groupNumbers).count_eq n

theorem closeBranch_count (r : Reader) (n : Nat) :
    r.closeBranch.expr.groupNumbers.count n = (numbersIn r.pieces).count n := by
  unfold closeBranch
  split
  · rename_i none
    simp [none, numbersIn, groupNumbers]
  · rename_i piece one
    simp [one, numbersIn]
  · rw [seqOf_numbers, List.map_reverse, numbersOf_reverse_count, numbersIn]

theorem closeBranches_count (r : Reader) (n : Nat) :
    r.closeBranches.expr.groupNumbers.count n ≤
      (numbersIn r.pieces).count n + (numbersIn r.branches).count n := by
  unfold closeBranches
  split
  · rw [closeBranch_count]
    exact Nat.le_add_right _ _
  · refine Nat.le_trans (altOf_count _ n) ?_
    rw [List.map_reverse, numbersOf_reverse_count, ← closeBranch_count, ← List.count_append]
    exact Nat.le_refl _

theorem keeps_push (r : Reader) {e : Expr} (noGroups : e.groupNumbers = []) (depth : Nat) :
    r.Keeps (r.push e depth) := by
  refine ⟨rfl, fun n => ?_⟩
  simp [push, numbers, noGroups]

theorem keeps_closeGroup {r next : Reader} (h : r.closeGroup? = some next) : r.Keeps next := by
  unfold closeGroup? at h
  split at h
  · cases h
  · rename_i o outer opened
    cases h
    refine ⟨rfl, fun n => ?_⟩
    have inner := closeBranches_count r n
    cases group : o.group with
    -- The numbers inside move outwards, behind that of the group itself if it has one.
    | none =>
      simp only [numbers, opened, outerNumbers, group, numbersIn_cons, List.flatMap_cons,
        List.count_append, Option.toList_none, List.count_nil]
      omega
    | some index =>
      simp only [numbers, opened, outerNumbers, group, numbersIn_cons, List.flatMap_cons,
        List.count_append, groupNumbers, List.count_cons, Option.toList_some, List.count_nil]
      omega

theorem keeps_repeatLast {r next : Reader} {min : Nat} {max : Option Nat} {greedy : Bool}
    (h : r.repeatLast? min max greedy = some next) : r.Keeps next := by
  unfold repeatLast? at h
  split at h
  · rename_i piece pieces held
    split at h
    · cases h
      refine ⟨rfl, fun n => ?_⟩
      have repeated := repeated_count min max (greedy != r.flags.swapGreed) piece.expr n
      simp only [numbers, held, numbersIn_cons, List.count_append]
      omega
    · cases h
  · cases h

theorem keeps_bar (r : Reader) :
    r.Keeps { r with pieces := [], branches := r.closeBranch :: r.branches } := by
  refine ⟨rfl, fun n => ?_⟩
  have branch := closeBranch_count r n
  simp only [numbers, numbersIn_nil, numbersIn_cons, List.count_append, List.count_nil]
  omega

theorem literal_numbers {flags : Flags} {c : Char} {byte : Bool} {e : Expr}
    (h : literal? flags c byte = some e) : e.groupNumbers = [] := by
  unfold literal? at h
  split at h
  · cases h
  split at h
  · cases h
    rfl
  split at h
  · cases h
    exact oneOf_numbers _
  · cases h
    exact oneOf_numbers _

theorem dot_numbers {flags : Flags} {e : Expr} (h : dot? flags = some e) :
    e.groupNumbers = [] := by
  unfold dot? at h
  repeat' split at h
  all_goals cases h
  all_goals rfl

theorem keeps_readCounted {r next : Reader} {cs rest : List Char}
    (h : r.readCounted? cs = some (next, rest)) : r.Keeps next := by
  simp only [readCounted?, Option.bind_eq_bind, Option.bind_eq_some_iff] at h
  obtain ⟨⟨min, max, behind⟩, _, h⟩ := h
  split at h
  · obtain ⟨repeated, again, last⟩ := Option.bind_eq_some_iff.mp h
    cases last
    exact keeps_repeatLast again
  · cases h

theorem Fresh.namedGroup {r next : Reader} {cs rest : List Char} (fresh : r.Fresh)
    (h : r.namedGroup? cs = some (next, rest)) : next.Fresh := by
  simp only [namedGroup?, Option.bind_eq_bind, Option.bind_eq_some_iff] at h
  obtain ⟨⟨name, tail⟩, _, h⟩ := h
  dsimp only at h
  split at h
  · cases h
  · cases h
    exact fresh.opened _ _

theorem Fresh.readGroup {r next : Reader} {cs rest : List Char} (fresh : r.Fresh)
    (h : r.readGroup? cs = some (next, rest)) : next.Fresh := by
  unfold readGroup? at h
  split at h
  · cases h
  · cases h
  · cases h
  · cases h
  · exact fresh.namedGroup h
  · exact fresh.namedGroup h
  · simp only [Option.bind_eq_bind, Option.bind_eq_some_iff] at h
    obtain ⟨⟨flags, any, stop, tail⟩, _, h⟩ := h
    dsimp only at h
    split at h
    · cases h
      refine fresh.of_keeps ⟨rfl, fun n => ?_⟩
      simp [openGroup, numbers, outerNumbers]
    split at h
    · cases h
      exact fresh.of_keeps ⟨rfl, fun n => Nat.le_refl _⟩
    · cases h
  · cases h
    exact fresh.opened _ _

/-- No step of the reader uses a number twice. -/
theorem Fresh.step {r next : Reader} {c : Char} {cs rest : List Char} (fresh : r.Fresh)
    (h : r.step c cs = some (next, rest)) : next.Fresh := by
  unfold Reader.step at h
  split at h
  · exact fresh.readGroup h
  · obtain ⟨closed, closes, last⟩ := Option.map_eq_some_iff.mp h
    cases last
    exact fresh.of_keeps (keeps_closeGroup closes)
  · cases h
    exact fresh.of_keeps (keeps_bar r)
  · obtain ⟨found, _, last⟩ := Option.map_eq_some_iff.mp h
    cases last
    exact fresh.of_keeps (keeps_push r (oneOf_numbers _) _)
  · obtain ⟨repeated, again, last⟩ := Option.map_eq_some_iff.mp h
    cases last
    exact fresh.of_keeps (keeps_repeatLast again)
  · obtain ⟨repeated, again, last⟩ := Option.map_eq_some_iff.mp h
    cases last
    exact fresh.of_keeps (keeps_repeatLast again)
  · obtain ⟨repeated, again, last⟩ := Option.map_eq_some_iff.mp h
    cases last
    exact fresh.of_keeps (keeps_repeatLast again)
  · exact fresh.of_keeps (keeps_readCounted h)
  · obtain ⟨e, dot, last⟩ := Option.map_eq_some_iff.mp h
    cases last
    exact fresh.of_keeps (keeps_push r (dot_numbers dot) _)
  · cases h
    exact fresh.of_keeps (keeps_push r rfl _)
  · cases h
    exact fresh.of_keeps (keeps_push r rfl _)
  · obtain ⟨⟨atom, tail⟩, _, h⟩ := Option.bind_eq_some_iff.mp h
    cases atom with
    | literal c byte =>
      obtain ⟨e, literal, last⟩ := Option.map_eq_some_iff.mp h
      cases last
      exact fresh.of_keeps (keeps_push r (literal_numbers literal) _)
    | «class» set =>
      cases h
      exact fresh.of_keeps (keeps_push r (oneOf_numbers _) _)
    | look condition =>
      cases h
      exact fresh.of_keeps (keeps_push r rfl _)
  · obtain ⟨e, literal, last⟩ := Option.map_eq_some_iff.mp h
    cases last
    exact fresh.of_keeps (keeps_push r (literal_numbers literal) _)

theorem Fresh.run {fuel : Nat} {r last : Reader} {cs : List Char} (fresh : r.Fresh)
    (h : run fuel r cs = some last) : last.Fresh := by
  induction fuel generalizing r cs with
  | zero => cases h
  | succ fuel ih =>
    unfold Reader.run at h
    split at h
    · cases h
      exact fresh
    · obtain ⟨⟨next, rest⟩, steps, h⟩ := Option.bind_eq_some_iff.mp h
      exact ih (fresh.step steps) h

theorem fresh_start (flags : Flags) : Fresh { flags } where
  once n := Nat.zero_le _
  counted n held := by cases held

end Reader

/-! ## 3. Trees that have been read -/

/-- The groups of a tree that was read have different numbers, all above zero. -/
theorem groupNumbers_read {pattern : String} {ignoreCase : Bool} {e : Expr}
    (h : readExpr? pattern ignoreCase = some e) :
    e.groupNumbers.Nodup ∧ ∀ n ∈ e.groupNumbers, 1 ≤ n := by
  simp only [readExpr?, Option.bind_eq_bind, Option.bind_eq_some_iff] at h
  obtain ⟨r, reads, h⟩ := h
  split at h
  · cases h
  split at h
  · cases h
    have fresh : r.Fresh := (Reader.fresh_start _).run reads
    have held : ∀ n, r.closeBranches.expr.groupNumbers.count n ≤ r.numbers.count n := by
      intro n
      have inner := Reader.closeBranches_count r n
      simp only [Reader.numbers, List.count_append]
      omega
    refine ⟨List.nodup_iff_count.mpr fun n => Nat.le_trans (held n) (fresh.once n), ?_⟩
    intro n member
    have inReader : n ∈ r.numbers :=
      List.count_pos_iff.mp (Nat.lt_of_lt_of_le (List.count_pos_iff.mpr member) (held n))
    exact (fresh.counted n inReader).1
  · cases h

/-- The numbers of a tree that was read are among those up to the largest. -/
theorem groupNumbers_subset {pattern : String} {ignoreCase : Bool} {e : Expr}
    (h : readExpr? pattern ignoreCase = some e) :
    e.groupNumbers ⊆ List.range' 1 e.maxGroup := by
  intro n member
  rw [List.mem_range'_1]
  exact ⟨(groupNumbers_read h).2 n member, by have := Expr.le_maxGroup member; omega⟩

/-- So there are at most as many groups as the largest number says. There are fewer where a group
before the last was dropped. -/
theorem groupCount_le_maxGroup {pattern : String} {ignoreCase : Bool} {e : Expr}
    (h : readExpr? pattern ignoreCase = some e) : e.groupCount ≤ e.maxGroup := by
  rw [← Expr.length_groupNumbers]
  simpa using (groupNumbers_read h).1.length_le_of_subset (groupNumbers_subset h)

end Reroute.Regex
