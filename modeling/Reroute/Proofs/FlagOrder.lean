import Mathlib.Data.List.DropRight
import Mathlib.Data.List.Perm.Basic
import Reroute.Proofs.PatternRules

/-!
# The order of flags

A rule line ends with a list of flags in brackets. What the list says is found by asking whether it
holds a flag, which of its flags answers, and how many rules its first skip flag leaves out. If it
holds no two flags that exclude each other, and skips at most once, none of this depends on the
order of its entries. So lists with the same entries are accepted together, and stand for the same
rule on every line.

Results:
1. `entries_of_splitFlags`, `splitFlags_listed`: the entries of a list, and the list of entries.
2. `read_ok_iff`: a list is accepted if its entries are flags that may stand together;
   `read_permuted`: so is every order of them.
3. `findSome_permuted`, `Alike.of_permuted`: what a line asks of its flags.
4. `Alike.compile`, `ofWords_eq`: a line asks nothing else.
5. `order_irrelevant`: every order of a list, and which lists are accepted.
-/

namespace Reroute

open Reroute.Text

/-! ## 1. Entries -/

namespace Text

theorem head_trimStart {cs : List Char} {c : Char} (first : (trimStart cs).head? = some c) :
    isBlank c = false := by
  have kept := List.head?_dropWhile_not isBlank cs
  rw [← trimStart, first] at kept
  simpa using kept

theorem trimList_begins (cs : List Char) : trimList cs <+: trimStart cs :=
  List.rdropWhile_prefix isBlank (trimStart cs)

theorem trimList_trimList (cs : List Char) : trimList (trimList cs) = trimList cs := by
  refine trimList_eq_self (fun c first => ?_) (fun c last => ?_)
  · -- Trimming the end leaves the first character where it is.
    obtain ⟨more, whole⟩ := trimList_begins cs
    have same : (trimStart cs).head? = some c := by
      rw [← whole, List.head?_append, first]
      rfl
    exact head_trimStart same
  · obtain ⟨filled, same⟩ := List.mem_getLast?_eq_getLast last
    have kept := List.rdropWhile_last_not isBlank (trimStart cs) filled
    rw [same]
    exact Bool.eq_false_iff.mpr kept

theorem mem_of_mem_trimList {c : Char} {cs : List Char} (member : c ∈ trimList cs) : c ∈ cs :=
  (List.dropWhile_sublist isBlank).mem ((trimList_begins cs).sublist.mem member)

/-- Pieces without the separator are found again when they are joined with it. -/
theorem splitAll_intercalate {separator : Char} {pieces : List (List Char)} (filled : pieces ≠ [])
    (free : ∀ piece ∈ pieces, separator ∉ piece) :
    splitAll separator ([separator].intercalate pieces) = pieces := by
  induction pieces with
  | nil => exact absurd rfl filled
  | cons piece rest ih =>
    obtain ⟨here, later⟩ := List.forall_mem_cons.mp free
    cases rest with
    | nil =>
      rw [List.intercalate_singleton]
      exact (splitAll_of_free here).1
    | cons next more =>
      rw [List.intercalate_cons_cons, List.append_assoc, List.singleton_append,
        (splitAll_of_free here).2, ih (by simp) later]

end Text

/-- A text that can stand between the commas of a list: it is not empty, no blanks are around it,
and no comma is in it. -/
structure IsEntry (entry : String) : Prop where
  filled : entry ≠ ""
  trimmed : trimList entry.toList = entry.toList
  apart : ',' ∉ entry.toList

/-- The list of entries, in brackets. -/
def listed (entries : List String) : String :=
  String.ofList ('[' :: ([','].intercalate (entries.map String.toList) ++ [']']))

theorem splitFlags_some {text : String} {entries : List String}
    (split : splitFlags? text = some entries) :
    ∃ inner, ((splitAll ',' inner).map trimList).filterMap (fun flag =>
      if flag.isEmpty then none else some (String.ofList flag)) = entries := by
  unfold splitFlags? at split
  split at split
  · split at split
    · exact ⟨_, Option.some.inj split⟩
    · cases split
  · cases split

theorem entries_of_splitFlags {text : String} {entries : List String}
    (split : splitFlags? text = some entries) : ∀ entry ∈ entries, IsEntry entry := by
  obtain ⟨inner, rfl⟩ := splitFlags_some split
  intro entry member
  obtain ⟨_, trimmed, kept⟩ := List.mem_filterMap.mp member
  obtain ⟨piece, inside, rfl⟩ := List.mem_map.mp trimmed
  split at kept
  · cases kept
  · next filled =>
    cases kept
    refine ⟨by simpa using filled, by simp [trimList_trimList], fun comma => ?_⟩
    rw [String.toList_ofList] at comma
    exact (Directive.splitAll_pieces ',' inner).2.1 piece inside (mem_of_mem_trimList comma)

theorem splitFlags_listed {entries : List String} (areEntries : ∀ entry ∈ entries, IsEntry entry) :
    splitFlags? (listed entries) = some entries := by
  have whole : (listed entries).toList =
      '[' :: ([','].intercalate (entries.map String.toList) ++ [']']) := String.toList_ofList
  rw [Directive.splitFlags_bracketed whole]
  cases entries with
  | nil => rfl
  | cons first rest =>
    have free : ∀ piece ∈ (first :: rest).map String.toList, ',' ∉ piece :=
      List.forall_mem_map.mpr fun entry member => (areEntries entry member).apart
    have trimmed : ((first :: rest).map String.toList).map trimList =
        (first :: rest).map String.toList := by
      rw [List.map_map]
      exact List.map_congr_left fun entry member => (areEntries entry member).trimmed
    have kept : ((first :: rest).map String.toList).filterMap (fun flag =>
        if flag.isEmpty then none else some (String.ofList flag)) = first :: rest := by
      rw [List.filterMap_map]
      refine (List.filterMap_congr fun entry member => ?_).trans List.filterMap_some
      have filled := (areEntries entry member).filled
      simp [filled]
    rw [splitAll_intercalate (by simp) free, trimmed, kept]

/-! ## 2. Lists that are accepted -/

namespace RuleFlag

def isRedirect : RuleFlag → Bool
  | .redirect _ => true
  | _ => false

/-- How many rules the flag leaves out, if it is one for this. -/
def skipCount? : RuleFlag → Option Nat
  | .skip n => some n
  | _ => none

def isSkip (flag : RuleFlag) : Bool := flag.skipCount?.isSome

end RuleFlag

namespace RuleFlags

/-- Flags that may stand together in a list: there are some, of the two that end the list of rules
at most one, and of the three that answer the request at most one. -/
structure Admissible (flags : RuleFlags) : Prop where
  filled : flags ≠ []
  ending : flags.count .last + flags.count .end_ ≤ 1
  answering : flags.countP RuleFlag.isRedirect + flags.count .forbidden + flags.count .gone ≤ 1

theorem countP_isLast (flags : RuleFlags) :
    flags.countP RuleFlag.isLast = flags.count .last + flags.count .end_ := by
  induction flags with
  | nil => rfl
  | cons flag rest ih =>
    cases flag <;> simp [List.countP_cons, RuleFlag.isLast, ih] <;> omega

theorem countP_isResolve (flags : RuleFlags) :
    flags.countP RuleFlag.isResolve =
      flags.countP RuleFlag.isRedirect + flags.count .forbidden + flags.count .gone := by
  induction flags with
  | nil => rfl
  | cons flag rest ih =>
    cases flag <;>
      simp [List.countP_cons, RuleFlag.isResolve, RuleFlag.isRedirect, ih] <;>
      omega

theorem Admissible.permuted {flags flags' : RuleFlags} (admissible : flags.Admissible)
    (permuted : flags.Perm flags') : Admissible flags' where
  filled empty := admissible.filled (List.Perm.eq_nil (empty ▸ permuted))
  ending := by
    rw [← permuted.count_eq, ← permuted.count_eq]
    exact admissible.ending
  answering := by
    rw [← permuted.countP_eq, ← permuted.count_eq, ← permuted.count_eq]
    exact admissible.answering

/-- Each entry of a list of texts is the flag at its place. -/
def AreFlags (entries : List String) (flags : RuleFlags) : Prop :=
  List.Forall₂ (fun entry flag => RuleFlag.read entry = .ok flag) entries flags

/-- A list is accepted if its entries are flags that may stand together. -/
theorem read_ok_iff {text : String} {flags : RuleFlags} :
    read text = .ok flags ↔
      ∃ entries, splitFlags? text = some entries ∧ AreFlags entries flags ∧ Admissible flags := by
  constructor
  · intro reads
    unfold read at reads
    split at reads
    · cases reads
    · next entries split =>
      split at reads
      · cases reads
      · next found each =>
        split at reads
        · cases reads
        · next filled =>
          split at reads
          · cases reads
          · next allowed =>
            cases reads
            simp only [countP_isLast, countP_isResolve, Bool.or_eq_true, decide_eq_true_eq, not_or,
              Nat.not_lt] at allowed
            exact ⟨entries, split, mapM_ok_iff.mp each,
              by simpa using filled, allowed.1, allowed.2⟩
  · rintro ⟨entries, split, areFlags, filled, ending, answering⟩
    rw [← countP_isLast] at ending
    rw [← countP_isResolve] at answering
    have filled : flags.isEmpty = false := List.isEmpty_eq_false_iff.mpr filled
    have allowed : (decide (1 < flags.countP RuleFlag.isLast) ||
        decide (1 < flags.countP RuleFlag.isResolve)) = false := by
      simp only [Bool.or_eq_false_iff, decide_eq_false_iff_not, Nat.not_lt]
      exact ⟨ending, answering⟩
    unfold read
    rw [split]
    dsimp only
    rw [mapM_ok_iff.mpr areFlags]
    dsimp only
    rw [filled, allowed]
    rfl

/-- A list that is accepted is accepted with its entries in any order, and has the same flags. -/
theorem read_permuted {text text' : String} {entries entries' : List String} {flags : RuleFlags}
    (split : splitFlags? text = some entries) (split' : splitFlags? text' = some entries')
    (permuted : entries.Perm entries') (reads : read text = .ok flags) :
    ∃ flags', read text' = .ok flags' ∧ flags.Perm flags' := by
  obtain ⟨found, same, areFlags, admissible⟩ := read_ok_iff.mp reads
  obtain rfl : entries = found := Option.some.inj (split.symm.trans same)
  obtain ⟨flags', areFlags', order⟩ := List.perm_comp_forall₂ permuted.symm areFlags
  exact ⟨flags', read_ok_iff.mpr ⟨entries', split', areFlags', admissible.permuted order.symm⟩,
    order.symm⟩

/-! ## 3. What a line asks of its flags -/

/-- What is found once at most is found in every order. -/
theorem findSome_permuted {α β : Type} {f : α → Option β} {xs ys : List α} (permuted : xs.Perm ys)
    (once : xs.countP (fun x => (f x).isSome) ≤ 1) : xs.findSome? f = ys.findSome? f := by
  have same : xs.filterMap f = ys.filterMap f := by
    have found := permuted.filterMap f
    rw [← List.length_filterMap_eq_countP] at once
    cases here : xs.filterMap f with
    | nil =>
      rw [here] at found
      exact (List.nil_perm.mp found).symm
    | cons b rest =>
      rw [here, List.length_cons] at once
      obtain rfl : rest = [] := List.eq_nil_of_length_eq_zero (by omega)
      rw [here] at found
      exact List.singleton_perm.mp found
  rw [← List.head?_filterMap, ← List.head?_filterMap, same]

/-- Two lists of flags answer all that a line asks of them alike. -/
structure Alike (flags flags' : RuleFlags) : Prop where
  contains : ∀ flag, flags.contains flag = flags'.contains flag
  skip : flags.skip = flags'.skip
  resolve : flags.resolve? = flags'.resolve?

theorem Alike.of_permuted {flags flags' : RuleFlags} (permuted : flags.Perm flags')
    (admissible : Admissible flags) (skips : flags.countP RuleFlag.isSkip ≤ 1) :
    Alike flags flags' where
  contains flag := permuted.contains_eq
  skip := congrArg (Option.getD · 0) (findSome_permuted (f := RuleFlag.skipCount?) permuted skips)
  resolve := by
    have once : flags.countP RuleFlag.isResolve ≤ 1 := by
      rw [countP_isResolve]
      exact admissible.answering
    rw [resolve?, resolve?, List.find?_eq_findSome?_guard, List.find?_eq_findSome?_guard]
    refine findSome_permuted permuted ?_
    simpa using once

end RuleFlags

/-! ## 4. Lines -/

/-- The rule that a line of these words stands for, or what is wrong with it. -/
def RuleLine.ofWords (words : List String) (conditions : List Condition) (enabled : Bool)
    (options : RuleOptions) : Except DirectiveError Rule := do
  let line ← (read words).mapError DirectiveError.rule
  line.compile conditions enabled options

namespace RuleFlags

variable {flags flags' : RuleFlags}

theorem Alike.compile (alike : Alike flags flags') (pattern substitution : String) :
    RuleLine.compile ⟨pattern, substitution, flags⟩ =
      RuleLine.compile ⟨pattern, substitution, flags'⟩ := by
  have kind : RuleLine.kind ⟨pattern, substitution, flags⟩ =
      RuleLine.kind ⟨pattern, substitution, flags'⟩ := by
    unfold RuleLine.kind
    dsimp only
    rw [alike.resolve]
    rfl
  have query : RuleLine.appendQuery ⟨pattern, substitution, flags⟩ =
      RuleLine.appendQuery ⟨pattern, substitution, flags'⟩ := by
    simp only [RuleLine.appendQuery, alike.contains]
  have last : RuleLine.isLast ⟨pattern, substitution, flags⟩ =
      RuleLine.isLast ⟨pattern, substitution, flags'⟩ := by
    simp only [RuleLine.isLast, alike.contains]
  have url : RuleLine.url ⟨pattern, substitution, flags⟩ =
      RuleLine.url ⟨pattern, substitution, flags'⟩ := rfl
  funext conditions enabled options
  simp only [RuleLine.compile, alike.contains, alike.skip, kind, query, last, url]

theorem ofWords_eq {text : String} (reads : read text = .ok flags) (pattern substitution : String) :
    RuleLine.ofWords [pattern, substitution, text] =
      RuleLine.compile ⟨pattern, substitution, flags⟩ := by
  have line : RuleLine.read [pattern, substitution, text] = .ok ⟨pattern, substitution, flags⟩ := by
    show (do
      let flags ← read text
      Except.ok (⟨pattern, substitution, flags⟩ : RuleLine)) = _
    rw [reads]
    rfl
  funext conditions enabled options
  rw [RuleLine.ofWords, line]
  rfl

/-! ## 5. Any order -/

/-- If a list of flags is accepted, then there are lists with its entries in every order, and each
of these is accepted and holds the same flags. Unless the list skips more than once, each stands for
the same rule, or has the same fault, with every pattern and substitution, behind all conditions,
and whether rules are enabled or not. A list whose entries are all flags is accepted if it has some
entries, and at most one flag that ends the list of rules and one that answers the request. -/
theorem order_irrelevant :
    (∀ text entries flags, splitFlags? text = some entries → read text = .ok flags →
      ∀ entries', entries.Perm entries' →
        (∃ text', splitFlags? text' = some entries') ∧
        ∀ text', splitFlags? text' = some entries' →
          (∃ flags', read text' = .ok flags' ∧ flags.Perm flags') ∧
          (flags.countP RuleFlag.isSkip ≤ 1 →
            ∀ pattern substitution conditions enabled options,
              RuleLine.ofWords [pattern, substitution, text'] conditions enabled options =
                RuleLine.ofWords [pattern, substitution, text] conditions enabled options)) ∧
    (∀ text entries flags, splitFlags? text = some entries → AreFlags entries flags →
      ((∃ found, read text = .ok found) ↔
        entries ≠ [] ∧ flags.count .last + flags.count .end_ ≤ 1 ∧
          flags.countP RuleFlag.isRedirect + flags.count .forbidden + flags.count .gone ≤ 1)) := by
  constructor
  · intro text entries flags split reads entries' permuted
    have areEntries : ∀ entry ∈ entries', IsEntry entry := fun entry member =>
      entries_of_splitFlags split entry (permuted.mem_iff.mpr member)
    refine ⟨⟨listed entries', splitFlags_listed areEntries⟩, fun text' split' => ?_⟩
    obtain ⟨flags', reads', order⟩ := read_permuted split split' permuted reads
    refine ⟨⟨flags', reads', order⟩, ?_⟩
    intro skips pattern substitution conditions enabled options
    obtain ⟨_, _, _, admissible⟩ := read_ok_iff.mp reads
    rw [ofWords_eq reads', ofWords_eq reads,
      (Alike.of_permuted order admissible skips).compile pattern substitution]
  · intro text entries flags split areFlags
    have filled : flags ≠ [] ↔ entries ≠ [] := by
      rw [ne_eq, ne_eq, ← List.length_eq_zero_iff, ← List.length_eq_zero_iff, areFlags.length_eq]
    constructor
    · rintro ⟨found, reads⟩
      obtain ⟨_, same, areFound, admissible⟩ := read_ok_iff.mp reads
      obtain rfl := Option.some.inj (split.symm.trans same)
      obtain rfl : found = flags :=
        Except.ok.inj ((mapM_ok_iff.mpr areFound).symm.trans (mapM_ok_iff.mpr areFlags))
      exact ⟨filled.mp admissible.filled, admissible.ending, admissible.answering⟩
    · rintro ⟨some_, ending, answering⟩
      exact ⟨flags, read_ok_iff.mpr
        ⟨entries, split, areFlags, filled.mpr some_, ending, answering⟩⟩

/-- A list with blanks, and its entries in another order. -/
theorem order_irrelevant_spaced :
    splitFlags? "[S=2, r=301 ,L]" = some ["S=2", "r=301", "L"] ∧
    read "[S=2, r=301 ,L]" = .ok [.skip 2, .redirect 301, .last] ∧
    splitFlags? "[L,S=2,r=301]" = some ["L", "S=2", "r=301"] ∧
    RuleLine.ofWords ["^/a", "/b", "[L,S=2,r=301]"] [] true {} =
      RuleLine.ofWords ["^/a", "/b", "[S=2, r=301 ,L]"] [] true {} ∧
    ∃ found, read "[L,S=2,r=301]" = .ok found := by
  have split : splitFlags? "[S=2, r=301 ,L]" = some ["S=2", "r=301", "L"] := by decide
  have reads : read "[S=2, r=301 ,L]" = .ok [.skip 2, .redirect 301, .last] := by decide +kernel
  have split' : splitFlags? "[L,S=2,r=301]" = some ["L", "S=2", "r=301"] := by decide
  have permuted : ["S=2", "r=301", "L"].Perm ["L", "S=2", "r=301"] := by decide
  have areFlags : AreFlags ["L", "S=2", "r=301"] [.last, .skip 2, .redirect 301] :=
    .cons (by decide +kernel) (.cons (by decide +kernel) (.cons (by decide +kernel) .nil))
  obtain ⟨_, every⟩ := order_irrelevant.1 _ _ _ split reads _ permuted
  exact ⟨split, reads, split', (every _ split').2 (by decide) _ _ _ _ _,
    (order_irrelevant.2 _ _ _ split' areFlags).mpr (by decide)⟩

/-- Of several flags that skip the first one counts. -/
example : skip [.skip 1, .skip 2] = 1 ∧ skip [.skip 2, .skip 1] = 2 := by decide

end RuleFlags

end Reroute
