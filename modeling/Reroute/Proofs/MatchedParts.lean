import Mathlib.Data.List.Basic
import Reroute.Regex

/-!
# The groups of a match

What a pattern matches is said here by its tree: the text between two places, with the groups that
took part, each with the places where it opened and closed. A group takes part once for each time
that a match passes it, so in a repetition it may do so often or never.

Results:
1. `Matches`: what a tree matches.
2. `Matches.numbered`: the groups of a match are groups of the tree.
3. `Matches.spans`: they lie within the match, and the match within the text.
-/

namespace Reroute.Regex

open Reroute.Text

/-! ## 1. Matches -/

/-- A group that took part in a match, with the places where it opened and closed. -/
structure Part where
  group : Nat
  start : Nat
  stop : Nat
deriving DecidableEq, Repr

/-- What a piece of a pattern matches: from a place, with these groups, to a place. -/
abbrev Meaning := Nat → List Part → Nat → Prop

/-- So many matches one after another. -/
inductive Iterated (P : Meaning) : Nat → Meaning
  | none {place : Nat} : Iterated P 0 place [] place
  | more {count first middle last : Nat} {parts rest : List Part} :
      P first parts middle → Iterated P count middle rest last →
      Iterated P (count + 1) first (parts ++ rest) last

theorem Iterated.append {P : Meaning} {count more first middle last : Nat}
    {parts rest : List Part} (before : Iterated P count first parts middle)
    (behind : Iterated P more middle rest last) :
    Iterated P (count + more) first (parts ++ rest) last := by
  induction before with
  | none => simpa using behind
  | more matched _ ih =>
    rw [List.append_assoc, Nat.succ_add]
    exact .more matched (ih behind)

/-- `Matches text e first parts last`: the tree `e` matches the text between `first` and `last`.
`parts` are the groups that took part, in the order in which they closed. -/
def Matches (text : List Char) : Expr → Meaning
  | .empty, first, parts, last => parts = [] ∧ last = first
  | .literal word, first, parts, last =>
    word <+: text.drop first ∧ parts = [] ∧ last = first + word.length
  | .chars set, first, parts, last =>
    (∃ c, text[first]? = some c ∧ set.contains c = true) ∧ parts = [] ∧ last = first + 1
  | .look condition, first, parts, last =>
    condition.holds (text.take first).getLast? text[first]? = true ∧ parts = [] ∧ last = first
  | .seq a b, first, parts, last =>
    ∃ front middle back, Matches text a first front middle ∧ Matches text b middle back last ∧
      parts = front ++ back
  | .alt a b, first, parts, last =>
    Matches text a first parts last ∨ Matches text b first parts last
  | .group index e, first, parts, last =>
    ∃ inner, Matches text e first inner last ∧ parts = inner ++ [⟨index, first, last⟩]
  | .times min max _ e, first, parts, last =>
    ∃ count, min ≤ count ∧ (∀ limit, max = some limit → count ≤ Nat.max min limit) ∧
      Iterated (Matches text e) count first parts last

/-! ## 2. Groups -/

/-- What holds of the groups of every match holds of those of several. -/
theorem Iterated.all {P : Meaning} {q : Part → Prop}
    (each : ∀ first parts last, P first parts last → ∀ part ∈ parts, q part)
    {count first last : Nat} {parts : List Part} (matched : Iterated P count first parts last) :
    ∀ part ∈ parts, q part := by
  induction matched with
  | none => simp
  | more body _ ih =>
    intro part member
    rcases List.mem_append.mp member with early | late
    · exact each _ _ _ body part early
    · exact ih part late

/-- The groups of a match are groups of the tree. -/
theorem Matches.numbered {text : List Char} {e : Expr} {first last : Nat} {parts : List Part}
    (matched : Matches text e first parts last) :
    ∀ part ∈ parts, part.group ∈ e.groupNumbers := by
  induction e generalizing first last parts with
  | empty =>
    obtain ⟨rfl, _⟩ := matched
    simp
  | literal | chars | look =>
    obtain ⟨_, rfl, _⟩ := matched
    simp
  | seq a b iha ihb =>
    obtain ⟨front, middle, back, matched, next, rfl⟩ := matched
    intro part member
    rcases List.mem_append.mp member with early | late
    · exact List.mem_append_left _ (iha matched part early)
    · exact List.mem_append_right _ (ihb next part late)
  | alt a b iha ihb =>
    rcases matched with matched | matched
    · exact fun part member => List.mem_append_left _ (iha matched part member)
    · exact fun part member => List.mem_append_right _ (ihb matched part member)
  | group index e ih =>
    obtain ⟨inner, matched, rfl⟩ := matched
    intro part member
    rcases List.mem_append.mp member with inside | whole
    · exact List.mem_cons_of_mem _ (ih matched part inside)
    · rw [List.mem_singleton.mp whole]
      exact List.mem_cons_self
  | times min max greedy e ih =>
    obtain ⟨count, _, _, matched⟩ := matched
    exact matched.all fun _ _ _ => ih

/-! ## 3. Places -/

/-- The places of a match: it ends in the text and not before it begins, and its groups lie
within it. -/
structure Spans (text : List Char) (first : Nat) (parts : List Part) (last : Nat) : Prop where
  forward : first ≤ last
  inText : last ≤ text.length
  inside : ∀ part ∈ parts, first ≤ part.start ∧ part.start ≤ part.stop ∧ part.stop ≤ last

theorem Spans.nil {text : List Char} {first last : Nat} (forward : first ≤ last)
    (inText : last ≤ text.length) : Spans text first [] last := ⟨forward, inText, by simp⟩

theorem Spans.append {text : List Char} {first middle last : Nat} {front back : List Part}
    (before : Spans text first front middle) (behind : Spans text middle back last) :
    Spans text first (front ++ back) last where
  forward := Nat.le_trans before.forward behind.forward
  inText := behind.inText
  inside part member := by
    rcases List.mem_append.mp member with early | late
    · obtain ⟨opens, closes, ends⟩ := before.inside part early
      exact ⟨opens, closes, Nat.le_trans ends behind.forward⟩
    · obtain ⟨opens, closes, ends⟩ := behind.inside part late
      exact ⟨Nat.le_trans before.forward opens, closes, ends⟩

theorem Iterated.spans {text : List Char} {P : Meaning}
    (each : ∀ {first parts last}, first ≤ text.length → P first parts last →
      Spans text first parts last)
    {count first last : Nat} {parts : List Part} (starts : first ≤ text.length)
    (matched : Iterated P count first parts last) : Spans text first parts last := by
  induction matched with
  | none => exact .nil (Nat.le_refl _) starts
  | more body _ ih =>
    have front := each starts body
    exact front.append (ih front.inText)

theorem Matches.spans {text : List Char} {e : Expr} {first last : Nat} {parts : List Part}
    (starts : first ≤ text.length) (matched : Matches text e first parts last) :
    Spans text first parts last := by
  induction e generalizing first last parts with
  | empty =>
    obtain ⟨rfl, rfl⟩ := matched
    exact .nil (Nat.le_refl _) starts
  | literal word =>
    obtain ⟨stands, rfl, rfl⟩ := matched
    have fits := stands.length_le
    rw [List.length_drop] at fits
    exact .nil (Nat.le_add_right _ _) (by omega)
  | chars set =>
    obtain ⟨⟨c, stands, _⟩, rfl, rfl⟩ := matched
    exact .nil (Nat.le_succ _) (List.getElem?_eq_some_iff.mp stands).1
  | look condition =>
    obtain ⟨_, rfl, rfl⟩ := matched
    exact .nil (Nat.le_refl _) starts
  | seq a b iha ihb =>
    obtain ⟨front, middle, back, matched, next, rfl⟩ := matched
    have before := iha starts matched
    exact before.append (ihb before.inText next)
  | alt a b iha ihb =>
    rcases matched with matched | matched
    · exact iha starts matched
    · exact ihb starts matched
  | group index e ih =>
    obtain ⟨inner, matched, rfl⟩ := matched
    obtain ⟨forward, inText, inside⟩ := ih starts matched
    refine ⟨forward, inText, fun part member => ?_⟩
    rcases List.mem_append.mp member with within | whole
    · exact inside part within
    · rw [List.mem_singleton.mp whole]
      exact ⟨Nat.le_refl _, forward, Nat.le_refl _⟩
  | times min max greedy e ih =>
    obtain ⟨count, _, _, matched⟩ := matched
    exact matched.spans ih starts

end Reroute.Regex
