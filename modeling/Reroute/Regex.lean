/-
  Regular expressions over Unicode text: unanchored search for the leftmost match, with its
  groups. There is no look-around and no reference to earlier groups.
-/
import Reroute.Regex.Footprint
import Reroute.Regex.Groups
import Reroute.Regex.Search

namespace Reroute

/-- A compiled pattern. -/
structure Regex where
  program : Regex.Program
  /-- The number of groups in a match, the whole match among them. Groups that have been dropped
  leave gaps, unless they are the last ones. -/
  groups : Nat
  /-- The number of groups without the gaps. -/
  captures : Nat
  captures_le : captures ≤ groups
deriving Repr

namespace Regex

inductive CompileError
  | malformed
  | tooLarge
deriving DecidableEq, Repr

def CompileError.message : CompileError → String
  | .malformed => "error parsing pattern 0"
  | .tooLarge => "error building NFA"

/-- The whole match is the group of number 0. -/
def ofExpr (e : Expr) (counted : e.groupCount ≤ e.maxGroup) : Regex :=
  ⟨.ofExpr e, e.maxGroup + 1, e.groupCount + 1, Nat.succ_le_succ counted⟩

/-- From so many words on, a choice of words is searched for without an automaton. -/
def wordListSize : Nat := 3000

/-- Whether an expression is a choice of very many words. -/
def isWordList (e : Expr) : Bool :=
  (Footprint.literals? e.branches).any fun texts => wordListSize ≤ texts.length

/-- Compiles a pattern. One whose automata would be too large is refused. -/
def compile (pattern : String) (ignoreCase : Bool) : Except CompileError Regex :=
  match h : readExpr? pattern ignoreCase with
  | none => .error .malformed
  | some e =>
    if isWordList e || Footprint.fits e then .ok (ofExpr e (groupCount_le_maxGroup h))
    else .error .tooLarge

/-- The places at which the groups of the leftmost match open and close. -/
def slots? (r : Regex) (text : List Char) : Option Slots :=
  searchFrom r.program (Array.replicate (2 * r.groups) none) none 0 [] none text

/-- The text of a group; empty for a group that took no part. -/
def groupText (text : List Char) (slots : Slots) (index : Nat) : String :=
  match slots.getD (2 * index) none, slots.getD (2 * index + 1) none with
  | some start, some stop => String.ofList ((text.take stop).drop start)
  | _, _ => ""

/-- The groups of the leftmost match, the whole match first. -/
def search (r : Regex) (text : String) : Option (List String) :=
  (r.slots? text.toList).map fun slots =>
    (List.range r.groups).map (groupText text.toList slots)

theorem length_search {r : Regex} {text : String} {groups : List String}
    (h : r.search text = some groups) : groups.length = r.groups := by
  obtain ⟨slots, -, rfl⟩ := Option.map_eq_some_iff.1 h
  simp

end Regex

end Reroute
