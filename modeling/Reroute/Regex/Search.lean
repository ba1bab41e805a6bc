/-
  Leftmost search with ordered preference.
  All ways to match are followed side by side, one character at a time, as threads in order of
  preference. No instruction is held twice at one place, so the time is linear in the text.
-/
import Reroute.Regex.Program
import Reroute.Regex.CharClass

namespace Reroute.Regex

open Reroute.Text

/-- Places of the text at which groups open and close. -/
abbrev Slots := Array (Option Nat)

structure Thread where
  at_ : Nat
  slots : Slots
deriving Repr

def isWord (unicode : Bool) : Option Char → Bool
  | none => false
  | some c => (if unicode then wordChars else asciiWordChars).contains c

def WordEdge.holds (edge : WordEdge) (before after : Bool) : Bool :=
  match edge with
  | .boundary => before != after
  | .inside => before == after
  | .start => !before && after
  | .stop => before && !after
  | .startHalf => !before
  | .stopHalf => !after

/-- Whether a condition holds between two characters; the ends of the text have none. -/
def Look.holds (condition : Look) (before after : Option Char) : Bool :=
  match condition with
  | .textStart => before.isNone
  | .textEnd => after.isNone
  | .lineStart => before.isNone || before == some '\n'
  | .lineEnd => after.isNone || after == some '\n'
  | .carriageLineStart =>
    before.isNone || before == some '\n' || (before == some '\r' && after != some '\n')
  | .carriageLineEnd =>
    after.isNone || after == some '\r' || (after == some '\n' && before != some '\r')
  | .word edge unicode => edge.holds (isWord unicode before) (isWord unicode after)

/-- Follows all instructions that consume nothing. The threads found wait for a character or
accept; an instruction reached before in this place is not followed again. -/
def settle (code : Code) (before after : Option Char) (place : Nat) :
    Nat → List Thread → Array Bool → Array Thread → Array Thread
  | 0, _, _, found => found
  | _ + 1, [], _, found => found
  | fuel + 1, thread :: rest, seen, found =>
    if seen.getD thread.at_ true then settle code before after place fuel rest seen found
    else
      let seen := seen.setIfInBounds thread.at_ true
      match code[thread.at_]? with
      | none | some .fail => settle code before after place fuel rest seen found
      | some .accept | some (.chars _ _) =>
        settle code before after place fuel rest seen (found.push thread)
      | some (.look condition next) =>
        if condition.holds before after then
          settle code before after place fuel (⟨next, thread.slots⟩ :: rest) seen found
        else settle code before after place fuel rest seen found
      | some (.save slot next) =>
        settle code before after place fuel
          (⟨next, thread.slots.setIfInBounds slot (some place)⟩ :: rest) seen found
      | some (.split preferred other) =>
        settle code before after place fuel
          (⟨preferred, thread.slots⟩ :: ⟨other, thread.slots⟩ :: rest) seen found

/-- Every instruction adds at most two threads, once. -/
def settleAll (code : Code) (before after : Option Char) (place : Nat) (threads : List Thread) :
    List Thread :=
  (settle code before after place (threads.length + 2 * code.size + 1) threads
    (Array.replicate code.size false) #[]).toList

/-- Moves threads over the next character, up to the first that accepts. -/
def advance (code : Code) (next : Option Char) :
    List Thread → Array Thread → List Thread × Option Slots
  | [], moved => (moved.toList, none)
  | thread :: rest, moved =>
    match code[thread.at_]? with
    | some .accept => (moved.toList, some thread.slots)
    | some (.chars set target) =>
      if next.any set.contains then advance code next rest (moved.push ⟨target, thread.slots⟩)
      else advance code next rest moved
    | _ => advance code next rest moved

/-- Searches on from `place`. While nothing has been found, a match may also begin here, after
all that began earlier; what is found later replaces what was found before. -/
def searchFrom (program : Program) (empty : Slots) (before : Option Char) (place : Nat)
    (threads : List Thread) (found : Option Slots) : List Char → Option Slots
  | [] =>
    let starts := if found.isSome then threads else threads ++ [⟨program.entry, empty⟩]
    (advance program.code none (settleAll program.code before none place starts) #[]).2 <|> found
  | c :: rest =>
    let starts := if found.isSome then threads else threads ++ [⟨program.entry, empty⟩]
    let (threads, better) :=
      advance program.code (some c) (settleAll program.code before (some c) place starts) #[]
    let found := better <|> found
    if threads.isEmpty && found.isSome then found
    else searchFrom program empty (some c) (place + 1) threads found rest

end Reroute.Regex
