/-
  Texts of directive lines, and the rules they stand for.
  Conditions guard the next rule line only. Blank lines and comments count as lines but say
  nothing. One bad line makes the whole text bad.
-/
import Reroute.Directive.Line

namespace Reroute.Directive

open Reroute.Text

/-- What lines before have left behind. -/
structure Pending where
  enabled : Bool := true
  conditions : List Condition := []
  /-- The line of the last condition. -/
  line : Nat := 0

/-- Whether a line says nothing. -/
def isSilent (line : String) : Bool := line.isEmpty || line.toList.head? = some '#'

/-- Reads the lines from number `number` on. -/
def readLines (options : RuleOptions) : Nat → Pending → List String →
    Except LineError (List Rule)
  | _, pending, [] =>
    if pending.conditions.isEmpty then .ok [] else .error ⟨pending.line, .danglingCondition⟩
  | number, pending, raw :: rest =>
    let line := trim raw
    if isSilent line then readLines options (number + 1) pending rest
    else
      match read line with
      | .error e => .error ⟨number, e⟩
      | .ok (.engine on) => readLines options (number + 1) { pending with enabled := on } rest
      | .ok (.condition c) =>
        match c.compile options with
        | .error e => .error ⟨number, e⟩
        | .ok guarding =>
          readLines options (number + 1)
            { pending with conditions := pending.conditions ++ [guarding], line := number } rest
      | .ok (.rule r) =>
        match r.compile pending.conditions pending.enabled options with
        | .error e => .error ⟨number, e⟩
        | .ok compiled =>
          (readLines options (number + 1) { pending with conditions := [] } rest).map
            fun rules => compiled :: rules

/-- The lines of a text; a line break at its end starts no further line. -/
def lines (text : String) : List String :=
  let pieces := (splitAll '\n' text.toList).map String.ofList
  if pieces.getLast? = some "" then pieces.dropLast else pieces

/-- Reads the rules of a text. -/
def readRules (text : String) (options : RuleOptions) : Except LineError (List Rule) :=
  readLines options 1 {} (lines text)

end Reroute.Directive
