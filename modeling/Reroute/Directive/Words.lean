/-
  The arguments of a directive line: words between blanks.
  Double quotes keep blanks in a word and are removed; inside them a backslash before a quote
  keeps the quote. Every other backslash stays, so that patterns are left as they are.
-/
import Reroute.Text.Blank

namespace Reroute.Directive

open Reroute.Text

/-- Reads on with a word of which `word` stands in reverse. `started` tells an empty word from
none; `none` is a quotation that is never closed. -/
def scanWords (word : List Char) (started quoted : Bool) : List Char → Option (List (List Char))
  | [] =>
    if quoted then none
    else some (if started then [word.reverse] else [])
  | '\\' :: '"' :: rest =>
    if quoted then scanWords ('"' :: word) started quoted rest
    else scanWords ('\\' :: word) true quoted ('"' :: rest)
  | c :: rest =>
    if c = '"' then scanWords word true (!quoted) rest
    else if isBlank c && !quoted then
      if started then (scanWords [] false quoted rest).map fun words => word.reverse :: words
      else scanWords word started quoted rest
    else scanWords (c :: word) true quoted rest

/-- The words of a line. -/
def words? (line : String) : Option (List String) :=
  (scanWords [] false false line.toList).map fun words => words.map String.ofList

/-- A leading exclamation mark negates. -/
def takeNegation (s : String) : Bool × String :=
  match s.toList with
  | '!' :: rest => (true, String.ofList rest)
  | _ => (false, s)

example : words? "a \"b c\"" = some ["a", "b c"] := by cbv

end Reroute.Directive
