/-
  Character data in markup: comments, instructions, references and attribute values.
  Readers answer what is left of the text, or nothing where the markup is malformed. Apart from
  the five known ones there are no entities.
-/
import Reroute.Markup.Name
import Reroute.Text.CharSet

namespace Reroute.Markup

open Reroute.Text

/-- The text up to a mark, and what follows the mark. All characters have to be allowed. -/
def readUntil (mark : List Char) (cs : List Char) : Option (List Char × List Char) :=
  (splitAtText? mark cs).bind fun parts =>
    if parts.1.all isMarkupChar then some parts else none

/-- Drops a text from the start. -/
def take? (mark : List Char) (cs : List Char) : Option (List Char) :=
  if mark.isPrefixOf cs then some (cs.drop mark.length) else none

def startsWith (mark : String) (cs : List Char) : Bool := mark.toList.isPrefixOf cs

/-- Skips a comment, from its first character on. Two hyphens may not stand in it, and none at
its end. -/
def skipComment (cs : List Char) : Option (List Char) := do
  let (text, rest) ← readUntil "-->".toList (cs.drop 4)
  if (splitAtText? ['-', '-'] text).isSome || text.getLast? = some '-' then none else some rest

/-- Skips an instruction, from its first character on. A declaration stands nowhere else than at
the very start. -/
def skipInstruction (cs : List Char) : Option (List Char) := do
  if startsWith "<?xml " cs then none
  else
    let (_, rest) ← readName (cs.drop 2)
    let (_, rest) ← readUntil "?>".toList (skipSpaces rest)
    some rest

/-- Reads an equals sign with spaces around it and a quoted text. Less-than signs may not stand
in it. -/
def readQuotedValue (cs : List Char) : Option (List Char × List Char) := do
  let rest ← take? ['='] (skipSpaces cs)
  match skipSpaces rest with
  | quote :: rest =>
    if quote = '"' ∨ quote = '\'' then
      let value := rest.takeWhile fun c => c != quote && c != '<'
      match rest.drop value.length with
      | c :: after => if c = quote ∧ value.all isMarkupChar then some (value, after) else none
      | [] => none
    else none
  | [] => none

/-- The digits of a character reference as a number of 32 bits. -/
def referenceValue? (digits : List Char) (base : Nat) : Option Nat :=
  if digits.isEmpty then none
  else
    match digits.mapM CharSet.hexDigit? with
    | none => none
    | some values =>
      let n := values.foldl (fun n d => n * base + d) 0
      if n < Nat.pow 2 32 then some n else none

/-- The character of a number; numbers of no character give U+FFFD. -/
def referencedChar (n : Nat) : Char :=
  if h : n.isValidChar then Char.ofNatAux n h else Char.ofNat 0xFFFD

/-- Reads a reference from behind its ampersand. -/
def readReference (cs : List Char) : Option (Char × List Char) := do
  let (c, rest) ←
    match cs with
    | '#' :: 'x' :: rest =>
      let digits := rest.takeWhile fun c => (CharSet.hexDigit? c).isSome
      (referenceValue? digits 16).map fun n => (referencedChar n, rest.drop digits.length)
    | '#' :: rest =>
      let digits := rest.takeWhile Char.isDigit
      (referenceValue? digits 10).map fun n => (referencedChar n, rest.drop digits.length)
    | _ => do
      let (name, rest) ← readName cs
      let c ← [("quot", '"'), ("amp", '&'), ("apos", '\''), ("lt", '<'), ("gt", '>')].lookup
        (String.ofList name)
      some (c, rest)
  if !isMarkupChar c then none
  else
    match rest with
    | ';' :: rest => some (c, rest)
    | _ => none

/-- The text of an attribute value: references replaced, line breaks and tabs made blanks. -/
def attributeText : Nat → List Char → Option (List Char)
  | 0, _ => some []
  | fuel + 1, cs =>
    match cs with
    | [] => some []
    | '&' :: rest => do
      let (c, rest) ← readReference rest
      let more ← attributeText fuel rest
      some (c :: more)
    | '\r' :: '\n' :: rest => attributeText fuel ('\n' :: rest)
    | c :: rest => do
      let more ← attributeText fuel rest
      some ((if isSpace c then ' ' else c) :: more)

/-- Whether a run of text between tags is well formed. -/
def isText : Nat → List Char → Bool
  | 0, _ => true
  | fuel + 1, cs =>
    match cs with
    | [] => true
    | '&' :: rest =>
      match readReference rest with
      | some (_, rest) => isText fuel rest
      | none => false
    | _ :: rest => isText fuel rest

/-- Skips a run of text up to the next tag. -/
def skipText (cs : List Char) : Option (List Char) :=
  let text := cs.takeWhile (· != '<')
  let rest := cs.drop text.length
  if text.all isMarkupChar && (splitAtText? "]]>".toList text).isNone
      && isText text.length text then some rest
  else none

end Reroute.Markup
