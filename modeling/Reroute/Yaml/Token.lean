/-
  The tokens of YAML texts, and the readers of those that have an inner form: names of anchors,
  tags, and directives.
-/
import Reroute.Text.Bytes
import Reroute.Yaml.Scalar

namespace Reroute.Yaml

open Reroute.Text

inductive Token
  /-- The version that a text says it is written in. -/
  | version (major minor : Nat)
  /-- What a handle in front of tags stands for. -/
  | handle (name : List Char) (stem : List Char)
  | documentStart
  | documentEnd
  /-- The start of a list by indentation. -/
  | listStart
  /-- The start of a group by indentation. -/
  | groupStart
  /-- The end of a list or group by indentation. -/
  | blockEnd
  | bracketOpen
  | bracketClose
  | braceOpen
  | braceClose
  /-- The hyphen of an item. -/
  | item
  | comma
  | key
  | value
  | alias (name : String)
  | anchor (name : String)
  | tag (handle : List Char) (suffix : List Char)
  | scalar (style : Style) (text : List Char)
deriving DecidableEq, Repr

def isNameChar (c : Char) : Bool := c.isAlphanum || c == '_' || c == '-'

/-- Reads the name behind an anchor or alias mark. -/
def readName (c : Cursor) : Option (String × Cursor) :=
  let name := (c.rest.drop 1).takeWhile isNameChar
  let after := c.skip (name.length + 1)
  if name.isEmpty then none
  else if endsWord after.rest ||
      after.rest.head?.any (['?', ':', ',', ']', '\x7d', '%', '@', '\x60'].contains ·) then
    some (String.ofList name, after)
  else none

/-! ### Tags -/

/-- Characters of a tag; between angles there may be commas and brackets as well. -/
def isTagChar (inAngles : Bool) (c : Char) : Bool :=
  isNameChar c || [';', '/', '?', ':', '@', '&', '=', '+', '$', '.', '%', '!', '~', '*', '\'', '(',
    ')'].contains c || (inAngles && [',', '[', ']'].contains c)

/-- The number of bytes of the character that a byte begins. -/
def leadWidth? (byte : Nat) : Option Nat :=
  if byte < 0x80 then some 1
  else if byte / 0x20 = 6 then some 2
  else if byte / 0x10 = 14 then some 3
  else if byte / 0x08 = 30 then some 4
  else none

/-- Reads bytes that are written as a percent sign and two hexadecimal digits each. -/
def readOctets : Nat → List Char → Option (List Nat × List Char)
  | 0, cs => some ([], cs)
  | count + 1, '%' :: a :: b :: rest => do
    let high ← CharSet.hexDigit? a
    let low ← CharSet.hexDigit? b
    let (more, after) ← readOctets count rest
    some ((high * 16 + low) :: more, after)
  | _, _ => none

/-- Reads one character that is written as bytes. -/
def readPercent (cs : List Char) : Option (List Char × List Char) := do
  let (first, _) ← readOctets 1 cs
  let width ← leadWidth? (first.headD 0)
  let (octets, after) ← readOctets width cs
  if (octets.drop 1).all fun b => b / 0x40 = 2 then
    some (readBytes (octets.map UInt8.ofNat), after)
  else none

/-- Reads the characters of a tag. -/
def readTagText (inAngles : Bool) : Nat → List Char → Option (List Char × List Char)
  | 0, _ => none
  | fuel + 1, cs =>
    match cs with
    | [] => some ([], [])
    | c :: rest =>
      if c = '%' then do
        let (text, rest) ← readPercent cs
        let (more, after) ← readTagText inAngles fuel rest
        some (text ++ more, after)
      else if isTagChar inAngles c then
        (readTagText inAngles fuel rest).map fun (more, after) => (c :: more, after)
      else some ([], cs)

/-- The text of a tag without its handle; it may be empty only behind a lone mark. -/
def readSuffix (inAngles mayBeEmpty : Bool) (c : Cursor) : Option (List Char × Cursor) := do
  let (text, rest) ← readTagText inAngles (c.rest.length + 1) c.rest
  let after := c.skip (c.rest.length - rest.length)
  if after.rest.length == c.rest.length && !mayBeEmpty then none else some (text, after)

/-- The characters of a handle: a mark, and perhaps a name and a second mark. -/
def takeHandle (cs : List Char) : List Char :=
  let name := (cs.drop 1).takeWhile isNameChar
  '!' :: name ++ if (cs.drop (1 + name.length)).head? = some '!' then ['!'] else []

/-- Reads a tag from its mark on. A lone mark is a tag without a handle. -/
def readTag (inBrackets : Bool) (c : Cursor) : Option (Token × Cursor) := do
  let (tag, after) ←
    if (c.rest.drop 1).head? = some '<' then do
      let (text, after) ← readSuffix true false (c.skip 2)
      if after.rest.head? = some '>' then some (Token.tag [] text, after.skip 1) else none
    else
      let handle := takeHandle c.rest
      if 1 < handle.length ∧ handle.getLast? = some '!' then do
        let (text, after) ← readSuffix false false (c.skip handle.length)
        some (Token.tag handle text, after)
      else do
        let (text, after) ← readSuffix false true (c.skip handle.length)
        let suffix := handle.drop 1 ++ text
        some (if suffix.isEmpty then Token.tag [] ['!'] else Token.tag ['!'] suffix, after)
  if endsWord after.rest || (inBrackets && after.rest.head? == some ',') then some (tag, after)
  else none

/-! ### Directives -/

/-- Reads a number of up to nine digits. -/
def readVersionPart (c : Cursor) : Option (Nat × Cursor) :=
  let digits := c.rest.takeWhile Char.isDigit
  if digits.isEmpty || 9 < digits.length then none
  else some (digits.foldl (fun n d => n * 10 + (d.toNat - '0'.toNat)) 0, c.past digits)

def readVersion (c : Cursor) : Option (Token × Cursor) := do
  let (major, c) ← readVersionPart c
  if c.rest.head? = some '.' then
    let (minor, c) ← readVersionPart (c.skip 1)
    some (.version major minor, c)
  else none

def readHandle (c : Cursor) : Option (Token × Cursor) := do
  let handle := takeHandle c.rest
  if c.rest.head? != some '!' || (handle != ['!'] && handle.getLast? != some '!') then none
  else
    let after := c.skip handle.length
    if after.rest.head?.any isGap then
      let (stem, after) ← readSuffix true false (after.skipWhile isGap)
      if endsWord after.rest then some (.handle handle stem, after) else none
    else none

/-- Reads a directive with its line, from the percent sign on. -/
def readDirective (c : Cursor) : Option (Token × Cursor) := do
  let name := (c.rest.drop 1).takeWhile isNameChar
  let body := c.skip (name.length + 1)
  if endsWord body.rest then
    let body := body.skipWhile isGap
    let (token, after) ←
      if name = "YAML".toList then readVersion body
      else if name = "TAG".toList then readHandle body
      else none
    let after ← after.pastLineEnd?
    some (token, after)
  else none

end Reroute.Yaml
