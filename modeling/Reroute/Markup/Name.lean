/-
  Names in markup: the characters they are made of, and names with a namespace prefix.
-/
import Reroute.Text.Blank

namespace Reroute.Markup

/-- Characters that markup may contain. -/
def isMarkupChar (c : Char) : Bool :=
  if c.toNat < 0x20 then c == '\t' || c == '\n' || c == '\r'
  else c.toNat != 0xFFFE && c.toNat != 0xFFFF

def isSpace (c : Char) : Bool := c == ' ' || c == '\t' || c == '\n' || c == '\r'

def skipSpaces (cs : List Char) : List Char := cs.dropWhile isSpace

/-- Code points of name characters beyond ASCII that may also begin a name. -/
def startRuns : List (Nat × Nat) := [
  (0xC0, 0xD6), (0xD8, 0xF6), (0xF8, 0x2FF), (0x370, 0x37D), (0x37F, 0x1FFF), (0x200C, 0x200D),
  (0x2070, 0x218F), (0x2C00, 0x2FEF), (0x3001, 0xD7FF), (0xF900, 0xFDCF), (0xFDF0, 0xFFFD),
  (0x10000, 0xEFFFF)]

/-- Code points of name characters beyond ASCII that may not begin a name. -/
def laterRuns : List (Nat × Nat) := [(0xB7, 0xB7), (0x300, 0x36F), (0x203F, 0x2040)]

def within (runs : List (Nat × Nat)) (n : Nat) : Bool :=
  runs.any fun run => run.1 ≤ n && n ≤ run.2

def isNameStart (c : Char) : Bool :=
  if c.toNat < 0x80 then c.isAlpha || c == ':' || c == '_' else within startRuns c.toNat

def isNameChar (c : Char) : Bool :=
  if c.toNat < 0x80 then c.isAlphanum || c == ':' || c == '_' || c == '-' || c == '.'
  else within startRuns c.toNat || within laterRuns c.toNat

/-- Reads a name, colons included. -/
def readName (cs : List Char) : Option (List Char × List Char) :=
  match cs with
  | c :: _ =>
    if isNameStart c then some (cs.takeWhile isNameChar, cs.dropWhile isNameChar) else none
  | [] => none

/-- A name with the namespace prefix in front of its colon, if it has one. -/
structure QName where
  space : String
  name : String
deriving DecidableEq, Repr

/-- Whether a part of a name begins as names do. -/
def beginsName (cs : List Char) : Bool := cs.head?.all isNameStart

/-- Reads a name with at most one colon. The part behind the colon may not be empty. -/
def readQName (cs : List Char) : Option (QName × List Char) :=
  let raw := cs.takeWhile isNameChar
  let rest := cs.dropWhile isNameChar
  let (space, name) :=
    match Text.splitFirst? (· == ':') raw with
    | some parts => parts
    | none => ([], raw)
  if name.isEmpty || name.contains ':' || !beginsName space || !beginsName name then none
  else some (⟨String.ofList space, String.ofList name⟩, rest)

end Reroute.Markup
