/-
  Places in a YAML text, and the characters that part its words and lines.
  Line breaks are made equal first, but for the two separators of Unicode, which stay what they
  are.
-/
import Reroute.Text.CharSet

namespace Reroute.Yaml

/-- What is left of a text, with the line and the column it begins at. -/
structure Cursor where
  rest : List Char
  line : Nat := 0
  column : Nat := 0
deriving DecidableEq, Repr

def isGap (c : Char) : Bool := c == ' ' || c == '\t'

def isBreak (c : Char) : Bool := c == '\n' || c.toNat == 0x2028 || c.toNat == 0x2029

def isGapOrBreak (c : Char) : Bool := isGap c || isBreak c

/-- Whether a text begins with a gap or a line break, or ends. -/
def endsWord : List Char → Bool
  | [] => true
  | c :: _ => isGapOrBreak c

/-- Whether a text begins with a line break, or ends. -/
def endsLine : List Char → Bool
  | [] => true
  | c :: _ => isBreak c

def byteOrderMark : Char := Char.ofNat 0xFEFF

/-- Characters that may stand in a text. -/
def isAllowed (c : Char) : Bool :=
  let n := c.toNat
  n == 0x09 || n == 0x0A || n == 0x0D || (0x20 ≤ n && n ≤ 0x7E) || n == 0x85 ||
    (0xA0 ≤ n && n ≤ 0xFFFD) || 0x10000 ≤ n

/-- Writes returns, next-line characters, and returns before a line feed as line feeds. -/
def unifyBreaks : List Char → List Char
  | [] => []
  | '\r' :: '\n' :: rest => '\n' :: unifyBreaks rest
  | c :: rest => (if c = '\r' ∨ c = Char.ofNat 0x85 then '\n' else c) :: unifyBreaks rest

namespace Cursor

/-- Moves over one character. -/
def step (c : Cursor) (char : Char) : Cursor :=
  if isBreak char then ⟨c.rest.drop 1, c.line + 1, 0⟩ else ⟨c.rest.drop 1, c.line, c.column + 1⟩

/-- Moves over the characters that `taken` repeats. -/
def past (c : Cursor) (taken : List Char) : Cursor := taken.foldl step c

/-- Moves over so many characters. -/
def skip (c : Cursor) (count : Nat) : Cursor := c.past (c.rest.take count)

/-- Moves over all characters up to the first that fails a test. -/
def skipWhile (c : Cursor) (p : Char → Bool) : Cursor := c.past (c.rest.takeWhile p)

/-- Whether a marker of three characters stands alone at the start of the line. -/
def atMark (c : Cursor) (mark : String) : Bool :=
  c.column == 0 && c.rest.take 3 == mark.toList && endsWord (c.rest.drop 3)

/-- Whether three hyphens or three dots mark the end of a document here. -/
def atMarker (c : Cursor) : Bool := c.atMark "---" || c.atMark "..."

/-- Moves over gaps and a comment to the end of the line, where nothing else may stand, and over
its break. -/
def pastLineEnd? (c : Cursor) : Option Cursor :=
  let c := c.skipWhile isGap
  let c := if c.rest.head? = some '#' then c.skipWhile fun d => !isBreak d else c
  if endsLine c.rest then some (c.skip 1) else none

end Cursor

end Reroute.Yaml
