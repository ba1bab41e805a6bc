/-
  Scalars of YAML texts: plain, quoted, and blocks of lines.
  In plain and quoted scalars one line feed stands for a space, and of several all but the
  first are kept.
-/
import Reroute.Yaml.Cursor

namespace Reroute.Yaml

open Reroute.Text

/-- How a scalar is written. -/
inductive Style
  | plain
  | quoted
  | literal
  | folded
deriving DecidableEq, Repr

/-- The text that gaps and line breaks between two words stand for. -/
def foldGaps (gaps : List Char) : List Char :=
  match gaps.filter isBreak with
  | [] => gaps
  | ['\n'] => [' ']
  | '\n' :: more => more
  | breaks => breaks

/-! ### Plain scalars -/

def isBracket (c : Char) : Bool := c == ',' || c == '[' || c == ']' || c == '\x7b' || c == '\x7d'

/-- Characters that begin something else than a plain scalar. -/
def isReserved (c : Char) : Bool :=
  ['#', '&', '*', '!', '|', '>', '\'', '"', '%', '@', '\x60'].contains c

/-- Whether a plain scalar may begin here. -/
def startsPlain (inBrackets : Bool) (cs : List Char) : Bool :=
  match cs with
  | [] => false
  | c :: rest =>
    if c = '-' then !rest.head?.any isGap
    else if c = '?' ∨ c = ':' then !inBrackets && !endsWord rest
    else !isGapOrBreak c && !isBracket c && !isReserved c

/-- Takes a word of a plain scalar. In brackets a colon may not touch a bracket. -/
def takeWord (inBrackets : Bool) : List Char → Option (List Char)
  | [] => some []
  | c :: rest =>
    if isGapOrBreak c then some []
    else if inBrackets && c == ':' && rest.head?.any (fun d => isBracket d || d == '?') then none
    else if c = ':' ∧ endsWord rest then some []
    else if inBrackets && isBracket c then some []
    else (takeWord inBrackets rest).map (c :: ·)

/-- Whether a tab stands before column `least` in one of the lines behind the first line break;
`column` is nothing before it. -/
def tabIndents (least : Nat) (column : Option Nat) : List Char → Bool
  | [] => false
  | c :: rest =>
    if isBreak c then tabIndents least (some 0) rest
    else (c == '\t' && column.any (· < least)) || tabIndents least (column.map (· + 1)) rest

/-- Reads a plain scalar whose lines are indented to column `least`. The flag tells whether it
ended with a line. -/
def readPlain (inBrackets : Bool) (least : Nat) : Nat → Cursor → Option (List Char × Cursor × Bool)
  | 0, _ => none
  | fuel + 1, c => do
    let word ← takeWord inBrackets c.rest
    let c := c.past word
    let gaps := c.rest.takeWhile isGapOrBreak
    let next := c.past gaps
    let broken := gaps.any isBreak
    if tabIndents least none gaps then none
    else if gaps.isEmpty || next.atMarker || next.rest.head? = some '#' ||
        (!inBrackets && next.column < least) then
      some (word, next, broken)
    else
      let following ← takeWord inBrackets next.rest
      if following.isEmpty then some (word, next, broken)
      else
        let (more, after, ended) ← readPlain inBrackets least fuel next
        some (word ++ foldGaps gaps ++ more, after, ended)

/-! ### Quoted scalars -/

/-- Characters that a backslash and a letter stand for. -/
def escapes : List (Char × Char) := [
  ('0', '\x00'), ('a', '\x07'), ('b', '\x08'), ('t', '\t'), ('\t', '\t'), ('n', '\n'),
  ('v', '\x0b'), ('f', '\x0c'), ('r', '\r'), ('e', '\x1b'), (' ', ' '), ('"', '"'), ('/', '/'),
  ('\\', '\\'), ('N', Char.ofNat 0x85), ('_', Char.ofNat 0xA0), ('L', Char.ofNat 0x2028),
  ('P', Char.ofNat 0x2029)]

/-- How many hexadecimal digits follow a letter behind a backslash. -/
def escapeWidth? (c : Char) : Option Nat :=
  match c with
  | 'x' => some 2
  | 'u' => some 4
  | 'U' => some 8
  | _ => none

/-- The character of a code point in hexadecimal digits. -/
def charOfHex? (digits : List Char) (width : Nat) : Option Char :=
  if digits.length < width then none
  else
    (digits.mapM CharSet.hexDigit?).bind fun values =>
      let n := values.foldl (fun n d => n * 16 + d) 0
      if n.isValidChar then some (Char.ofNat n) else none

/-- The characters of an escape, and how many of the text it takes; a backslash at the end of a
line joins the lines. -/
def readEscape (cs : List Char) : Option (List Char × Nat) :=
  match cs with
  | [] => none
  | c :: rest =>
    if isBreak c then
      let gaps := rest.takeWhile isGapOrBreak
      some (gaps.filter isBreak, gaps.length + 1)
    else
      match escapeWidth? c with
      | some width => (charOfHex? (rest.take width) width).map fun char => ([char], width + 1)
      | none => (escapes.lookup c).map fun char => ([char], 1)

/-- Reads a quoted scalar from behind its opening mark. No marker of a document may stand at the
start of one of its lines. -/
def readQuoted (mark : Char) : Nat → Cursor → Option (List Char × Cursor)
  | 0, _ => none
  | fuel + 1, c =>
    match c.rest with
    | [] => none
    | char :: rest =>
      if char = mark then
        if mark = '\'' ∧ rest.head? = some '\'' then
          (readQuoted mark fuel (c.past [char, char])).map fun (more, after) =>
            ('\'' :: more, after)
        else some ([], c.step char)
      else if isGapOrBreak char then
        let gaps := c.rest.takeWhile isGapOrBreak
        let next := c.past gaps
        if next.atMarker then none
        else (readQuoted mark fuel next).map fun (more, after) => (foldGaps gaps ++ more, after)
      else if mark = '"' ∧ char = '\\' then do
        let (chars, count) ← readEscape rest
        let next := c.skip (count + 1)
        if next.atMarker then none
        else (readQuoted mark fuel next).map fun (more, after) => (chars ++ more, after)
      else (readQuoted mark fuel (c.step char)).map fun (more, after) => (char :: more, after)

/-! ### Blocks -/

/-- What becomes of the line breaks at the end of a block. -/
inductive Chomp
  | strip
  | clip
  | keep
deriving DecidableEq, Repr

/-- What the first line of a block says. -/
structure BlockHeader where
  chomp : Chomp := .clip
  indent : Option Nat := none
deriving DecidableEq, Repr

/-- Takes the signs of a header, one of each kind, in any order. -/
def readSigns (seenChomp : Bool) (h : BlockHeader) : List Char → BlockHeader × List Char
  | [] => (h, [])
  | c :: rest =>
    if (c = '+' ∨ c = '-') ∧ !seenChomp then
      readSigns true { h with chomp := if c = '+' then .keep else .strip } rest
    else if c.isDigit && c != '0' && h.indent.isNone then
      readSigns seenChomp { h with indent := some (c.toNat - '0'.toNat) } rest
    else (h, c :: rest)

/-- Line breaks and spaces before a line that is not blank, from the start of a line on. Answers
the breaks, the last column that spaces reached in any line, and where the text goes on. Where
the indentation is not known all spaces belong to it; no tab may stand in it. -/
def skipBlank (indent : Option Nat) : Nat → List Char → Nat → Cursor →
    Option (List Char × Nat × Cursor)
  | 0, _, _, _ => none
  | fuel + 1, breaks, widest, c =>
    let spaces := c.rest.takeWhile (· == ' ')
    let next := c.past (spaces.take (indent.getD spaces.length))
    let widest := max widest next.column
    match next.rest with
    | [] => some (breaks, widest, next)
    | char :: _ =>
      if char = '\t' ∧ indent.all (next.column < ·) then none
      else if isBreak char then skipBlank indent fuel (breaks ++ [char]) widest (next.step char)
      else some (breaks, widest, next)

/-- A block as it is read line by line. -/
structure Block where
  /-- The text so far, from its end on. -/
  backward : List Char := []
  /-- The line break at the end of the last line. -/
  lastBreak : List Char := []
  /-- The breaks of blank lines since then. -/
  blanks : List Char := []
  /-- Whether the last line begins with a gap. -/
  indented : Bool := false
deriving Repr

/-- Adds a line. In a folded block a line feed between lines that begin with words becomes a
space. -/
def Block.add (b : Block) (style : Style) (line lineBreak : List Char) : Block :=
  let indented := line.head?.any isGap
  let between :=
    if style = .literal ∨ b.lastBreak ≠ ['\n'] ∨ b.indented ∨ indented then b.lastBreak
    else if b.blanks.isEmpty then [' ']
    else []
  ⟨(between ++ b.blanks ++ line).reverseAux b.backward, lineBreak, [], indented⟩

def Block.finish (b : Block) (chomp : Chomp) : List Char :=
  let ending :=
    match chomp with
    | .strip => []
    | .clip => b.lastBreak
    | .keep => b.lastBreak ++ b.blanks
  b.backward.reverse ++ ending

/-- Reads the lines of a block that are indented by `indent`. -/
def readLines (style : Style) (indent : Nat) : Nat → Block → Cursor → Option (Block × Cursor)
  | 0, _, _ => none
  | fuel + 1, b, c =>
    if c.rest.isEmpty || c.column != indent then some (b, c)
    else do
      let line := c.rest.takeWhile fun d => !isBreak d
      let next := c.past line
      let lineBreak := next.rest.take 1
      let b := b.add style line lineBreak
      let (blanks, _, after) ← skipBlank (some indent) fuel [] 0 (next.past lineBreak)
      readLines style indent fuel { b with blanks } after

/-- Reads a block from its indicator on; `least` is the least column of its lines. -/
def readBlock (fuel : Nat) (style : Style) (least : Nat) (c : Cursor) :
    Option (List Char × Cursor) := do
  let (header, rest) := readSigns false {} (c.rest.drop 1)
  let start ← (c.skip (c.rest.length - rest.length)).pastLineEnd?
  let known := header.indent.map fun n => least - 1 + n
  let (blanks, widest, first) ← skipBlank known fuel [] 0 start
  let indent := known.getD (max widest (max least 1))
  let (block, after) ← readLines style indent fuel { blanks } first
  some (block.finish header.chomp, after)

end Reroute.Yaml
