/-
  From the characters of a YAML text to its tokens.
  Outside of brackets, indentation opens and closes lists and groups. That something is a key is
  seen only at the colon behind it; the places where a key may have begun are kept until then,
  one for each open bracket.
-/
import Reroute.Yaml.Token

namespace Reroute.Yaml

open Reroute.Text

/-- A place where a key may have begun: it ends in the same line, and within 1024 characters. -/
structure KeyPlace where
  /-- The number of the token that would be the key. -/
  token : Nat
  line : Nat
  column : Nat
  /-- Whether nothing but a key can stand there. -/
  needed : Bool
deriving DecidableEq, Repr

/-- Where reading stands. -/
structure Layout where
  cursor : Cursor
  tokens : Array Token := #[]
  /-- Whether a key may begin here. -/
  fresh : Bool := true
  /-- The place of a key outside of brackets. -/
  outer : Option KeyPlace := none
  /-- The places of keys in the open brackets, the innermost first. -/
  inner : List (Option KeyPlace) := []
  /-- The columns of the open lists and groups, the innermost first. -/
  columns : List Nat := []
deriving Repr

namespace Layout

def rest (s : Layout) : List Char := s.cursor.rest

def inBrackets (s : Layout) : Bool := !s.inner.isEmpty

/-- The least column of lines that belong to the innermost list or group. -/
def least (s : Layout) : Nat :=
  match s.columns with
  | [] => 0
  | column :: _ => column + 1

def add (s : Layout) (token : Token) : Layout := { s with tokens := s.tokens.push token }

/-- Moves over a token of so many characters. -/
def pastMark (s : Layout) (token : Token) (width : Nat) : Layout :=
  { s.add token with cursor := s.cursor.skip width }

/-! ### Indentation -/

/-- Opens a list or group at a column, unless one that is as far in is open. -/
def openAt (s : Layout) (column : Nat) (token : Token) (number : Nat) : Layout :=
  if s.inBrackets || column < s.least then s
  else
    { s with columns := column :: s.columns
             tokens := s.tokens.insertIdxIfInBounds number token }

/-- Closes the lists and groups that begin behind a column, or all of them. -/
def closeFrom (s : Layout) (column : Option Nat) : Layout :=
  if s.inBrackets then s
  else
    let closed := s.columns.takeWhile fun n => column.all (· < n)
    { s with columns := s.columns.drop closed.length
             tokens := s.tokens ++ (closed.map fun _ => Token.blockEnd).toArray }

/-! ### Keys -/

def place (s : Layout) : Option KeyPlace :=
  match s.inner with
  | [] => s.outer
  | place :: _ => place

def setPlace (s : Layout) (place : Option KeyPlace) : Layout :=
  match s.inner with
  | [] => { s with outer := place }
  | _ :: rest => { s with inner := place :: rest }

/-- Gives up the place of a key, unless one is needed there. -/
def dropPlace (s : Layout) : Option Layout :=
  if s.place.any (·.needed) then none else some (s.setPlace none)

/-- Marks the place here as one where a key may begin. -/
def keepPlace (s : Layout) : Option Layout :=
  if s.fresh then
    let needed := !s.inBrackets && s.columns.head? == some s.cursor.column
    s.dropPlace.map fun s =>
      s.setPlace (some ⟨s.tokens.size, s.cursor.line, s.cursor.column, needed⟩)
  else some s

def KeyPlace.reaches (p : KeyPlace) (c : Cursor) : Bool :=
  p.line == c.line && c.column ≤ p.column + 1024

/-- Gives up a place that is too far away. -/
def refresh (c : Cursor) (place : Option KeyPlace) : Option (Option KeyPlace) :=
  match place with
  | some p => if KeyPlace.reaches p c then some place else if p.needed then none else some none
  | none => some none

/-- Gives up all places that are too far away. -/
def refreshPlaces (s : Layout) : Option Layout := do
  let outer ← refresh s.cursor s.outer
  let inner ← s.inner.mapM (refresh s.cursor)
  some { s with outer, inner }

/-! ### Tokens -/

/-- Moves over gaps, comments and line breaks. A key may begin behind a line break outside of
brackets; where one may begin there, a tab is no gap. A byte order mark may begin a line. -/
def settle : Nat → Layout → Layout
  | 0, s => s
  | fuel + 1, s =>
    let c := s.cursor
    let c := if c.column = 0 ∧ c.rest.head? = some byteOrderMark then c.skip 1 else c
    let c := c.skipWhile fun d => d == ' ' || (d == '\t' && (s.inBrackets || !s.fresh))
    let c := if c.rest.head? = some '#' then c.skipWhile fun d => !isBreak d else c
    if c.rest.head?.any isBreak then
      settle fuel { s with cursor := c.skip 1, fresh := s.fresh || !s.inBrackets }
    else { s with cursor := c }

/-- A marker of a document, which closes everything. -/
def addMarker (s : Layout) (token : Token) : Option Layout := do
  let s ← (s.closeFrom none).dropPlace
  some { s.pastMark token 3 with fresh := false }

def addDirective (s : Layout) : Option Layout := do
  let s ← (s.closeFrom none).dropPlace
  let (token, cursor) ← readDirective s.cursor
  some { s.add token with cursor, fresh := false }

def openBracket (s : Layout) (token : Token) : Option Layout := do
  let s ← s.keepPlace
  some { s.pastMark token 1 with inner := none :: s.inner, fresh := true }

def closeBracket (s : Layout) (token : Token) : Option Layout := do
  let s ← s.dropPlace
  some { s.pastMark token 1 with inner := s.inner.drop 1, fresh := false }

/-- A comma, behind which a key may begin. -/
def addComma (s : Layout) : Option Layout := do
  let s ← s.dropPlace
  some { s.pastMark .comma 1 with fresh := true }

/-- The mark of an item or of a key, which opens a list or group if it stands further in. -/
def addLead (s : Layout) (opening token : Token) (freshInBrackets : Bool) : Option Layout :=
  if !s.inBrackets && !s.fresh then none
  else do
    let s ← (s.openAt s.cursor.column opening s.tokens.size).dropPlace
    some { s.pastMark token 1 with fresh := freshInBrackets || !s.inBrackets }

/-- A colon. What began at the place that is kept turns out to be a key. -/
def addValue (s : Layout) : Option Layout :=
  match s.place with
  | some p =>
    let keyed := { s with tokens := s.tokens.insertIdxIfInBounds p.token .key }
    let opened := (keyed.openAt p.column .groupStart p.token).setPlace none
    some { opened.pastMark .value 1 with fresh := false }
  | none =>
    if !s.inBrackets && !s.fresh then none
    else
      let opened := s.openAt s.cursor.column .groupStart s.tokens.size
      some { opened.pastMark .value 1 with fresh := !s.inBrackets }

/-- A token with a reader of its own, which may be a key. -/
def addRead (s : Layout) (read : Cursor → Option (Token × Cursor)) : Option Layout := do
  let s ← s.keepPlace
  let (token, cursor) ← read s.cursor
  some { s.add token with cursor, fresh := false }

def addBlock (s : Layout) (fuel : Nat) (style : Style) : Option Layout := do
  let s ← s.dropPlace
  let (text, cursor) ← readBlock fuel style s.least s.cursor
  some { s.add (.scalar style text) with cursor, fresh := true }

/-- A plain scalar; behind one that ends with a line a key may begin. -/
def addPlain (s : Layout) (fuel : Nat) : Option Layout := do
  let s ← s.keepPlace
  let (text, cursor, ended) ← readPlain s.inBrackets s.least fuel s.cursor
  some { s.add (.scalar .plain text) with cursor, fresh := ended }

/-- Reads the token that begins with a character. The fuel is more than the characters that are
left. -/
def addToken (s : Layout) (fuel : Nat) (c : Char) (rest : List Char) : Option Layout :=
  let alone := endsWord rest
  if s.cursor.column = 0 ∧ c = '%' then s.addDirective
  else if s.cursor.atMark "---" then s.addMarker .documentStart
  else if s.cursor.atMark "..." then s.addMarker .documentEnd
  else if c = '[' then s.openBracket .bracketOpen
  else if c = '\x7b' then s.openBracket .braceOpen
  else if c = ']' then s.closeBracket .bracketClose
  else if c = '\x7d' then s.closeBracket .braceClose
  else if c = ',' then s.addComma
  else if c = '-' ∧ alone then s.addLead .listStart .item true
  else if c = '?' ∧ (s.inBrackets ∨ alone) then s.addLead .groupStart .key false
  else if c = ':' ∧ (s.inBrackets ∨ alone) then s.addValue
  else if c = '*' then s.addRead fun c => (readName c).map fun found => (.alias found.1, found.2)
  else if c = '&' then s.addRead fun c => (readName c).map fun found => (.anchor found.1, found.2)
  else if c = '!' then s.addRead (readTag s.inBrackets)
  else if c = '|' ∧ !s.inBrackets then s.addBlock fuel .literal
  else if c = '>' ∧ !s.inBrackets then s.addBlock fuel .folded
  else if c = '"' ∨ c = '\'' then
    s.addRead fun cursor =>
      (readQuoted c fuel (cursor.skip 1)).map fun found =>
        (.scalar .quoted found.1, found.2)
  else if startsPlain s.inBrackets (c :: rest) then s.addPlain fuel
  else none

/-- Reads tokens up to the end of the text; each takes at least one character. -/
def run : Nat → Layout → Option Layout
  | 0, _ => none
  | fuel + 1, s => do
    let s ← (settle (fuel + 1) s).refreshPlaces
    let s := s.closeFrom (some s.cursor.column)
    match s.rest with
    | [] => (s.closeFrom none).dropPlace
    | c :: rest => (s.addToken (fuel + 1) c rest).bind (run fuel)

end Layout

/-- The tokens of a text. -/
def Token.ofText? (text : String) : Option (List Token) :=
  let cs := text.toList
  if cs.all isAllowed then
    let cs := unifyBreaks cs
    (Layout.run (cs.length + 2) { cursor := ⟨cs, 0, 0⟩ }).map (·.tokens.toList)
  else none

end Reroute.Yaml
