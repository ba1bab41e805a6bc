/-
  Reading a pattern into a tree.
  One pass over the characters; open groups wait on a stack. Switches set in a group hold to
  its end, across its alternatives. The tree may be nested 250 levels deep.
-/
import Reroute.Regex.Class

namespace Reroute.Regex

open Reroute.Text

/-- A finished part with its depth. Switches and nothing cannot be repeated. -/
structure Piece where
  expr : Expr
  depth : Nat
  repeatable : Bool := true

/-- What surrounds an open group. -/
structure Outer where
  pieces : List Piece
  branches : List Piece
  flags : Flags
  group : Option Nat

/-- The state of reading; pieces and branches stand in reverse. -/
structure Reader where
  flags : Flags
  pieces : List Piece := []
  branches : List Piece := []
  outer : List Outer := []
  groups : Nat := 0
  names : List String := []

namespace Reader

def maxDepth : Nat := 250

def deepest (pieces : List Piece) : Nat := pieces.foldl (fun d p => max d p.depth) 0

/-- The pieces read since the last bar, as one. -/
def closeBranch (r : Reader) : Piece :=
  match r.pieces with
  | [] => ⟨.empty, 0, false⟩
  | [piece] => piece
  | pieces => ⟨.seqOf (pieces.reverse.map (·.expr)), deepest pieces + 1, true⟩

/-- All alternatives of the innermost group, as one. -/
def closeBranches (r : Reader) : Piece :=
  match r.branches with
  | [] => r.closeBranch
  | branches =>
    let all := r.closeBranch :: branches
    ⟨.altOf (all.reverse.map (·.expr)), deepest all + 1, true⟩

def push (r : Reader) (expr : Expr) (depth : Nat) : Reader :=
  { r with pieces := ⟨expr, depth, true⟩ :: r.pieces }

def openGroup (r : Reader) (group : Option Nat) (flags : Flags) : Reader :=
  { r with pieces := [], branches := [], flags
           outer := ⟨r.pieces, r.branches, r.flags, group⟩ :: r.outer }

def closeGroup? (r : Reader) : Option Reader :=
  match r.outer with
  | [] => none
  | o :: outer =>
    let inner := r.closeBranches
    let expr := match o.group with
      | some n => .group n inner.expr
      | none => inner.expr
    some { r with flags := o.flags, branches := o.branches, outer
                  pieces := ⟨expr, inner.depth + 1, true⟩ :: o.pieces }

/-- Repeats the last piece. -/
def repeatLast? (r : Reader) (min : Nat) (max : Option Nat) (greedy : Bool) : Option Reader :=
  match r.pieces with
  | piece :: pieces =>
    if piece.repeatable then
      some { r with pieces := ⟨.repeated min max (greedy != r.flags.swapGreed) piece.expr,
                                piece.depth + 1, true⟩ :: pieces }
    else none
  | [] => none

/-- The tree of a literal character. -/
def literal? (flags : Flags) (c : Char) (byte : Bool) : Option Expr :=
  if !flags.unicode && byte && 0x7F < c.toNat then none
  else if !flags.ignoreCase then some (.literal [c])
  else if flags.unicode then some (.oneOf (closeUnderCase (.single c)))
  else some (.oneOf (closeUnderAsciiCase (.single c)))

/-- The tree of a dot. Without Unicode it would match single bytes. -/
def dot? (flags : Flags) : Option Expr :=
  if !flags.unicode then none
  else if flags.dotAll then some (.chars .all)
  else if flags.carriage then some (.chars (CharSet.compl ⟨#[(0xA, 0xA), (0xD, 0xD)]⟩))
  else some (.chars (CharSet.compl (.single '\n')))

def lineStart (flags : Flags) : Look :=
  if !flags.multiLine then .textStart else if flags.carriage then .carriageLineStart
  else .lineStart

def lineEnd (flags : Flags) : Look :=
  if !flags.multiLine then .textEnd else if flags.carriage then .carriageLineEnd else .lineEnd

/-- A lazy mark after a repetition. -/
def takeLazy (cs : List Char) : Bool × List Char :=
  match cs with
  | '?' :: rest => (false, rest)
  | _ => (true, cs)

/-- Reads a count: blanks around it mean nothing, and it has 32 bits. `some none` is no count. -/
def readCount (flags : Flags) (cs : List Char) : Option (Option Nat × List Char) :=
  let (digits, rest) := digits (cs.length + 1) [] (cs.dropWhile isBlank)
  let rest := blanks (rest.length + 1) rest
  if digits.isEmpty then some (none, rest)
  else
    let value := digits.reverse.foldl (fun n d => n * 10 + d) 0
    if value < Nat.pow 2 32 then some (some value, rest) else none
where
  digits : Nat → List Nat → List Char → List Nat × List Char
    | 0, found, cs => (found, cs)
    | fuel + 1, found, cs =>
      match cs with
      | c :: rest =>
        if c.isDigit then digits fuel ((c.toNat - '0'.toNat) :: found) (flags.skip rest)
        else (found, cs)
      | [] => (found, [])
  blanks : Nat → List Char → List Char
    | 0, cs => cs
    | fuel + 1, cs =>
      match cs with
      | c :: rest => if isBlank c then blanks fuel (flags.skip rest) else cs
      | [] => []

/-- Reads the bounds of a counted repetition: a number, a number with a comma, or two. -/
def readBounds? (flags : Flags) (cs : List Char) : Option (Nat × Option Nat × List Char) := do
  let (low, rest) ← readCount flags (flags.skip cs)
  match rest with
  | ',' :: tail =>
    match flags.skip tail with
    | '\x7d' :: _ => low.map fun n => (n, none, flags.skip tail)
    | tail =>
      let n ← low
      let (high, rest) ← readCount flags tail
      let m ← high
      if m < n then none else some (n, some m, rest)
  | _ => low.map fun n => (n, some n, rest)

/-- Reads a counted repetition from behind its opening brace. -/
def readCounted? (r : Reader) (cs : List Char) : Option (Reader × List Char) := do
  let (min, max, rest) ← readBounds? r.flags cs
  match rest with
  | '\x7d' :: tail =>
    let (greedy, rest) := takeLazy (r.flags.skip tail)
    let r ← r.repeatLast? min max greedy
    some (r, rest)
  | _ => none

/-- Sets or clears the switch that a letter names. -/
def setFlag? (flags : Flags) (on : Bool) : Char → Option Flags
  | 'i' => some { flags with ignoreCase := on }
  | 'm' => some { flags with multiLine := on }
  | 's' => some { flags with dotAll := on }
  | 'U' => some { flags with swapGreed := on }
  | 'u' => some { flags with unicode := on }
  | 'R' => some { flags with carriage := on }
  | 'x' => some { flags with verbose := on }
  | _ => none

/-- Reads switches up to a colon or closing bracket. No letter may come twice, nor a hyphen
twice or last. Answers whether any item was read, and the character that ends them. -/
def readFlags : Flags → Bool → List Char → List Char → Option (Flags × Bool × Char × List Char)
  | _, _, _, [] => none
  | flags, on, seen, c :: rest =>
    if c = ':' || c = ')' then
      if seen.head? = some '-' then none else some (flags, !seen.isEmpty, c, rest)
    else if seen.contains c then none
    else if c = '-' then readFlags flags false ('-' :: seen) rest
    else (setFlag? flags on c).bind fun flags => readFlags flags on (c :: seen) rest

def isNameStart (c : Char) : Bool := c == '_' || Version17.alphabetic.contains c

def isNameChar (c : Char) : Bool :=
  c == '_' || c == '.' || c == '[' || c == ']' || Version17.alphabetic.contains c
    || Version17.number.contains c

/-- Reads the name of a group up to its closing angle. -/
def readName? (cs : List Char) : Option (String × List Char) :=
  let name := cs.takeWhile (· != '>')
  match name, cs.drop name.length with
  | c :: more, '>' :: rest =>
    if isNameStart c && more.all isNameChar then some (String.ofList name, rest) else none
  | _, _ => none

def namedGroup? (r : Reader) (cs : List Char) : Option (Reader × List Char) := do
  let (name, rest) ← readName? cs
  if r.names.contains name then none
  else
    let index := r.groups + 1
    some ({ r with groups := index, names := name :: r.names }.openGroup (some index) r.flags,
      rest)

/-- Reads what follows an opening bracket. Assertions about the text around are unknown. -/
def readGroup? (r : Reader) (cs : List Char) : Option (Reader × List Char) :=
  match r.flags.skip cs with
  | '?' :: '=' :: _ | '?' :: '!' :: _ | '?' :: '<' :: '=' :: _ | '?' :: '<' :: '!' :: _ => none
  | '?' :: 'P' :: '<' :: rest => r.namedGroup? rest
  | '?' :: '<' :: rest => r.namedGroup? rest
  | '?' :: rest => do
    let (flags, any, stop, rest) ← readFlags r.flags true [] rest
    if stop = ':' then some (r.openGroup none flags, rest)
    else if any then
      some ({ r with flags, pieces := ⟨.empty, 0, false⟩ :: r.pieces }, rest)
    else none
  | rest =>
    let index := r.groups + 1
    some ({ r with groups := index }.openGroup (some index) r.flags, rest)

/-- Reads the next part of the pattern. -/
def step (r : Reader) (c : Char) (rest : List Char) : Option (Reader × List Char) :=
  match c with
  | '(' => r.readGroup? rest
  | ')' => r.closeGroup?.map fun r => (r, rest)
  | '|' => some ({ r with pieces := [], branches := r.closeBranch :: r.branches }, rest)
  | '[' => (readClass r.flags rest).map fun found => (r.push (.oneOf found.1) found.2.1, found.2.2)
  | '?' =>
    let (greedy, rest) := takeLazy rest
    (r.repeatLast? 0 (some 1) greedy).map fun r => (r, rest)
  | '*' =>
    let (greedy, rest) := takeLazy rest
    (r.repeatLast? 0 none greedy).map fun r => (r, rest)
  | '+' =>
    let (greedy, rest) := takeLazy rest
    (r.repeatLast? 1 none greedy).map fun r => (r, rest)
  | '\x7b' => r.readCounted? rest
  | '.' => (dot? r.flags).map fun e => (r.push e 0, rest)
  | '^' => some (r.push (.look (lineStart r.flags)) 0, rest)
  | '$' => some (r.push (.look (lineEnd r.flags)) 0, rest)
  | '\\' =>
    (readEscape r.flags rest).bind fun found =>
      match found.1 with
      | .literal c byte => (literal? r.flags c byte).map fun e => (r.push e 0, found.2)
      | .class set => some (r.push (.oneOf set) 0, found.2)
      | .look condition => some (r.push (.look condition) 0, found.2)
  | c => (literal? r.flags c false).map fun e => (r.push e 0, rest)

/-- Reads to the end of the pattern; each step takes at least one character. -/
def run : Nat → Reader → List Char → Option Reader
  | 0, _, _ => none
  | fuel + 1, r, cs =>
    match r.flags.skip cs with
    | [] => some r
    | c :: rest => (r.step c rest).bind fun next => run fuel next.1 next.2

end Reader

/-- The tree that a pattern writes, if it is well formed. -/
def readExpr? (pattern : String) (ignoreCase : Bool) : Option Expr := do
  let cs := pattern.toList
  let r ← Reader.run (cs.length + 1) { flags := { ignoreCase } } cs
  if !r.outer.isEmpty then none
  else
    let whole := r.closeBranches
    if whole.depth ≤ Reader.maxDepth then some whole.expr else none

end Reroute.Regex
