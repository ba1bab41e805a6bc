/-
  Reading what may stand for one character: escapes, named classes and bracketed classes.
  Every reader takes the rest of the pattern and answers what is left of it; `none` is a
  malformed pattern.
-/
import Reroute.Regex.Expr
import Reroute.Regex.CharClass
import Reroute.Text.Blank

namespace Reroute.Regex

open Reroute.Text

/-- Switches that a pattern may set. -/
structure Flags where
  ignoreCase : Bool := false
  multiLine : Bool := false
  dotAll : Bool := false
  swapGreed : Bool := false
  unicode : Bool := true
  carriage : Bool := false
  verbose : Bool := false
deriving DecidableEq, Repr

/-- Skips blanks and comments; a comment ends with its line. -/
def skipComment (inComment : Bool) : List Char → List Char
  | [] => []
  | c :: rest =>
    if inComment then skipComment (c != '\n') rest
    else if isBlank c then skipComment false rest
    else if c = '#' then skipComment true rest
    else c :: rest

/-- In verbose patterns blanks and comments mean nothing. -/
def Flags.skip (flags : Flags) (cs : List Char) : List Char :=
  if flags.verbose then skipComment false cs else cs

/-- What a backslash or a plain character stands for. -/
inductive Atom
  /-- A character; `byte` marks one written as two hexadecimal digits. -/
  | literal (c : Char) (byte : Bool)
  | class (set : CharSet)
  | look (condition : Look)

/-- Whether a character has a meaning of its own in patterns. -/
def isMeta (c : Char) : Bool :=
  ['\\', '.', '+', '*', '?', '(', ')', '|', '[', ']', '\x7b', '\x7d', '^', '$', '#', '&', '-',
    '~'].contains c

/-- Whether a backslash before the character keeps it. -/
def isEscapable (c : Char) : Bool :=
  isMeta c || (c.toNat < 0x80 && !c.isAlphanum && c != '<' && c != '>')

/-- The character with the given code, unless it is too large or a surrogate. -/
def charOfCode? (n : Nat) : Option Char :=
  if h : n.isValidChar then some (Char.ofNatAux n h) else none

def hexValue (digits : List Nat) : Nat := digits.foldl (fun n d => n * 16 + d) 0

/-- Reads exactly `count` hexadecimal digits. -/
def readHexFixed (flags : Flags) : Nat → List Nat → List Char → Option (Char × List Char)
  | 0, digits, cs => (charOfCode? (hexValue digits.reverse)).map fun c => (c, cs)
  | count + 1, digits, cs =>
    match cs with
    | [] => none
    | c :: rest =>
      (CharSet.hexDigit? c).bind fun d =>
        readHexFixed flags count (d :: digits) (flags.skip rest)

/-- Reads hexadecimal digits up to a closing brace. -/
def readHexBraced (flags : Flags) : Nat → List Nat → List Char → Option (Char × List Char)
  | 0, _, _ => none
  | fuel + 1, digits, cs =>
    match flags.skip cs with
    | [] => none
    | c :: rest =>
      if c = '\x7d' then
        if digits.isEmpty then none
        else (charOfCode? (hexValue digits.reverse)).map fun found => (found, flags.skip rest)
      else
        (CharSet.hexDigit? c).bind fun d => readHexBraced flags fuel (d :: digits) rest

/-- Reads what follows `\x`, `\u` or `\U`. -/
def readHex (flags : Flags) (kind : Char) (cs : List Char) : Option (Atom × List Char) :=
  match flags.skip cs with
  | [] => none
  | c :: rest =>
    if c = '\x7b' then
      (readHexBraced flags (rest.length + 1) [] rest).map fun r => (.literal r.1 false, r.2)
    else
      let count := if kind = 'x' then 2 else if kind = 'u' then 4 else 8
      (readHexFixed flags count [] (c :: rest)).map fun r => (.literal r.1 (kind = 'x'), r.2)

/-- Reads up to a closing brace. -/
def readBraced (flags : Flags) : Nat → List Char → List Char → Option (String × List Char)
  | 0, _, _ => none
  | fuel + 1, name, cs =>
    match flags.skip cs with
    | [] => none
    | c :: rest =>
      if c = '\x7d' then some (String.ofList name.reverse, rest)
      else readBraced flags fuel (c :: name) rest

/-- The set that the text in the braces of a property stands for. -/
def bracedProperty? (name : String) : Option CharSet :=
  let cs := name.toList
  match splitAtText? ['!', '='] cs with
  | some (property, value) => propertyValueSet? (String.ofList property) (String.ofList value)
  | none =>
    match splitFirst? (· == ':') cs with
    | some (property, value) => propertyValueSet? (String.ofList property) (String.ofList value)
    | none =>
      match splitFirst? (· == '=') cs with
      | some (property, value) =>
        propertyValueSet? (String.ofList property) (String.ofList value)
      | none => propertySet? name

/-- A set after case closure and negation, in this order. -/
def Flags.close (flags : Flags) (negated : Bool) (set : CharSet) : CharSet :=
  let closed := if flags.ignoreCase then closeUnderCase set else set
  if negated then closed.compl else closed

/-- Bytes that are no ASCII characters cannot stand alone. -/
def asciiOnly? (set : CharSet) : Option CharSet :=
  if set.runs.all fun run => run.2 ≤ 0x7F then some set else none

/-- A set of bytes after case closure and negation. -/
def Flags.closeBytes? (flags : Flags) (negated : Bool) (set : CharSet) : Option CharSet :=
  let closed := if flags.ignoreCase then closeUnderAsciiCase set else set
  asciiOnly? (if negated then CharSet.diff ⟨#[(0, 0xFF)]⟩ closed else closed)

/-- Reads what follows `\p` or `\P`. -/
def readProperty (flags : Flags) (negated : Bool) (cs : List Char) :
    Option (CharSet × List Char) := do
  let (set, rest) ←
    match flags.skip cs with
    | [] => none
    | c :: rest =>
      if c = '\x7b' then do
        let (name, rest) ← readBraced flags (rest.length + 1) [] rest
        let set ← bracedProperty? name
        some (set, rest)
      else if c = '\\' then none
      else do
        let set ← propertySet? (String.singleton c)
        some (set, flags.skip rest)
  if flags.unicode then some (flags.close negated set, rest) else none

/-- The classes of digits, blanks and word characters. -/
def shortClass? (flags : Flags) (letter : Char) : Option CharSet :=
  let set :=
    match letter.toLower with
    | 'd' => if flags.unicode then Category.decimalNumber else asciiDigits
    | 's' => if flags.unicode then Property.whiteSpace else asciiBlanks
    | _ => if flags.unicode then wordChars else asciiWordChars
  if letter.isLower then some set
  else if flags.unicode then some set.compl
  else none

/-- Reads a named word edge in braces; anything that cannot be a name is left to be a count. -/
def readWordEdge (flags : Flags) (cs : List Char) : Option (Option WordEdge × List Char) :=
  match flags.skip cs with
  | [] => none
  | c :: rest =>
    if !isNameChar c then some (none, '\x7b' :: cs)
    else
      let (name, after) := readName (rest.length + 1) [] (c :: rest)
      match after with
      | '\x7d' :: tail =>
        match String.ofList name with
        | "start" => some (some .start, tail)
        | "end" => some (some .stop, tail)
        | "start-half" => some (some .startHalf, tail)
        | "end-half" => some (some .stopHalf, tail)
        | _ => none
      | _ => none
where
  isNameChar (c : Char) : Bool := c.isAlpha || c == '-'
  readName : Nat → List Char → List Char → List Char × List Char
    | 0, name, cs => (name.reverse, cs)
    | fuel + 1, name, cs =>
      match cs with
      | c :: rest =>
        if isNameChar c then readName fuel (c :: name) (flags.skip rest)
        else (name.reverse, cs)
      | [] => (name.reverse, [])

/-- Reads what follows a backslash. -/
def readEscape (flags : Flags) : List Char → Option (Atom × List Char)
  | [] => none
  | c :: rest =>
    if c.isDigit then none
    else if c = 'x' || c = 'u' || c = 'U' then readHex flags c rest
    else if c = 'p' || c = 'P' then
      (readProperty flags (c = 'P') rest).map fun r => (.class r.1, r.2)
    else if c.toLower = 'd' || c.toLower = 's' || c.toLower = 'w' then
      (shortClass? flags c).map fun set => (.class set, rest)
    else if isEscapable c then some (.literal c false, rest)
    else
      match c with
      | 'a' => some (.literal '\x07' false, rest)
      | 'f' => some (.literal '\x0c' false, rest)
      | 't' => some (.literal '\t' false, rest)
      | 'n' => some (.literal '\n' false, rest)
      | 'r' => some (.literal '\r' false, rest)
      | 'v' => some (.literal '\x0b' false, rest)
      | 'A' => some (.look .textStart, rest)
      | 'z' => some (.look .textEnd, rest)
      | 'B' => some (.look (.word .inside flags.unicode), rest)
      | '<' => some (.look (.word .start flags.unicode), rest)
      | '>' => some (.look (.word .stop flags.unicode), rest)
      | 'b' =>
        match rest with
        | '\x7b' :: tail =>
          (readWordEdge flags tail).map fun r =>
            (.look (.word (r.1.getD .boundary) flags.unicode), r.2)
        | _ => some (.look (.word .boundary flags.unicode), rest)
      | _ => none

/-- The code of a literal in a bracketed class. Without Unicode it is an ASCII character. -/
def Flags.classCode? (flags : Flags) (c : Char) : Option Nat :=
  if flags.unicode || c.toNat ≤ 0x7F then some c.toNat else none

/-- Reads one member of a bracketed class or one end of a range. -/
def readMember (flags : Flags) : List Char → Option (Atom × List Char)
  | [] => none
  | '\\' :: rest => readEscape flags rest
  | c :: rest => some (.literal c false, rest)

/-- The next character that counts, for telling a range from a lone hyphen. In verbose
patterns a number sign is taken for the start of a comment that ends at once. -/
def peekMember (flags : Flags) (cs : List Char) : Option Char :=
  if !flags.verbose then cs.head?
  else
    match cs.dropWhile isBlank with
    | '#' :: rest => (rest.dropWhile isBlank).head?
    | other => other.head?

/-- Members united so far, their number, and how deeply the deepest of them is nested. -/
structure Members where
  set : CharSet := .empty
  count : Nat := 0
  depth : Nat := 0

def Members.add (m : Members) (set : CharSet) (depth : Nat) : Members :=
  ⟨m.set.union set, m.count + 1, max m.depth depth⟩

/-- More than one member is one level of nesting. -/
def Members.level (m : Members) : Nat := if 1 < m.count then m.depth + 1 else m.depth

inductive SetOp
  | inter
  | diff
  | symmDiff
deriving DecidableEq

def SetOp.apply : SetOp → CharSet → CharSet → CharSet
  | .inter => .inter
  | .diff => .diff
  | .symmDiff => .symmDiff

/-- The left operand of a set operation, with its depth. -/
structure Operand where
  op : SetOp
  set : CharSet
  depth : Nat

/-- Closes the right operand: the set and depth of the operation. -/
def combine (flags : Flags) (left : Option Operand) (right : Members) : CharSet × Nat :=
  match left with
  | none => (right.set, right.level)
  | some l =>
    let close := fun (s : CharSet) =>
      if !flags.ignoreCase then s
      else if flags.unicode then closeUnderCase s else closeUnderAsciiCase s
    (l.op.apply (close l.set) (close right.set), max l.depth right.level + 1)

/-- Reads a class name between brackets and colons, as in `[:alpha:]`. -/
def readAsciiClass (flags : Flags) (cs : List Char) : Option (Option CharSet × List Char) :=
  match cs with
  | '[' :: ':' :: rest =>
    let (negated, rest) :=
      match rest with
      | '^' :: tail => (true, tail)
      | tail => (false, tail)
    let name := rest.takeWhile (· != ':')
    match rest.drop name.length with
    | ':' :: ']' :: tail =>
      (asciiClass? (String.ofList name)).map fun set =>
        if flags.unicode then (some (flags.close negated set), tail)
        else (flags.closeBytes? negated set, tail)
    | _ => none
  | _ => none

/-- Reads the opening of a bracketed class: a caret negates, hyphens and a first bracket count
as themselves. -/
def openClass (flags : Flags) (cs : List Char) : Bool × Members × List Char :=
  let cs := flags.skip cs
  let (negated, cs) :=
    match cs with
    | '^' :: rest => (true, flags.skip rest)
    | _ => (false, cs)
  let (members, cs) := hyphens (cs.length + 1) {} cs
  match cs with
  | ']' :: rest =>
    if members.count = 0 then (negated, members.add (.single ']') 0, flags.skip rest)
    else (negated, members, cs)
  | _ => (negated, members, cs)
where
  hyphens : Nat → Members → List Char → Members × List Char
    | 0, members, cs => (members, cs)
    | fuel + 1, members, cs =>
      match cs with
      | '-' :: rest => hyphens fuel (members.add (.single '-') 0) (flags.skip rest)
      | _ => (members, cs)

/-- Reads one member or range and adds it. -/
def readRange (flags : Flags) (members : Members) (cs : List Char) :
    Option (Members × List Char) := do
  let (first, rest) ← readMember flags cs
  let rest := flags.skip rest
  let lone := do
    match first with
    | .literal c _ =>
      let code ← flags.classCode? c
      some (members.add ⟨#[(code, code)]⟩ 0, rest)
    | .class set => some (members.add set 0, rest)
    | .look _ => none
  match rest with
  | [] => none
  | '-' :: tail =>
    let next := peekMember flags tail
    if next = some ']' || next = some '-' then lone
    else do
      let (second, rest) ← readMember flags (flags.skip tail)
      match first, second with
      | .literal a _, .literal b _ =>
        if b.toNat < a.toNat then none
        else do
          let low ← flags.classCode? a
          let high ← flags.classCode? b
          some (members.add ⟨#[(low, high)]⟩ 0, rest)
      | _, _ => none
  | _ => lone

/-- Reads a bracketed class from behind its opening up to its end. Every turn takes a character;
the answer is the set and its depth. -/
def readClassBody (flags : Flags) : Nat → Bool → Option Operand → Members → List Char →
    Option (CharSet × Nat × List Char)
  | 0, _, _, _, _ => none
  | fuel + 1, negated, left, members, cs =>
    match flags.skip cs with
    | [] => none
    | '[' :: rest =>
      match readAsciiClass flags ('[' :: rest) with
      | some (none, _) => none
      | some (some set, tail) =>
        readClassBody flags fuel negated left (members.add set 0) tail
      | none => do
        let (innerNegated, inner, tail) := openClass flags rest
        let (set, depth, tail) ← readClassBody flags fuel innerNegated none inner tail
        readClassBody flags fuel negated left (members.add set depth) tail
    | ']' :: rest => do
      let (set, depth) := combine flags left members
      let closed ←
        if flags.unicode then some (flags.close negated set) else flags.closeBytes? negated set
      some (closed, depth + 1, rest)
    | '&' :: '&' :: rest =>
      let (set, depth) := combine flags left members
      readClassBody flags fuel negated (some ⟨.inter, set, depth⟩) {} rest
    | '-' :: '-' :: rest =>
      let (set, depth) := combine flags left members
      readClassBody flags fuel negated (some ⟨.diff, set, depth⟩) {} rest
    | '~' :: '~' :: rest =>
      let (set, depth) := combine flags left members
      readClassBody flags fuel negated (some ⟨.symmDiff, set, depth⟩) {} rest
    | other => do
      let (members, rest) ← readRange flags members other
      readClassBody flags fuel negated left members rest

/-- Reads a bracketed class from behind its first bracket. -/
def readClass (flags : Flags) (cs : List Char) : Option (CharSet × Nat × List Char) :=
  let (negated, members, rest) := openClass flags cs
  readClassBody flags (2 * cs.length + 2) negated none members rest

end Reroute.Regex
