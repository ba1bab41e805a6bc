/-
  Words of TOML texts: keys, strings, numbers, and dates.
  Readers answer what is left of the text, or nothing where the text is malformed.
-/
import Reroute.Setting
import Reroute.Text.Blank
import Reroute.Text.CharSet

namespace Reroute.Toml

open Reroute.Text

def isGap (c : Char) : Bool := c == ' ' || c == '\t'

def skipGaps (cs : List Char) : List Char := cs.dropWhile isGap

/-- A line ends with a line feed, or with a carriage return that stands for both of them. -/
def isBreak (c : Char) : Bool := c == '\n' || c == '\r'

/-- Characters that may stand in a text. -/
def isAllowed (c : Char) : Bool :=
  c == '\t' || isBreak c || (0x20 ≤ c.toNat && c.toNat != 0x7F)

/-- Shortens line breaks of two characters to the first one, which may not stand alone. -/
def shortenBreaks? : List Char → Option (List Char)
  | '\r' :: '\n' :: rest => (shortenBreaks? rest).map ('\r' :: ·)
  | '\r' :: _ => none
  | c :: rest => (shortenBreaks? rest).map (c :: ·)
  | [] => some []

/-- What a character of a string stands for: a line break keeps all of its characters. -/
def unshortened (c : Char) : List Char := if c = '\r' then ['\r', '\n'] else [c]

/-! ### Strings -/

/-- Characters that a backslash and a letter stand for. -/
def escapes : List (Char × Char) := [
  ('b', '\x08'), ('e', '\x1b'), ('t', '\t'), ('n', '\n'), ('f', '\x0c'), ('r', '\r'), ('"', '"'),
  ('\\', '\\')]

/-- The character of a code point in hexadecimal digits. -/
def charOfHex? (digits : List Char) (width : Nat) : Option Char :=
  if digits.length < width then none
  else
    (digits.mapM CharSet.hexDigit?).bind fun values =>
      let n := values.foldl (fun n d => n * 16 + d) 0
      if n.isValidChar then some (Char.ofNat n) else none

/-- The character of an escape, and how many characters behind the backslash it takes. -/
def readEscape (cs : List Char) : Option (Char × Nat) :=
  match cs with
  | 'x' :: rest => (charOfHex? (rest.take 2) 2).map fun c => (c, 3)
  | 'u' :: rest => (charOfHex? (rest.take 4) 4).map fun c => (c, 5)
  | 'U' :: rest => (charOfHex? (rest.take 8) 8).map fun c => (c, 9)
  | c :: _ => (escapes.lookup c).map fun found => (found, 1)
  | [] => none

/-- What follows a backslash at the end of a line: all gaps and line breaks are dropped. -/
def lineJoin? (cs : List Char) : Option (List Char) :=
  match skipGaps cs with
  | c :: rest => if isBreak c then some (rest.dropWhile fun c => isGap c || isBreak c) else none
  | [] => none

/-- Reads a string of one line from behind its opening mark. -/
def readShort (mark : Char) : Nat → List Char → Option (List Char × List Char)
  | 0, _ => none
  | fuel + 1, cs =>
    match cs with
    | [] => none
    | c :: rest =>
      if c = mark then some ([], rest)
      else if isBreak c then none
      else if c = '\\' ∧ mark = '"' then do
        let (char, count) ← readEscape rest
        let (more, after) ← readShort mark fuel (rest.drop count)
        some (char :: more, after)
      else (readShort mark fuel rest).map fun (more, after) => (c :: more, after)

/-- Reads a string of several lines from behind its opening marks. Up to two marks may stand
before the three that close it. -/
def readLong (mark : Char) : Nat → List Char → Option (List Char × List Char)
  | 0, _ => none
  | fuel + 1, cs =>
    match cs with
    | [] => none
    | c :: rest =>
      if c = mark then
        let marks := (cs.takeWhile (· == mark)).take 5
        if 3 ≤ marks.length then some (marks.drop 3, cs.drop marks.length)
        else
          (readLong mark fuel (cs.drop marks.length)).map fun (more, after) =>
            (marks ++ more, after)
      else if c = '\\' ∧ mark = '"' then
        match lineJoin? rest with
        | some after => readLong mark fuel after
        | none => do
          let (char, count) ← readEscape rest
          let (more, after) ← readLong mark fuel (rest.drop count)
          some (char :: more, after)
      else (readLong mark fuel rest).map fun (more, after) => (unshortened c ++ more, after)

/-- Reads a string from its opening mark on. A line break right behind three marks is dropped. -/
def readString (mark : Char) (cs : List Char) : Option (List Char × List Char) :=
  if (cs.take 3).all (· == mark) && 3 ≤ cs.length then
    let rest := cs.drop 3
    readLong mark (rest.length + 1) (if rest.head?.any isBreak then rest.drop 1 else rest)
  else readShort mark cs.length (cs.drop 1)

/-! ### Keys -/

def isBareChar (c : Char) : Bool := c.isAlphanum || c == '_' || c == '-'

/-- Reads one part of a key. -/
def readKeyPart (cs : List Char) : Option (String × List Char) :=
  match cs with
  | c :: rest =>
    if c = '"' ∨ c = '\'' then
      (readShort c cs.length rest).map fun (text, after) => (String.ofList text, after)
    else
      let bare := cs.takeWhile isBareChar
      if bare.isEmpty then none else some (String.ofList bare, cs.drop bare.length)
  | [] => none

/-- Reads a key, whose parts are joined by dots, and the gaps around each part. -/
def readKey : Nat → List Char → Option (List String × List Char)
  | 0, _ => none
  | fuel + 1, cs => do
    let (part, rest) ← readKeyPart (skipGaps cs)
    match skipGaps rest with
    | '.' :: rest => (readKey fuel rest).map fun (more, after) => (part :: more, after)
    | rest => some ([part], rest)

/-! ### Numbers and dates -/

/-- Whether an underscore stands between two digits wherever one stands. -/
def groupsWell (isDigit : Char → Bool) (digits : List Char) : Bool :=
  (splitAll '_' digits).all fun group => !group.isEmpty && group.all isDigit

def isIn (base : Nat) (c : Char) : Bool := (CharSet.hexDigit? c).any (· < base)

def valueOf (base : Nat) (digits : List Char) : Nat :=
  ((digits.filter (· != '_')).filterMap CharSet.hexDigit?).foldl (fun n d => n * base + d) 0

def isDecimal (digits : List Char) : Bool :=
  groupsWell Char.isDigit digits && (digits.head? != some '0' || digits.length == 1)

/-- A sign, if there is one, and what follows it. -/
def splitSign (word : List Char) : Bool × List Char :=
  match word with
  | '-' :: rest => (true, rest)
  | '+' :: rest => (false, rest)
  | _ => (false, word)

/-- Numbers have to be below this bound, and negative ones not below its half. -/
def integerBound : Nat := Nat.pow 2 128

/-- The number of digits in a base. -/
def readBase? (base : Nat) (digits : List Char) : Option Setting :=
  let n := valueOf base digits
  if groupsWell (isIn base) digits && n < integerBound then some (.ofNumber n) else none

/-- The setting of an integer. A negative one stands for nothing that is asked for. -/
def readInteger? (word : List Char) : Option Setting :=
  match word with
  | '0' :: 'x' :: digits => readBase? 16 digits
  | '0' :: 'o' :: digits => readBase? 8 digits
  | '0' :: 'b' :: digits => readBase? 2 digits
  | _ =>
    let (negative, digits) := splitSign word
    if !isDecimal digits then none
    else if negative && valueOf 10 digits != 0 then
      if 2 * valueOf 10 digits ≤ integerBound then some .other else none
    else readBase? 10 digits

/-- A number without its sign: the digits before the point, those behind it, and the exponent
with its letter. -/
structure FloatParts where
  whole : List Char
  fraction : Option (List Char)
  exponent : List Char

def floatParts (unsigned : List Char) : FloatParts :=
  let isDigit := fun (c : Char) => c.isDigit || c == '_'
  let whole := unsigned.takeWhile isDigit
  match unsigned.drop whole.length with
  | '.' :: more => ⟨whole, some (more.takeWhile isDigit), more.dropWhile isDigit⟩
  | rest => ⟨whole, none, rest⟩

/-- Whether parts are those of a number that has a fraction or an exponent. -/
def FloatParts.wellFormed (p : FloatParts) : Bool :=
  isDecimal p.whole && p.fraction.all (groupsWell Char.isDigit) &&
    match p.exponent with
    | [] => p.fraction.isSome
    | e :: more => (e == 'e' || e == 'E') && groupsWell Char.isDigit (splitSign more).2

/-- The least number that no float is nearest to: half a unit above the largest float. -/
def floatBound : Nat := Nat.pow 2 1024 - Nat.pow 2 970

/-- Whether the number stays below the bound. The number of digits decides unless the number
is close to it. -/
def FloatParts.inBound (p : FloatParts) : Bool :=
  let fraction := (p.fraction.getD []).filter (· != '_')
  let digits := valueOf 10 (p.whole ++ fraction)
  let (negative, power) := splitSign (p.exponent.drop 1)
  let power := valueOf 10 power
  let down := fraction.length + if negative then power else 0
  let up := if negative then 0 else power
  let size := (Nat.toDigits 10 digits).length + up
  digits = 0 || size < down + 300 ||
    (size < down + 320 &&
      digits * Nat.pow 10 (up - down) < floatBound * Nat.pow 10 (down - up))

/-- Whether a word is a number with a fraction or an exponent, or one of the special ones. -/
def isFloat (word : List Char) : Bool :=
  let unsigned := (splitSign word).2
  let parts := floatParts unsigned
  unsigned == "inf".toList || unsigned == "nan".toList || (parts.wellFormed && parts.inBound)

/-- Whether a word has the shape of a pattern, in which a zero stands for any digit. -/
def hasShape (shape word : List Char) : Bool :=
  shape.length == word.length &&
    (shape.zip word).all fun (s, c) => if s = '0' then Char.isDigit c else c == s

/-- How many days a month has. -/
def monthDays (year month : Nat) : Nat :=
  if month = 2 then (if year % 4 = 0 ∧ (year % 100 ≠ 0 ∨ year % 400 = 0) then 29 else 28)
  else if [4, 6, 9, 11].contains month then 30
  else 31

/-- Whether a word is a day of the calendar. -/
def isDate (word : List Char) : Bool :=
  let month := valueOf 10 ((word.drop 5).take 2)
  let day := valueOf 10 (word.drop 8)
  hasShape "0000-00-00".toList word && 1 ≤ month && month ≤ 12 && 1 ≤ day &&
    day ≤ monthDays (valueOf 10 (word.take 4)) month

/-- Whether a word is a time of day: with seconds, of which there may be a fraction, or without.
A minute may have a leap second. -/
def isTime (word : List Char) : Bool :=
  valueOf 10 (word.take 2) ≤ 23 && valueOf 10 ((word.drop 3).take 2) ≤ 59 &&
    if word.length = 5 then hasShape "00:00".toList word
    else
      hasShape "00:00:00".toList (word.take 8) && valueOf 10 ((word.drop 6).take 2) ≤ 60 &&
        match word.drop 8 with
        | [] => true
        | '.' :: digits => !digits.isEmpty && digits.all Char.isDigit
        | _ => false

/-- Whether a word is a distance from universal time. -/
def isDistance (word : List Char) : Bool :=
  (hasShape "+00:00".toList word || hasShape "-00:00".toList word) &&
    valueOf 10 ((word.drop 1).take 2) ≤ 23 && valueOf 10 (word.drop 4) ≤ 59

/-- A time of day, and the distance from universal time behind it. -/
def splitZone (word : List Char) : List Char × List Char :=
  match word.getLast? with
  | some last =>
    if last = 'Z' ∨ last = 'z' then (word.dropLast, ['Z'])
    else if isDistance (word.drop (word.length - 6)) then
      (word.take (word.length - 6), word.drop (word.length - 6))
    else (word, [])
  | none => (word, [])

/-- A time of day as it is written back: with its seconds, and up to nine digits of the fraction,
without zeros at its end. -/
def writeTime (word : List Char) : List Char :=
  let digits := (((word.drop 9).take 9).reverse.dropWhile (· == '0')).reverse
  let seconds := if word.length = 5 then ":00".toList else (word.drop 5).take 3
  word.take 5 ++ seconds ++ if digits.isEmpty then [] else '.' :: digits

/-- The text of a date, of a time, or of both. -/
def moment? (word : List Char) : Option String :=
  let (time, zone) := splitZone (word.drop 11)
  if isDate word then some (String.ofList word)
  else if isTime word then some (String.ofList (writeTime word))
  else if isDate (word.take 10) && (word[10]?).any (['T', 't', ' '].contains ·) &&
      isTime time then
    some (String.ofList (word.take 10 ++ 'T' :: writeTime time ++ zone))
  else none

/-- The one field of a date. -/
def momentKey : String := "$__toml_private_datetime"

/-- The setting of a date: a group that holds its text. -/
def moment (text : String) : Setting := .group [(.ofText momentKey, .ofText text)]

def endsBare (c : Char) : Bool :=
  isGap c || isBreak c || c == ',' || c == ']' || c == '\x7d' || c == '#'

/-- Takes a word without quotes. The space between a date and a time does not end it. -/
def takeBare (cs : List Char) : List Char :=
  let word := cs.takeWhile fun c => !endsBare c
  match cs.drop word.length with
  | ' ' :: d :: _ =>
    if hasShape "0000-00-00".toList word && d.isDigit then
      word ++ ' ' :: (cs.drop (word.length + 1)).takeWhile fun c => !endsBare c
    else word
  | _ => word

/-- The setting of a word without quotes. -/
def readBare (word : List Char) : Option Setting :=
  if word == "true".toList || word == "false".toList || isFloat word then some .other
  else ((moment? word).map moment) <|> readInteger? word

end Reroute.Toml
