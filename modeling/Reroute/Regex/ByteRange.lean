/-
  Runs of characters as sequences of byte ranges: the UTF-8 forms of the characters between two
  code points are those byte strings whose bytes fall into the ranges of one of the sequences.
  A run is cut where the number of bytes changes, and then until every byte but the first
  that differs takes all of its values.
-/
import Reroute.Text.CharSet

namespace Reroute.Regex

open Reroute.Text

/-- The bytes from `first` to `last`. -/
structure ByteRange where
  first : Nat
  last : Nat
deriving DecidableEq, Repr

namespace ByteRange

/-- The bytes of a code point in UTF-8. -/
def encode (code : Nat) : List Nat :=
  if code < 0x80 then [code]
  else if code < 0x800 then [0xC0 + code / 0x40, 0x80 + code % 0x40]
  else if code < 0x10000 then [0xE0 + code / 0x1000, 0x80 + code / 0x40 % 0x40, 0x80 + code % 0x40]
  else
    [0xF0 + code / 0x40000, 0x80 + code / 0x1000 % 0x40, 0x80 + code / 0x40 % 0x40,
      0x80 + code % 0x40]

/-- Where to cut for the sake of the last `bytes` bytes: `none` if the bytes before them are the
same at both ends, or if they take all values. -/
def cutTail? (first last bytes : Nat) : Option Nat :=
  let size := Nat.pow 64 bytes
  if first / size = last / size then none
  else if first % size ≠ 0 then some ((first / size + 1) * size)
  else if last % size ≠ size - 1 then some (last / size * size)
  else none

/-- The code point at which the second part of a run has to begin, if it has to be cut. -/
def cut? (first last : Nat) : Option Nat :=
  if first < 0x80 ∧ 0x80 ≤ last then some 0x80
  else if first < 0x800 ∧ 0x800 ≤ last then some 0x800
  else if first < 0x10000 ∧ 0x10000 ≤ last then some 0x10000
  else if last < 0x80 then none
  else cutTail? first last 1 <|> cutTail? first last 2 <|> cutTail? first last 3

/-- The parts of a run that need no cut, in order. -/
def cutAll (first last : Nat) : List (Nat × Nat) :=
  match cut? first last with
  | none => [(first, last)]
  | some middle =>
    if _h : first < middle ∧ middle ≤ last then cutAll first (middle - 1) ++ cutAll middle last
    else [(first, last)]
termination_by last - first

/-- A run that needs no cut, as a sequence of byte ranges. -/
def ofPart (part : Nat × Nat) : List ByteRange :=
  ((encode part.1).zip (encode part.2)).map fun bytes => ⟨bytes.1, bytes.2⟩

/-- A run without its surrogates. -/
def scalarRuns (run : Nat × Nat) : List (Nat × Nat) :=
  [(run.1, Nat.min run.2 (CharSet.surrogates.1 - 1)),
    (Nat.max run.1 (CharSet.surrogates.2 + 1), run.2)].filter fun part => part.1 ≤ part.2

/-- The sequences for all characters of a set, in order. -/
def sequences (set : CharSet) : List (List ByteRange) :=
  (set.runs.toList.flatMap scalarRuns).flatMap fun run => (cutAll run.1 run.2).map ofPart

end ByteRange

end Reroute.Regex
