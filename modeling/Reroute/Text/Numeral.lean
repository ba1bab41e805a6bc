/-
  Decimal numerals of bounded numbers.
  A plus sign may stand in front. Digits are read from the left, so of two faults the one
  further left is reported.
-/
namespace Reroute.Text

/-- Why a text is not a numeral. -/
inductive NumeralError
  | empty
  | invalidDigit
  | tooLarge
deriving DecidableEq, Repr

def NumeralError.message : NumeralError → String
  | .empty => "cannot parse integer from empty string"
  | .invalidDigit => "invalid digit found in string"
  | .tooLarge => "number too large to fit in target type"

/-- Reads on from the value `acc` of the digits so far. -/
def readDigits (bound acc : Nat) : List Char → Except NumeralError Nat
  | [] => .ok acc
  | c :: rest =>
    if !c.isDigit then .error .invalidDigit
    else
      let value := acc * 10 + (c.toNat - '0'.toNat)
      if bound < value then .error .tooLarge else readDigits bound value rest

/-- The number, at most `bound`, that a text writes. -/
def readNat (bound : Nat) (s : String) : Except NumeralError Nat :=
  match s.toList with
  | [] => .error .empty
  | ['+'] => .error .invalidDigit
  | '+' :: rest => readDigits bound 0 rest
  | digits => readDigits bound 0 digits

/-- The integer of 64 bits that a text writes, with a sign or without. -/
def readInt64? (s : String) : Option Int :=
  match s.toList with
  | [] | ['+'] | ['-'] => none
  | '-' :: rest => (readDigits (Nat.pow 2 63) 0 rest).toOption.map fun n => -(n : Int)
  | '+' :: rest => (readDigits (Nat.pow 2 63 - 1) 0 rest).toOption.map fun n => (n : Int)
  | digits => (readDigits (Nat.pow 2 63 - 1) 0 digits).toOption.map fun n => (n : Int)

example : readNat 65535 "99999x" = .error .tooLarge := by cbv
example : readNat 65535 "-1" = .error .invalidDigit := by cbv

end Reroute.Text
