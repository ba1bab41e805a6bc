/-
  Comparisons of a candidate with an operand: by the order of texts, or as integers.
  An integer comparison with a side that is no integer of 64 bits fails.
-/
import Reroute.Keyword
import Reroute.Text.Blank
import Reroute.Text.Numeral

namespace Reroute

inductive Comparison
  | precedes
  | follows
  | precedesOrEquals
  | followsOrEquals
  | equal
  | notEqual
  | greaterThan
  | greaterOrEqual
  | lesserThan
  | lesserOrEqual
deriving DecidableEq, Repr

namespace Comparison

/-- Operators as they are written; their case matters. -/
def operators : List (String × Comparison) := [
  ("<", .precedes), (">", .follows), ("<=", .precedesOrEquals), (">=", .followsOrEquals),
  ("-eq", .equal), ("-ne", .notEqual), ("-gt", .greaterThan), ("-ge", .greaterOrEqual),
  ("-lt", .lesserThan), ("-le", .lesserOrEqual)]

def ofText (text : String) : Except UnknownValue Comparison :=
  match operators.lookup text with
  | some op => .ok op
  | none => .error ⟨text⟩

/-- Whether the operator compares texts. -/
def isLexical : Comparison → Bool
  | .precedes | .follows | .precedesOrEquals | .followsOrEquals => true
  | _ => false

/-- Whether an order between two things is the one that the operator asks for. -/
def accepts (op : Comparison) (order : Ordering) : Bool :=
  match op with
  | .precedes | .lesserThan => order == .lt
  | .follows | .greaterThan => order == .gt
  | .precedesOrEquals | .lesserOrEqual => order != .gt
  | .followsOrEquals | .greaterOrEqual => order != .lt
  | .equal => order == .eq
  | .notEqual => order != .eq

/-- The order of two texts by code points. -/
def textOrder (a b : String) : Ordering := compareOfLessAndEq a b

def integer? (s : String) : Option Int := Text.readInt64? (Text.trim s)

/-- Compares two texts; case can be ignored where texts are compared as such. -/
def compare (op : Comparison) (first second : String) (ignoreCase : Bool) : Bool :=
  if op.isLexical then
    op.accepts (if ignoreCase then textOrder (Text.lower first) (Text.lower second)
      else textOrder first second)
  else
    match integer? first, integer? second with
    | some a, some b => op.accepts (compareOfLessAndEq a b)
    | _, _ => false

end Comparison

end Reroute
