/-
  Values that are written as keywords: spellings are compared in lower case.
-/
import Reroute.Text.CaseMap
import Reroute.Text.Quoted

namespace Reroute

/-- A text that none of the known keywords spells. -/
structure UnknownValue where
  text : String
deriving DecidableEq, Repr

def UnknownValue.message (e : UnknownValue) : String :=
  "Unrecognized value " ++ Text.quoted e.text

/-- The value that a keyword stands for; the table lists spellings in lower case. -/
def keyword {α : Type} (table : List (String × α)) (text : String) : Except UnknownValue α :=
  match table.lookup (Text.lower text) with
  | some value => .ok value
  | none => .error ⟨text⟩

end Reroute
