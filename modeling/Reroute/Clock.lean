/-
  The time of a request, and its parts as text.
-/
namespace Reroute

/-- Parts of a time that rules may ask for. -/
inductive TimeField
  | full
  | year
  | month
  | day
  | hour
  | minute
  | second
  | weekday
deriving DecidableEq, Repr

structure Moment where
  year : Nat := 1970
  month : Nat := 1
  day : Nat := 1
  hour : Nat := 0
  minute : Nat := 0
  second : Nat := 0
  /-- Days since Sunday. -/
  weekday : Nat := 4
deriving DecidableEq, Repr

namespace Moment

/-- A number with zeros in front, `width` digits at least. -/
def padded (width n : Nat) : String :=
  let digits := toString n
  String.ofList (List.replicate (width - digits.length) '0') ++ digits

def write (m : Moment) : TimeField → String
  | .full =>
    padded 4 m.year ++ padded 2 m.month ++ padded 2 m.day ++ padded 2 m.hour ++
      padded 2 m.minute ++ padded 2 m.second
  | .year => padded 4 m.year
  | .month => padded 2 m.month
  | .day => padded 2 m.day
  | .hour => padded 2 m.hour
  | .minute => padded 2 m.minute
  | .second => padded 2 m.second
  | .weekday => toString m.weekday

end Moment

end Reroute
