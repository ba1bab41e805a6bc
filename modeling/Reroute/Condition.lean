/-
  Conditions that guard a rule.
  A condition that is joined with the next one by "or" belongs to its chain; a list holds when
  every chain has a member that succeeds. Conditions that can no longer matter are skipped,
  unless the groups of all conditions are kept.
-/
import Reroute.Matcher
import Reroute.Template.Expand

namespace Reroute

/-- How the conditions of a rule are joined. -/
inductive Grouping
  | matchAll
  | matchAny
deriving DecidableEq, Repr, Inhabited

def Grouping.ofText (text : String) : Except UnknownValue Grouping :=
  keyword [("matchall", .matchAll), ("matchany", .matchAny)] text

structure Condition where
  input : Template
  matcher : Matcher
  /-- Whether the condition is joined with the next one by "or". -/
  orNext : Bool := false
deriving Repr

/-- Expands the input and tests it. -/
def Condition.run (c : Condition) (request : Request) (captures : Captures) (isGlobal : Bool) :
    Except OutOfRange MatchResult :=
  (Template.expand ⟨request, captures, isGlobal, false⟩ c.input).map fun candidate =>
    c.matcher.run candidate request.files

structure Conditions where
  items : List Condition := []
  grouping : Grouping := .matchAll
  /-- Whether the groups of all conditions are kept, and not those of the last one only. -/
  trackAll : Bool := false
deriving Repr

namespace Conditions

def push (cs : Conditions) (c : Condition) : Conditions := { cs with items := cs.items ++ [c] }

/-- The number of groups that the conditions can leave at most. -/
def captureCount (cs : Conditions) : Nat :=
  let counts := cs.items.map fun c => c.matcher.captureCount
  if cs.trackAll then counts.foldl (fun total n => total + n) 0
  else counts.foldl (fun most n => max most n) 0

/-- Where the evaluation stands before a condition. -/
structure Progress where
  /-- False once a chain has failed. -/
  outcome : Bool := true
  /-- Whether the condition before is joined with this one by "or". -/
  isOpen : Bool := false
  /-- Whether a member of the open chain has succeeded. -/
  chainOk : Bool := false
deriving DecidableEq, Repr

namespace Progress

/-- Whether the next condition can no longer change the outcome. -/
def decided (p : Progress) : Bool := !p.outcome || (p.isOpen && p.chainOk)

/-- Passes a condition whose outcome does not count. -/
def pass (p : Progress) (orNext : Bool) : Progress :=
  { p with isOpen := orNext, chainOk := orNext && p.chainOk }

/-- Passes a condition whose outcome counts. -/
def count (p : Progress) (orNext ok : Bool) : Progress :=
  { outcome := p.outcome && (orNext || ok), isOpen := orNext, chainOk := orNext && ok }

/-- The outcome at the end of the list. -/
def verdict (p : Progress) : Bool := p.outcome && !(p.isOpen && !p.chainOk)

end Progress

/-- Evaluates conditions from the left. The captures are those left, also by a failure. -/
def runItems (request : Request) (isGlobal trackAll : Bool) :
    List Condition → Progress → Captures → Except OutOfRange Bool × Captures
  | [], p, captures => (.ok p.verdict, captures)
  | c :: rest, p, captures =>
    if p.decided && !trackAll then
      runItems request isGlobal trackAll rest (p.pass c.orNext) captures
    else
      match c.run request captures isGlobal with
      | .error e => (.error e, captures)
      | .ok result =>
        let captures :=
          if result.success then captures.recordCondition result.groups trackAll else captures
        if p.decided then runItems request isGlobal trackAll rest (p.pass c.orNext) captures
        else if !c.orNext && !result.success && !trackAll then (.ok false, captures)
        else
          runItems request isGlobal trackAll rest (p.count c.orNext result.success) captures

/-- Evaluates all conditions for a request, with the groups captured so far. -/
def run (cs : Conditions) (request : Request) (captures : Captures) (isGlobal : Bool) :
    Except OutOfRange Bool × Captures :=
  runItems request isGlobal cs.trackAll cs.items {} captures

end Conditions

end Reroute
