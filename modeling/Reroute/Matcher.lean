/-
  Matchers: tests of a candidate text that may be negated.
  Only a regular expression that is not negated captures groups. A search whose budget is used
  up fails, negated or not, and so does a test of a file that cannot be looked at. What a search
  takes is told by whoever runs it (`Test.after`), in the unit that budgets are counted in.
-/
import Reroute.BuildError
import Reroute.Comparison
import Reroute.Files

namespace Reroute

/-- What a matcher tests. -/
inductive Test
  /-- A search, with its budget. -/
  | regex (regex : Regex) (budget : Nat)
  | exact (value : String) (ignoreCase : Bool)
  | isFile
  | isDirectory
  | compare (op : Comparison) (operand : String) (ignoreCase : Bool)
deriving Repr

/-- The test with what is left of its budget when its search takes `took`. -/
def Test.after (took : Nat) : Test → Test
  | .regex r budget => .regex r (budget - took)
  | test => test

/-- The outcome of a match. -/
structure MatchResult where
  success : Bool
  groups : List String := []
  timedOut : Bool := false
deriving DecidableEq, Repr

structure Matcher where
  test : Test
  negate : Bool := false
deriving Repr

namespace Matcher

/-- A matcher for a regular expression. -/
def regex (pattern : String) (ignoreCase negate : Bool) (budget : Nat) :
    Except BuildError Matcher :=
  match Regex.compile pattern ignoreCase with
  | .ok r => .ok ⟨.regex r budget, negate⟩
  | .error e => .error (.invalidRegex pattern e)

def exact (value : String) (ignoreCase negate : Bool) : Matcher := ⟨.exact value ignoreCase, negate⟩

def compare (op : Comparison) (operand : String) (ignoreCase negate : Bool) : Matcher :=
  ⟨.compare op operand ignoreCase, negate⟩

/-- The number of groups that the matcher answers for. Gaps in their numbers are not counted, so a
successful match may have more. -/
def captureCount (m : Matcher) : Nat :=
  match m.test with
  | .regex r _ => if m.negate then 0 else r.captures
  | _ => 0

/-- The outcome of a test that captures nothing. -/
def plain (m : Matcher) (holds : Bool) : MatchResult := ⟨holds != m.negate, [], false⟩

/-- The outcome of a search, given what it leaves of its budget. -/
def searchResult (m : Matcher) (r : Regex) (budget : Nat) (candidate : String) : MatchResult :=
  if budget = 0 then ⟨false, [], true⟩
  else
    match r.search candidate with
    | none => ⟨m.negate, [], false⟩
    | some groups => if m.negate then ⟨false, [], false⟩ else ⟨true, groups, false⟩

def fileResult (m : Matcher) (answer : Except FileError Bool) : MatchResult :=
  match answer with
  | .ok found => m.plain found
  | .error _ => ⟨false, [], false⟩

/-- Tests a candidate. -/
def run (m : Matcher) (candidate : String) (files : Files) : MatchResult :=
  match m.test with
  | .regex r budget => m.searchResult r budget candidate
  | .exact value ignoreCase =>
    m.plain (if ignoreCase then Text.sameFolded candidate value else candidate == value)
  | .isFile => m.fileResult (files.isFile candidate)
  | .isDirectory => m.fileResult (files.isDirectory candidate)
  | .compare op operand ignoreCase => m.plain (op.compare candidate operand ignoreCase)

end Matcher

end Reroute
