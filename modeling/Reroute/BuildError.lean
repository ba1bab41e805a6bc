/-
  Why a rule cannot be built from its parts.
-/
import Reroute.Regex
import Reroute.Template

namespace Reroute

inductive BuildError
  | noMatch
  | noAction
  /-- Wildcard patterns are known but not supported. -/
  | wildcard
  | invalidRegex (pattern : String) (reason : Regex.CompileError)
  | missingPattern
  | invalidStatus (status : Nat)
  | reference (group : Reference) (available : Nat)
  | template (cause : TemplateError)
deriving DecidableEq, Repr

namespace BuildError

def message : BuildError → String
  | .noMatch => "Cannot build a rule without a match"
  | .noAction => "Cannot build a rule without an action"
  | .wildcard => "Wildcard syntax is not supported"
  | .invalidRegex pattern reason =>
    "Invalid regex " ++ Text.quoted pattern ++ ": " ++ reason.message
  | .missingPattern => "Match does not have an associated pattern"
  | .invalidStatus status => "Redirect status " ++ toString status ++ " is not a 3xx code"
  | .reference group available =>
    "Back-reference " ++ group.write ++ " exceeds the " ++ toString available ++
      " groups that can be captured"
  | .template e => "Invalid rewrite template: " ++ e.message

/-- Whether the rule asks for a feature that is known and refused. -/
def isUnsupported : BuildError → Bool
  | .wildcard => true
  | _ => false

end BuildError

end Reroute
