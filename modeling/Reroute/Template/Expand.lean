/-
  Expanding a template in a request.
  In escaping mode the texts of groups are percent-encoded; nothing else is.
-/
import Reroute.Template

namespace Reroute

/-- What a template is expanded in. -/
structure Scene where
  request : Request
  captures : Captures := {}
  /-- Global rules see the request as it came. -/
  isGlobal : Bool := false
  escape : Bool := false

namespace Scene

def currentUrl (s : Scene) : String := if s.isGlobal then s.request.fullUrl else s.request.path

/-- The text of a group, encoded if groups are to be. -/
def group (s : Scene) (reference : Reference) : Except OutOfRange String :=
  (reference.resolve s.captures).map fun text =>
    if s.escape then Text.percentEncode text else text

end Scene

namespace Template

mutual

def expandSegment (s : Scene) : Segment → Except OutOfRange String
  | .literal text => .ok text
  | .ruleGroup n => s.group (.rule n)
  | .conditionGroup n => s.group (.condition n)
  | .server name => .ok (name.value s.request)
  | .currentUrl => .ok s.currentUrl
  | .function f inner => (expand s inner).map f.apply
  | .lookup table inner => (expand s inner).map table.lookup

/-- The text of a template, or the first group it lacks. -/
def expand (s : Scene) : List Segment → Except OutOfRange String
  | [] => .ok ""
  | segment :: rest =>
    match expandSegment s segment with
    | .error e => .error e
    | .ok text => (expand s rest).map fun more => text ++ more

end

end Template

end Reroute
