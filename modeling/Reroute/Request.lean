/-
  Requests as rules see and change them: the url as it came and as it stands, what else is known
  of the request, and the answer once a rule has given one.
-/
import Reroute.Address
import Reroute.CaselessMap
import Reroute.Clock
import Reroute.Files
import Reroute.Text.Quoted
import Reroute.Url

namespace Reroute

/-- An answer that ends the request. -/
inductive Resolution
  | redirect (status : Nat) (location : String)
  | response (status : Nat) (reason : Option String)
  | abort
deriving DecidableEq, Repr

structure Request where
  path : String
  query : String
  initialPath : String
  initialQuery : String
  givenScheme : Option String := none
  givenHost : Option String := none
  givenMethod : Option String := none
  givenProtocol : Option String := none
  headers : CaselessMap String := {}
  remote : Option SocketAddress := none
  localEnd : Option SocketAddress := none
  files : Files := .none
  environment : List (String × String) := []
  clock : Moment := {}
  resolution : Option Resolution := none

namespace Request

/-- A request for a path with a query. -/
def ofUrl (url : String) : Request :=
  let (path, query) := Url.splitQuery url
  { path, query, initialPath := path, initialQuery := query }

def scheme (r : Request) : String := r.givenScheme.getD "http"

def host (r : Request) : String := r.givenHost.getD "localhost"

def method (r : Request) : String := r.givenMethod.getD ""

def protocol (r : Request) : String := r.givenProtocol.getD ""

/-- Adds a header in place of one of the same name. -/
def addHeader (r : Request) (name value : String) : Request :=
  { r with headers := r.headers.insert name value }

/-- The value of a header. A host that was set on its own stands for the header too. -/
def header? (r : Request) (name : String) : Option String :=
  if Text.sameAsciiCase name "host" && r.givenHost.isSome then r.givenHost
  else r.headers.find? name

/-- The value of an environment variable; the last of one name counts. -/
def environmentValue (r : Request) (name : String) : String :=
  (r.environment.reverse.lookup name).getD ""

def pathAndQuery (r : Request) : String := Url.joinQuery r.path r.query

/-- The request as it came, as an absolute url. -/
def fullUrl (r : Request) : String :=
  Url.joinQuery (r.scheme ++ "://" ++ r.host ++ r.initialPath) r.initialQuery

/-- Whether the path or the query is another than at first. -/
def isRewritten (r : Request) : Bool :=
  r.path != r.initialPath || r.query != r.initialQuery

def withTarget (r : Request) (path query : String) : Request := { r with path, query }

def withOrigin (r : Request) (scheme host : String) : Request :=
  { r with givenScheme := some scheme, givenHost := some host }

def resolve (r : Request) (resolution : Resolution) : Request :=
  { r with resolution := some resolution }

/-- An optional text as diagnostics show it. -/
def describeOption (t : Option String) : String :=
  match t with
  | none => "None"
  | some s => "Some(" ++ Text.quoted s ++ ")"

def describeResolution : Resolution → String
  | .redirect status location =>
    "Redirect \x7b status: " ++ toString status ++ ", location: " ++ Text.quoted location ++ " \x7d"
  | .response status reason =>
    "Response \x7b status: " ++ toString status ++ ", reason: " ++ describeOption reason ++ " \x7d"
  | .abort => "Abort"

/-- The request as diagnostics show it. -/
def describe (r : Request) : String :=
  "RequestContext \x7b path: " ++ Text.quoted r.path ++ ", query: " ++ Text.quoted r.query ++
    ", original_path: " ++ Text.quoted r.initialPath ++
    ", original_query: " ++ Text.quoted r.initialQuery ++
    ", host: " ++ describeOption r.givenHost ++
    ", resolution: " ++
    (match r.resolution with
      | none => "None"
      | some x => "Some(" ++ describeResolution x ++ ")") ++
    ", .. \x7d"

end Request

end Reroute
