/-
  Server variables: the names that templates may use, and their values in a request.
  Names are compared without regard to ASCII case. An unknown name is refused when a template is
  read; a value that a request lacks is empty.
-/
import Reroute.Request

namespace Reroute

inductive Variable
  /-- A request header, by its name in lower case. -/
  | header (name : String)
  | queryString
  | requestUri
  | requestFilename
  | requestMethod
  | requestScheme
  | https
  | httpUrl
  | remoteAddress
  | remoteHost
  | remotePort
  | localAddress
  | serverName
  | serverPort
  | serverProtocol
  | theRequest
  | time (field : TimeField)
  | environment (name : String)
deriving DecidableEq, Repr

namespace Variable

open Reroute.Text

/-- Variables by their names in upper case. -/
def named : List (String × Variable) := [
  ("QUERY_STRING", .queryString),
  ("REQUEST_URI", .requestUri), ("PATH_INFO", .requestUri),
  ("REQUEST_FILENAME", .requestFilename), ("SCRIPT_FILENAME", .requestFilename),
  ("REQUEST_METHOD", .requestMethod), ("REQUEST_SCHEME", .requestScheme),
  ("HTTPS", .https), ("HTTP_URL", .httpUrl),
  ("REMOTE_ADDR", .remoteAddress), ("REMOTE_HOST", .remoteHost), ("REMOTE_PORT", .remotePort),
  ("LOCAL_ADDR", .localAddress), ("SERVER_ADDR", .localAddress),
  ("SERVER_NAME", .serverName), ("SERVER_PORT", .serverPort),
  ("SERVER_PROTOCOL", .serverProtocol), ("THE_REQUEST", .theRequest),
  ("TIME", .time .full), ("TIME_YEAR", .time .year),
  ("TIME_MON", .time .month), ("TIME_MONTH", .time .month),
  ("TIME_DAY", .time .day), ("TIME_HOUR", .time .hour), ("TIME_MIN", .time .minute),
  ("TIME_SEC", .time .second), ("TIME_WDAY", .time .weekday)]

/-- The variable with a key behind a colon: a header or an environment variable. -/
def ofKeyed? (family key : List Char) : Option Variable :=
  if key.isEmpty then none
  else
    match String.ofList (family.map Char.toUpper) with
    | "HTTP" => some (.header (String.ofList (key.map Char.toLower)))
    | "ENV" => some (.environment (String.ofList key))
    | _ => none

/-- The header whose name is written behind `HTTP_`, with underscores for hyphens. -/
def ofHeaderName? (upper : List Char) : Option Variable :=
  match upper with
  | 'H' :: 'T' :: 'T' :: 'P' :: '_' :: name =>
    if name.isEmpty then none
    else
      some (.header (String.ofList (name.map fun c => if c = '_' then '-' else c.toLower)))
  | _ => none

/-- The variable that a name stands for. -/
def ofName? (name : String) : Option Variable :=
  match splitFirst? (· == ':') name.toList with
  | some (family, key) => ofKeyed? family key
  | none =>
    let upper := name.toList.map Char.toUpper
    named.lookup (String.ofList upper) <|> ofHeaderName? upper

/-- The value of a variable in a request. -/
def value (r : Request) : Variable → String
  | .header name => (r.header? name).getD ""
  | .queryString => r.query
  | .requestUri | .requestFilename => r.path
  | .requestMethod => r.method
  | .requestScheme => r.scheme
  | .https => if sameAsciiCase r.scheme "https" then "on" else "off"
  | .httpUrl => r.pathAndQuery
  | .remoteAddress | .remoteHost => (r.remote.map fun a => a.ip.write).getD ""
  | .remotePort => (r.remote.map fun a => toString a.port).getD ""
  | .localAddress => (r.localEnd.map fun a => a.ip.write).getD ""
  | .serverName => r.host
  | .serverPort => (r.localEnd.map fun a => toString a.port).getD ""
  | .serverProtocol => r.protocol
  | .theRequest => r.method ++ " " ++ r.pathAndQuery ++ " " ++ r.protocol
  | .time field => r.clock.write field
  | .environment name => r.environmentValue name

end Variable

end Reroute
