/-
  Scheme and host of a request behind proxies.
  The header `Forwarded` counts first, then the older headers for one part each, then the
  request itself. Of several values the first counts.
-/
import Reroute.Http.Message
import Reroute.Text.CaseMap

namespace Reroute.Http

open Reroute.Text

/-- The address that a server listens at. -/
structure Listener where
  host : String := "localhost:8080"
  address : SocketAddress := ⟨.v4 [127, 0, 0, 1], 8080, 0⟩
  secure : Bool := false
deriving DecidableEq, Repr

namespace Forwarded

/-- A value without the blanks and then the quotes around it. -/
def unquote (cs : List Char) : List Char :=
  ((((trimList cs).dropWhile (· == '"')).reverse).dropWhile (· == '"')).reverse

/-- A name and a value on the two sides of the first equals sign. -/
def readPair? (cs : List Char) : Option (String × String) :=
  (splitFirst? (· == '=') (trimList cs)).map fun pair =>
    (lower (trim (String.ofList pair.1)), String.ofList (unquote pair.2))

/-- The pairs of a header value, of all hops. -/
def pairs (value : String) : List (String × String) :=
  ((splitAll ';' value.toList).flatMap (splitAll ',')).filterMap readPair?

/-- The first value that the header gives to a name. -/
def parameter? (r : Incoming) (name : String) : Option String :=
  ((r.headerValues "forwarded").flatMap pairs).lookup name

/-- The first of the values that a header lists. -/
def firstListed? (r : Incoming) (name : String) : Option String :=
  (r.header? name).map fun value => trim (String.ofList (value.toList.takeWhile (· != ',')))

end Forwarded

namespace Incoming

/-- The scheme that the request was made with. -/
def clientScheme (r : Incoming) (listener : Listener) : String :=
  (Forwarded.parameter? r "proto" <|> Forwarded.firstListed? r "x-forwarded-proto" <|>
    r.uri.scheme.map String.ofList).getD (if listener.secure then "https" else "http")

/-- The host that the request was made to. -/
def clientHost (r : Incoming) (listener : Listener) : String :=
  (Forwarded.parameter? r "host" <|> Forwarded.firstListed? r "x-forwarded-host" <|>
    r.header? "host" <|> r.uri.authority.map String.ofList).getD listener.host

end Incoming

end Reroute.Http
