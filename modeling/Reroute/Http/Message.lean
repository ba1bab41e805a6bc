/-
  Requests as they arrive, and the replies to them.
  Header names are kept in lower case and in the order of arrival; a name may occur again.
-/
import Reroute.Address
import Reroute.Http.Uri
import Reroute.Text.Percent

namespace Reroute.Http

open Reroute.Text

/-- Why a request cannot be made from its parts. -/
inductive MessageError
  | uri (cause : UriError)
  | method
  | headerName
  | headerValue
  | peer
deriving DecidableEq, Repr

def MessageError.message : MessageError → String
  | .uri cause => cause.message
  | .method => "invalid HTTP method"
  | .headerName => "invalid HTTP header name"
  | .headerValue => "failed to parse header value"
  | .peer => "invalid socket address syntax"

/-- Characters of methods and header names. -/
def isTokenChar (c : Char) : Bool :=
  c.isAlphanum ||
    ['!', '#', '$', '%', '&', '\'', '*', '+', '-', '.', '^', '_', '\x60', '|', '~'].contains c

def isToken (s : String) : Bool := !s.isEmpty && s.toList.all isTokenChar

/-- The longest header name. -/
def headerNameLimit : Nat := 65535

def isHeaderName (s : String) : Bool := isToken s && s.length ≤ headerNameLimit

/-- Whether a text may stand as a header value: no control but the tab. -/
def isHeaderValue (s : String) : Bool :=
  s.toList.all fun c => c == '\t' || (0x20 ≤ c.toNat && c.toNat != 0x7F)

/-- Whether a header value is ASCII, and so can be read as text. -/
def isPlainValue (s : String) : Bool :=
  s.toList.all fun c => c == '\t' || (0x20 ≤ c.toNat && c.toNat < 0x7F)

/-- A request as it arrives. -/
structure Incoming where
  method : String := "GET"
  uri : Uri
  headers : List (String × String) := []
  peer : Option SocketAddress := none
deriving DecidableEq, Repr

namespace Incoming

def readHeader (header : String × String) : Except MessageError (String × String) :=
  if !isHeaderName header.1 then .error .headerName
  else if !isHeaderValue header.2 then .error .headerValue
  else .ok (asciiLower header.1, header.2)

def readPeer (peer : Option String) : Except MessageError (Option SocketAddress) :=
  match peer with
  | none => .ok none
  | some text =>
    match SocketAddress.read? text with
    | some address => .ok (some address)
    | none => .error .peer

/-- A request from the texts of its parts. -/
def read (method uri : String) (headers : List (String × String)) (peer : Option String) :
    Except MessageError Incoming := do
  let uri ← (Uri.read uri).mapError .uri
  if !isToken method then .error .method
  else
    let headers ← headers.mapM readHeader
    let peer ← readPeer peer
    .ok { method, uri, headers, peer }

/-- The first value of a header, unless it is no ASCII text. -/
def header? (r : Incoming) (name : String) : Option String :=
  match r.headers.lookup name with
  | some value => if isPlainValue value then some value else none
  | none => none

/-- All values of a header that are ASCII texts. -/
def headerValues (r : Incoming) (name : String) : List String :=
  (r.headers.filter fun header => header.1 == name && isPlainValue header.2).map (·.2)

/-- Bytes that stay encoded in the path that requests are routed by. -/
def staysEncoded (b : UInt8) : Bool := b == 0x25 || b == 0x2F || b == 0x2B

/-- The path that the request is routed by: percent-decoded, but for what would change its
structure. -/
def routePath (r : Incoming) : String :=
  String.ofList (percentDecodeExcept staysEncoded r.uri.effectivePath)

end Incoming

/-- A reply. -/
structure Reply where
  status : Nat
  location : Option String := none
  /-- Whether the connection ends with it. -/
  close : Bool := false
  body : String := ""
deriving DecidableEq, Repr

end Reroute.Http
