/-
  The rewriting service: rules in front of a handler of requests.
  A request that no rule answers goes on to the handler with the uri that the rules leave. Rules
  see the server name, if one is set, in place of the host of the request.
-/
import Reroute.Engine
import Reroute.Http.Forwarded

namespace Reroute

open Reroute.Http

/-- Why rules cannot be loaded, or a request not be answered. -/
inductive ServiceError
  | file (cause : FileError)
  | directives (cause : LineError)
  | rewriteSection (cause : SectionError)
  | build (cause : BuildError)
  | invalidStatus
  | invalidUri (cause : UriError)
deriving DecidableEq, Repr

def ServiceError.message : ServiceError → String
  | .file _ => "Internal Io Error"
  | .directives _ => "Invalid apache rewrite rules"
  | .rewriteSection _ => "Invalid iis rewrite rules"
  | .build _ => "Invalid rewrite rule"
  | .invalidStatus => "Rewrite returned invalid status code"
  | .invalidUri _ => "Rewrite generated an invalid uri"

/-- The status of a reply to a request that cannot be answered. -/
def ServiceError.status (_ : ServiceError) : Nat := 500

/-- What the rules make of an incoming request. -/
inductive Outcome
  | uri (uri : Uri)
  | redirect (reply : Reply)
  | response (reply : Reply)
  | abort (reply : Reply)
deriving DecidableEq, Repr

structure Service where
  engine : Engine := {}
  /-- Tables that hide those of rewrite sections loaded later. -/
  tables : LookupTables := .empty
  /-- What file tests are resolved against; without it they find nothing. -/
  documentRoot : Option DocumentRoot := none
  serverName : Option String := none
  listener : Listener := {}
deriving Repr

namespace Service

/-! ### Loading rules -/

def withEngine (s : Service) (engine : Engine) : Service := { s with engine }

def addDirectives (s : Service) (text : String) : Except ServiceError Service :=
  ((s.engine.addDirectives text).map s.withEngine).mapError .directives

def addSection (s : Service) (text : String) : Except ServiceError Service :=
  ((s.engine.addSection text s.tables).map s.withEngine).mapError .rewriteSection

def readFile (disk : Disk) (path : String) : Except ServiceError String :=
  (disk.read path).mapError .file

/-- Adds the rules of a file of directive lines. -/
def addDirectivesFile (s : Service) (disk : Disk) (path : String) :
    Except ServiceError Service := do
  let text ← readFile disk path
  s.addDirectives text

/-- Adds the rules of a file with a rewrite section. -/
def addSectionFile (s : Service) (disk : Disk) (path : String) : Except ServiceError Service := do
  let text ← readFile disk path
  s.addSection text

def addRewrite (s : Service) (pattern replacement : String) (stop : Bool) :
    Except ServiceError Service :=
  ((s.engine.addRewrite pattern replacement stop).map s.withEngine).mapError .build

def addRedirect (s : Service) (pattern replacement : String) (status : Nat) :
    Except ServiceError Service :=
  ((s.engine.addRedirect pattern replacement status).map s.withEngine).mapError .build

def addRedirectToHttps (s : Service) (status : Nat) : Except ServiceError Service :=
  ((s.engine.addRedirectToHttps status).map s.withEngine).mapError .build

/-! ### Requests -/

/-- The version of the protocol that is spoken. -/
def protocol : String := "HTTP/1.1"

/-- An incoming request as rules see it. Headers that are no ASCII text are left out. -/
def requestOf (s : Service) (r : Incoming) : Request :=
  let request : Request :=
    { Request.ofUrl (String.ofList (r.uri.target?.getD ['/'])) with
      givenScheme := some (r.clientScheme s.listener)
      givenHost := some (s.serverName.getD (r.clientHost s.listener))
      givenMethod := some r.method
      givenProtocol := some protocol
      remote := r.peer
      localEnd := some s.listener.address
      files := (s.documentRoot.map DocumentRoot.files).getD .none }
  (r.headers.filter fun header => isPlainValue header.2).foldl
    (fun request header => request.addHeader header.1 header.2) request

/-- Statuses that a reply may have. -/
def checkStatus (status : Nat) : Except ServiceError Unit :=
  if 100 ≤ status ∧ status < 1000 then .ok () else .error .invalidStatus

/-- The reply that a header value that cannot be sent leads to. -/
def unsendable : Reply := { status := 500, body := MessageError.headerValue.message }

def redirectReply (location : String) (status : Nat) : Reply :=
  if isHeaderValue location then { status, location := some location } else unsendable

/-- The reply to a request that is dropped. -/
def abortReply : Reply := { status := 400, close := true }

/-- What the rules make of a request. -/
def rewrite (s : Service) (r : Incoming) : Except ServiceError Outcome :=
  match s.engine.rewrite (s.requestOf r) with
  | .uri uri => ((r.uri.join uri).map .uri).mapError .invalidUri
  | .redirect location status =>
    (checkStatus status).map fun _ => .redirect (redirectReply location status)
  | .response status reason =>
    (checkStatus status).map fun _ => .response { status, body := reason.getD "" }
  | .abort => .ok (.abort abortReply)

/-- Answers a request, by a rule or by the handler. A uri that is the same stays as it is
written. -/
def serve (s : Service) (handler : Incoming → Reply) (r : Incoming) : Except ServiceError Reply :=
  (s.rewrite r).map fun outcome =>
    match outcome with
    | .uri uri => handler (if uri.same r.uri then r else { r with uri })
    | .redirect reply | .response reply | .abort reply => reply

end Service

end Reroute
