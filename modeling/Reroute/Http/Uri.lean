/-
  Uris of request lines: `/path?query`, `scheme://authority/path?query`, `authority` and `*`.
  Reading checks characters and drops a fragment. A uri with a scheme has an authority, and one
  with a scheme and no path stands for the path `/`.
-/
import Reroute.Text.Blank
import Reroute.Text.Bytes

namespace Reroute.Http

open Reroute.Text

/-- Why a text is no uri. -/
inductive UriError
  | empty
  | tooLong
  | invalidChar
  | invalidAuthority
  | invalidFormat
  | schemeTooLong
deriving DecidableEq, Repr

def UriError.message : UriError → String
  | .empty => "empty string"
  | .tooLong => "uri too long"
  | .invalidChar => "invalid uri character"
  | .invalidAuthority => "invalid authority"
  | .invalidFormat => "invalid format"
  | .schemeTooLong => "scheme too long"

/-- A uri. Path and query are kept as they were written; texts are lists of characters. -/
structure Uri where
  scheme : Option (List Char) := none
  authority : Option (List Char) := none
  path : List Char := []
  query : Option (List Char) := none
deriving DecidableEq, Repr

namespace Uri

/-- The longest uri, in bytes. -/
def lengthLimit : Nat := 65534

/-- The longest scheme. -/
def schemeLimit : Nat := 64

/-! ### Characters -/

def isSchemeChar (c : Char) : Bool :=
  c.isAlphanum || c == '+' || c == '-' || c == '.' || c == '~'

/-- Characters of an authority beside those that structure it. -/
def isAuthorityChar (c : Char) : Bool :=
  c.isAlphanum ||
    ['!', '$', '&', '\'', '(', ')', '*', '+', ',', '-', '.', ';', '=', '_', '~'].contains c

/-- Characters of a path. Quotes and braces are let through unencoded. -/
def isPathChar (c : Char) : Bool :=
  let n := c.toNat
  n == 0x21 || n == 0x22 || (0x24 ≤ n && n ≤ 0x3B) || n == 0x3D || (0x40 ≤ n && n ≤ 0x5F) ||
    (0x61 ≤ n && n ≤ 0x7E)

def isQueryChar (c : Char) : Bool :=
  let n := c.toNat
  n == 0x21 || (0x24 ≤ n && n ≤ 0x3B) || n == 0x3D || (0x3F ≤ n && n ≤ 0x7E)

/-! ### Path and query -/

/-- Reads a query up to a fragment. -/
def readQuery : List Char → Except UriError (List Char)
  | [] => .ok []
  | c :: rest =>
    if c = '#' then .ok []
    else if isQueryChar c then (readQuery rest).map (c :: ·)
    else .error .invalidChar

/-- Reads a path, and a query behind a question mark. -/
def readTarget : List Char → Except UriError (List Char × Option (List Char))
  | [] => .ok ([], none)
  | c :: rest =>
    if c = '?' then (readQuery rest).map fun query => ([], some query)
    else if c = '#' then .ok ([], none)
    else if isPathChar c then (readTarget rest).map fun found => (c :: found.1, found.2)
    else .error .invalidChar

/-! ### Authority -/

/-- The most colons of an authority before a bracket closes or a user ends. -/
def colonLimit : Nat := 8

/-- What has been seen of an authority. Colons and percent signs of a user or of a bracketed
address do not count. -/
structure AuthorityScan where
  colons : Nat := 0
  opened : Bool := false
  closed : Bool := false
  percent : Bool := false
  /-- Whether the last character ended a user. -/
  afterUser : Bool := false

namespace AuthorityScan

/-- Takes one character of an authority. -/
def step (s : AuthorityScan) (c : Char) : Except UriError AuthorityScan :=
  if c = ':' then
    if colonLimit ≤ s.colons then .error .invalidAuthority
    else .ok { s with colons := s.colons + 1, afterUser := false }
  else if c = '[' then
    if s.percent || s.opened then .error .invalidAuthority
    else .ok { s with opened := true, afterUser := false }
  else if c = ']' then
    if !s.opened || s.closed then .error .invalidAuthority
    else .ok { s with closed := true, colons := 0, percent := false, afterUser := false }
  else if c = '@' then .ok { s with colons := 0, percent := false, afterUser := true }
  else if c = '%' then .ok { s with percent := true, afterUser := false }
  else if isAuthorityChar c then .ok { s with afterUser := false }
  else .error .invalidChar

/-- Whether an authority may end here. -/
def accepts (s : AuthorityScan) : Bool :=
  s.opened == s.closed && s.colons ≤ 1 && !s.afterUser && !s.percent

end AuthorityScan

def endsAuthority (c : Char) : Bool := c == '/' || c == '?' || c == '#'

/-- Takes the characters of an authority. -/
def scanAuthority : AuthorityScan → List Char → Except UriError AuthorityScan
  | s, [] => .ok s
  | s, c :: rest =>
    match s.step c with
    | .ok next => scanAuthority next rest
    | .error e => .error e

/-- Splits off an authority, which may be empty. -/
def readAuthority (cs : List Char) : Except UriError (List Char × List Char) :=
  let authority := cs.takeWhile fun c => !endsAuthority c
  match scanAuthority {} authority with
  | .error e => .error e
  | .ok s =>
    if s.accepts then .ok (authority, cs.dropWhile fun c => !endsAuthority c)
    else .error .invalidAuthority

/-! ### Whole uris -/

/-- The two schemes that are written in lower case whatever their case was. -/
def canonicalScheme (scheme : List Char) : List Char :=
  let lower := scheme.map Char.toLower
  if lower = "http".toList ∨ lower = "https".toList then lower else scheme

/-- Splits off a scheme, if there is one. -/
def readScheme (cs : List Char) : Except UriError (Option (List Char) × List Char) :=
  let scheme := cs.takeWhile isSchemeChar
  match cs.dropWhile isSchemeChar with
  | ':' :: '/' :: '/' :: rest =>
    if schemeLimit < scheme.length then .error .schemeTooLong
    else .ok (some (canonicalScheme scheme), rest)
  | _ => .ok (none, cs)

/-- Reads a uri that does not begin with a slash. -/
def readFull (cs : List Char) : Except UriError Uri := do
  let (scheme, rest) ← readScheme cs
  let (authority, rest) ← readAuthority rest
  if scheme.isNone then
    if rest.isEmpty then .ok { authority := some authority } else .error .invalidFormat
  else if authority.isEmpty then .error .invalidFormat
  else
    let (path, query) ← readTarget rest
    .ok { scheme, authority := some authority, path, query }

def readList (cs : List Char) : Except UriError Uri :=
  if lengthLimit < byteLength cs then .error .tooLong
  else
    match cs with
    | [] => .error .empty
    | ['*'] => .ok { path := ['*'] }
    | [c] =>
      if c = '/' then .ok { path := ['/'] }
      else if endsAuthority c then .error .invalidChar
      else readFull cs
    | '/' :: _ => (readTarget cs).map fun (path, query) => { path, query }
    | _ => readFull cs

/-- Reads a uri. -/
def read (text : String) : Except UriError Uri := readList text.toList

def writeScheme (u : Uri) : List Char :=
  match u.scheme with
  | none => []
  | some scheme => scheme ++ "://".toList

def writeQuery (u : Uri) : List Char :=
  match u.query with
  | none => []
  | some query => '?' :: query

/-- Whether the uri has a path, written or not. -/
def hasPath (u : Uri) : Bool := u.scheme.isSome || u.authority.isNone

/-- The path that the uri stands for. -/
def effectivePath (u : Uri) : List Char :=
  if u.path.isEmpty && u.hasPath then ['/'] else u.path

/-- The path that the uri stands for, with its query; nothing for an authority alone. -/
def target? (u : Uri) : Option (List Char) :=
  if u.hasPath then some (u.effectivePath ++ u.writeQuery) else none

def writeList (u : Uri) : List Char :=
  u.writeScheme ++ u.authority.getD [] ++ u.effectivePath ++ u.writeQuery

def write (u : Uri) : String := String.ofList u.writeList

def sameCaseless (a b : Option (List Char)) : Bool :=
  (a.map fun cs => cs.map Char.toLower) == (b.map fun cs => cs.map Char.toLower)

/-- Whether two uris are the same; the case of scheme and authority means nothing. -/
def same (a b : Uri) : Bool :=
  sameCaseless a.scheme b.scheme && sameCaseless a.authority b.authority &&
    a.effectivePath == b.effectivePath && a.query == b.query

def containsMark (cs : List Char) : Bool := (splitAtText? "://".toList cs).isSome

/-- The uri `after` with scheme and authority of `before` where it has none itself. A text that
is neither rooted nor absolute is rooted. -/
def join (before : Uri) (after : String) : Except UriError Uri := do
  let cs := after.toList
  let found ← readList (if cs.head? = some '/' || containsMark cs then cs else '/' :: cs)
  let scheme := found.scheme <|> before.scheme
  let authority := found.authority <|> before.authority
  readList (({ scheme } : Uri).writeScheme ++ authority.getD [] ++ (found.target?).getD ['/'])

example : (read "http://h?q").map write = .ok "http://h/?q" := by cbv
example : (read "a b").map write = .error .invalidChar := by cbv

end Uri

end Reroute.Http
