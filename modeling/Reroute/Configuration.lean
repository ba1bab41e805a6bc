/-
  Configurations: where a server listens, what it serves, and the rules in front of it.
  Every setting may be left out. Unknown settings mean nothing; one of the wrong kind makes the
  whole configuration bad.
-/
import Reroute.Toml.Document
import Reroute.Yaml.Document

namespace Reroute

/-- A lookup table as it is configured. -/
structure TableSettings where
  fallback : Option String := none
  entries : List (String × String) := []
deriving DecidableEq, Repr

structure RewriteSettings where
  /-- Directive lines. -/
  rules : Option String := none
  /-- Files of directive lines. -/
  directiveFiles : Option (List String) := none
  /-- Files with rewrite sections. -/
  sectionFiles : Option (List String) := none
  /-- Tables that hide those of rewrite sections. -/
  tables : Option (List (String × TableSettings)) := none
  serverName : Option String := none
  /-- The budget of one search, in milliseconds. -/
  matchTimeout : Option Nat := none
deriving DecidableEq, Repr

structure NetworkSettings where
  host : Option String := none
  port : Option Nat := none
deriving DecidableEq, Repr

structure SiteSettings where
  path : Option String := none
  remotePath : Option String := none
  index : Option String := none
deriving DecidableEq, Repr

structure Configuration where
  network : Option NetworkSettings := none
  site : Option SiteSettings := none
  rewrite : Option RewriteSettings := none
deriving DecidableEq, Repr

namespace Configuration

open Setting

/-- The largest port. -/
def portLimit : Nat := 65535

/-- The largest budget of a search. -/
def timeoutLimit : Nat := Nat.pow 2 64 - 1

def readTexts (s : Setting) : Reading (List String) := do
  let items ← s.asList
  items.mapM asText

def readNetwork (s : Setting) : Reading NetworkSettings := do
  let fields ← s.asRecord ["host", "port"] 2
  let host ← field? fields "host" asText
  let port ← field? fields "port" (asNumber portLimit)
  pure { host, port }

def readSite (s : Setting) : Reading SiteSettings := do
  let fields ← s.asRecord ["path", "remote_path", "index"] 3
  let path ← field? fields "path" asText
  let remotePath ← field? fields "remote_path" asText
  let index ← field? fields "index" asText
  pure { path, remotePath, index }

/-- Reads the entries of a table. They may be missing, but not be left out. -/
def readEntries (fields : List (String × Setting)) : Reading (List (String × String)) :=
  match fields.filter fun entry => entry.1 == "entries" with
  | [] => pure []
  | [entry] => asTable asText entry.2
  | _ => failure

def readTable (s : Setting) : Reading TableSettings := do
  let fields ← s.asRecord ["default_value", "entries"] 1
  let fallback ← field? fields "default_value" asText
  let entries ← readEntries fields
  pure { fallback, entries }

/-- The names of the rewrite settings, in their order. -/
def rewriteNames : List String :=
  ["rules", "apache", "iis", "maps", "server_name", "match_timeout_ms"]

def readRewrite (s : Setting) : Reading RewriteSettings := do
  let fields ← s.asRecord rewriteNames rewriteNames.length
  let rules ← field? fields "rules" asText
  let directiveFiles ← field? fields "apache" readTexts
  let sectionFiles ← field? fields "iis" readTexts
  let tables ← field? fields "maps" (asTable readTable)
  let serverName ← field? fields "server_name" asText
  let matchTimeout ← field? fields "match_timeout_ms" (asNumber timeoutLimit)
  pure { rules, directiveFiles, sectionFiles, tables, serverName, matchTimeout }

/-- Reads a whole configuration. -/
def readAll (s : Setting) : Reading Configuration := do
  let fields ← s.asFields
  let network ← field? fields "network" readNetwork
  let site ← field? fields "site" readSite
  let rewrite ← field? fields "rewrite" readRewrite
  pure { network, site, rewrite }

/-- The formats of configuration texts. -/
inductive Format
  | yaml
  | toml
deriving DecidableEq, Repr

/-- The part behind the last dot of a file name, unless that dot is the first character. -/
def extension? (name : List Char) : Option (List Char) :=
  if name = ['.', '.'] then none
  else
    (Text.splitFirst? (· == '.') name.reverse).bind fun (ending, before) =>
      if before.isEmpty then none else some ending.reverse

/-- The last name of a path, if it names an entry of a directory. -/
def fileName? (path : String) : Option (List Char) :=
  let names := (Text.splitAll '/' path.toList).filter fun name => !(name == [] || name == ['.'])
  names.getLast?.filter (· != ['.', '.'])

/-- The format of a file, by its extension. -/
def Format.ofPath (path : String) : Format :=
  match (fileName? path).bind extension? with
  | some ending => if ending.map Char.toLower = "toml".toList then .toml else .yaml
  | none => .yaml

/-- Reads a configuration. -/
def read (text : String) (format : Format) : Option Configuration :=
  (match format with
    | .yaml => Yaml.read text
    | .toml => (Toml.read text).map fun root => { root }).bind fun s => s.read? readAll

end Configuration

end Reroute
