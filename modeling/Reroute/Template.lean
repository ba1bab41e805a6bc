/-
  Templates: texts with places for captured groups, server variables, the url of the request,
  functions and lookups. The references of a template are its groups in reading order.
-/
import Reroute.Captures
import Reroute.Keyword
import Reroute.LookupTable
import Reroute.Text.Percent
import Reroute.Variable

namespace Reroute

/-- Functions on the text of an inner template. -/
inductive TextFunction
  | toLower
  | urlEncode
  | urlDecode
deriving DecidableEq, Repr

namespace TextFunction

def keywords : List (String × TextFunction) :=
  [("tolower", .toLower), ("urlencode", .urlEncode), ("urldecode", .urlDecode)]

def ofText (text : String) : Except UnknownValue TextFunction := keyword keywords text

def apply : TextFunction → String → String
  | .toLower => Text.lower
  | .urlEncode => Text.percentEncode
  | .urlDecode => Text.percentDecode

end TextFunction

inductive Segment
  | literal (text : String)
  | ruleGroup (index : Nat)
  | conditionGroup (index : Nat)
  | server (name : Variable)
  /-- The current path, or for a global rule the url of the request as it came. -/
  | currentUrl
  | function (f : TextFunction) (inner : List Segment)
  | lookup (table : LookupTable) (inner : List Segment)
deriving Repr

abbrev Template := List Segment

/-- Why a text is no template. -/
inductive TemplateError
  /-- A placeholder is open at the end of the text; `offset` counts bytes. -/
  | unclosedPlaceholder (offset : Nat)
  | invalidReference (text : String)
  | unknownVariable (name : String)
  | unknownFunction (name : String)
deriving DecidableEq, Repr

def TemplateError.message : TemplateError → String
  | .unclosedPlaceholder offset =>
    "Placeholder starting at byte " ++ toString offset ++ " is never closed"
  | .invalidReference text => "Invalid back-reference " ++ Text.quoted text
  | .unknownVariable name => "Unknown server variable " ++ Text.quoted name
  | .unknownFunction name => "Unknown function or rewrite map " ++ Text.quoted name

/-- A group that a template refers to. -/
inductive Reference
  | rule (index : Nat)
  | condition (index : Nat)
deriving DecidableEq, Repr

namespace Reference

def write : Reference → String
  | .rule n => "\x7bR:" ++ toString n ++ "\x7d"
  | .condition n => "\x7bC:" ++ toString n ++ "\x7d"

/-- The group that a reference stands for. -/
def resolve (c : Captures) : Reference → Except OutOfRange String
  | .rule n => c.rule.get n
  | .condition n => c.conditions.get n

end Reference

/-- The server variable with a name, or the refusal of the name. -/
def Variable.ofName (name : String) : Except TemplateError Variable :=
  match Variable.ofName? name with
  | some v => .ok v
  | none => .error (.unknownVariable name)

/-- A text as a segment of its own, unless it is empty. -/
def Segment.ofText (text : List Char) : List Segment :=
  if text.isEmpty then [] else [.literal (String.ofList text)]

namespace Template

/-- The template that always gives the same text. -/
def literal (text : String) : Template := Segment.ofText text.toList

mutual

/-- The groups that a segment refers to. -/
def segmentReferences : Segment → List Reference
  | .literal _ => []
  | .ruleGroup n => [.rule n]
  | .conditionGroup n => [.condition n]
  | .server _ => []
  | .currentUrl => []
  | .function _ inner => references inner
  | .lookup _ inner => references inner

/-- The groups that a template refers to, in reading order. -/
def references : List Segment → List Reference
  | [] => []
  | segment :: rest => segmentReferences segment ++ references rest

end

/-- Resolves references from the left up to the first that fails. -/
def resolveAll (c : Captures) : List Reference → Except OutOfRange Unit
  | [] => .ok ()
  | reference :: rest =>
    match reference.resolve c with
    | .ok _ => resolveAll c rest
    | .error e => .error e

/-- Checks that every group a template refers to has been captured. -/
def check (t : Template) (c : Captures) : Except OutOfRange Unit := resolveAll c (references t)

end Template

end Reroute
