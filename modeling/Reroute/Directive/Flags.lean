/-
  Flags in brackets at the end of a directive line.
  Names are compared in lower case. Some flags are known and refused.
-/
import Reroute.Directive.Error
import Reroute.Text.Blank

namespace Reroute

open Reroute.Text

inductive RuleFlag
  | last
  | end_
  | skip (count : Nat)
  | noCase
  | noEscape
  | escapeGroups
  | queryAppend
  | queryDiscard
  | redirect (status : Nat)
  | forbidden
  | gone
deriving DecidableEq, Repr

namespace RuleFlag

/-- Names of flags that are known and refused. -/
def refused : List String :=
  ["c", "chain", "n", "next", "p", "proxy", "co", "cookie", "e", "env", "t", "type", "h",
    "handler", "pt", "passthrough", "ns", "nosubreq"]

def isLast : RuleFlag → Bool
  | .last | .end_ => true
  | _ => false

/-- Whether the flag answers the request. -/
def isResolve : RuleFlag → Bool
  | .redirect _ | .forbidden | .gone => true
  | _ => false

/-- The number behind a flag, of 16 bits; without one the flag has a value of its own. -/
def readNumber (text : String) (standard : Nat) : Except RuleFault Nat :=
  if text.isEmpty then .ok standard
  else (readNat 65535 text).mapError .invalidNumber

/-- The status behind a flag: a redirect, a client error or a server error. -/
def readStatus (text : String) (standard : Nat) : Except RuleFault Nat :=
  match readNumber text standard with
  | .error e => .error e
  | .ok status => if 300 ≤ status ∧ status < 600 then .ok status else .error (.invalidStatus text)

/-- The flag that a text between commas writes. -/
def read (text : String) : Except RuleFault RuleFlag :=
  let (name, value) :=
    match splitFirst? (· == '=') text.toList with
    | some (name, value) => (String.ofList name, String.ofList value)
    | none => (text, "")
  match lower name with
  | "l" | "last" => .ok .last
  | "end" => .ok .end_
  | "s" | "skip" => (readNumber value 1).map .skip
  | "nc" | "nocase" => .ok .noCase
  | "ne" | "noescape" => .ok .noEscape
  | "b" => .ok .escapeGroups
  | "qsa" | "qsappend" => .ok .queryAppend
  | "qsd" | "qsdiscard" => .ok .queryDiscard
  | "r" | "redirect" => (readStatus value 302).map .redirect
  | "f" | "forbidden" => .ok .forbidden
  | "g" | "gone" => .ok .gone
  | known => .error (if refused.contains known then .unsupportedFlag text else .invalidFlag text)

end RuleFlag

/-- The texts between the commas of a list in brackets, without empty ones. -/
def splitFlags? (text : String) : Option (List String) :=
  match text.toList with
  | '[' :: rest =>
    if rest.getLast? = some ']' then
      some (((splitAll ',' rest.dropLast).map trimList).filterMap fun flag =>
        if flag.isEmpty then none else some (String.ofList flag))
    else none
  | _ => none

/-- The flags of a rule line. -/
abbrev RuleFlags := List RuleFlag

namespace RuleFlags

/-- How many rules the first skip flag leaves out. -/
def skip (flags : RuleFlags) : Nat :=
  (flags.findSome? fun
    | .skip n => some n
    | _ => none).getD 0

/-- The first flag that answers the request. -/
def resolve? (flags : RuleFlags) : Option RuleFlag := flags.find? RuleFlag.isResolve

/-- Reads a list of flags. At most one may end the list of rules, and one answer. -/
def read (text : String) : Except RuleFault RuleFlags :=
  match splitFlags? text with
  | none => .error (.flagsMissingBrackets text)
  | some pieces =>
    match pieces.mapM RuleFlag.read with
    | .error e => .error e
    | .ok flags =>
      if flags.isEmpty then .error .flagsEmpty
      else if 1 < flags.countP RuleFlag.isLast || 1 < flags.countP RuleFlag.isResolve then
        .error .flagsExclusive
      else .ok flags

end RuleFlags

/-- The flags of a condition line. -/
structure ConditionFlags where
  noCase : Bool := false
  orNext : Bool := false
deriving DecidableEq, Repr

namespace ConditionFlags

def add (flags : ConditionFlags) (text : String) : Except ConditionFault ConditionFlags :=
  match lower text with
  | "nc" | "nocase" => .ok { flags with noCase := true }
  | "or" | "ornext" => .ok { flags with orNext := true }
  | _ => .error (.invalidFlag text)

/-- Reads a list of flags. -/
def read (text : String) : Except ConditionFault ConditionFlags :=
  match splitFlags? text with
  | none => .error (.flagsMissingBrackets text)
  | some [] => .error .flagsEmpty
  | some pieces => pieces.foldlM add {}

end ConditionFlags

end Reroute
