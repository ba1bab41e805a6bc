/-
  Rules: a match, the conditions that guard it, and the actions it takes.
-/
import Reroute.Condition

namespace Reroute

/-- What an action does. -/
inductive ActionKind
  /-- Replaces path and query. -/
  | rewrite
  | redirect (status : Nat)
  | forbidden
  | gone
  | respond (status : Nat) (reason : Option String)
  /-- Drops the request without an answer. -/
  | abort
  /-- Changes nothing. -/
  | keep
deriving DecidableEq, Repr

/-- Whether the action ends the request. -/
def ActionKind.isTerminal : ActionKind → Bool
  | .rewrite | .keep => false
  | _ => true

/-- The kinds of redirect that have names. -/
inductive RedirectType
  | permanent
  | found
  | seeOther
  | temporary
deriving DecidableEq, Repr, Inhabited

namespace RedirectType

def status : RedirectType → Nat
  | .permanent => 301
  | .found => 302
  | .seeOther => 303
  | .temporary => 307

def ofText (text : String) : Except UnknownValue RedirectType :=
  keyword [("permanent", .permanent), ("found", .found), ("seeother", .seeOther),
    ("temporary", .temporary)] text

end RedirectType

structure Action where
  kind : ActionKind
  url : Template
  /-- Whether the query of the request follows the query of the url. -/
  appendQuery : Bool := true
  /-- Whether the actions after this one are left out. -/
  stop : Bool := false
  /-- Whether the texts of groups are percent-encoded. -/
  escape : Bool := false
deriving Repr

structure Rule where
  name : Option String := none
  enabled : Bool := true
  initialMatch : Matcher
  conditions : Option Conditions := none
  actions : List Action
  /-- Whether the rule is matched against the request as it came. -/
  isGlobal : Bool := false
  /-- Whether no rule is tried after this one has been applied. -/
  last : Bool := false
  /-- How many rules are left out after this one has been applied. -/
  skip : Nat := 0
deriving Repr

end Reroute
