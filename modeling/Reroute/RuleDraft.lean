/-
  Drafts of rules: parts are added one by one, and a finished draft is checked as a whole.
  Every group that a template of the rule refers to has to be one that its patterns can capture.
-/
import Reroute.Rule

namespace Reroute

/-- Settings of all rules that are read together. -/
structure RuleOptions where
  /-- The budget of one search. Settings count it in milliseconds, but any unit will do. -/
  matchTimeout : Nat := 100
deriving DecidableEq, Repr

/-- How a pattern is written. -/
inductive PatternSyntax
  | ecmaScript
  | wildcard
  | exactMatch
deriving DecidableEq, Repr, Inhabited

def PatternSyntax.ofText (text : String) : Except UnknownValue PatternSyntax :=
  keyword [("ecmascript", .ecmaScript), ("wildcard", .wildcard), ("exactmatch", .exactMatch)]
    text

/-- What a condition tests its input for. -/
inductive MatchType
  | pattern
  | isFile
  | isDirectory
deriving DecidableEq, Repr, Inhabited

def MatchType.ofText (text : String) : Except UnknownValue MatchType :=
  keyword [("pattern", .pattern), ("isfile", .isFile), ("isdirectory", .isDirectory)] text

structure RuleDraft where
  options : RuleOptions := {}
  name : Option String := none
  enabled : Bool := true
  initialMatch : Option Matcher := none
  conditions : Option Conditions := none
  actions : List Action := []
  last : Bool := false
  skip : Nat := 0
deriving Repr

namespace RuleDraft

/-- Sets the pattern that the path of the request is matched with. -/
def setMatch (d : RuleDraft) (pattern : String) (ignoreCase negate : Bool)
    (style : PatternSyntax) : Except BuildError RuleDraft :=
  match style with
  | .ecmaScript =>
    (Matcher.regex pattern ignoreCase negate d.options.matchTimeout).map fun m =>
      { d with initialMatch := some m }
  | .exactMatch => .ok { d with initialMatch := some (.exact pattern ignoreCase negate) }
  | .wildcard => .error .wildcard

/-- Starts a new list of conditions. -/
def setConditions (d : RuleDraft) (grouping : Grouping) (trackAll : Bool) : RuleDraft :=
  { d with conditions := some { grouping, trackAll } }

/-- Adds a condition that is chained as it says itself. -/
def pushCondition (d : RuleDraft) (c : Condition) : RuleDraft :=
  { d with conditions := some ((d.conditions.getD {}).push c) }

/-- The matcher of a condition. -/
def conditionMatcher (options : RuleOptions) (pattern : Option String) (style : PatternSyntax)
    (type : MatchType) (ignoreCase negate : Bool) : Except BuildError Matcher :=
  match style, type with
  | .wildcard, _ => .error .wildcard
  | .exactMatch, _ =>
    match pattern with
    | some text => .ok (.exact text ignoreCase negate)
    | none => .error .missingPattern
  | .ecmaScript, .pattern =>
    match pattern with
    | none => .error .missingPattern
    | some text =>
      if text.isEmpty then .error .missingPattern
      else Matcher.regex text ignoreCase negate options.matchTimeout
  | .ecmaScript, .isFile => .ok ⟨.isFile, negate⟩
  | .ecmaScript, .isDirectory => .ok ⟨.isDirectory, negate⟩

/-- Adds a condition that is chained as the grouping of the list says. -/
def addCondition (d : RuleDraft) (input : Template) (pattern : Option String)
    (style : PatternSyntax) (type : MatchType) (ignoreCase negate : Bool) :
    Except BuildError RuleDraft :=
  (conditionMatcher d.options pattern style type ignoreCase negate).map fun matcher =>
    d.pushCondition ⟨input, matcher, (d.conditions.getD {}).grouping == .matchAny⟩

def addAction (d : RuleDraft) (a : Action) : RuleDraft := { d with actions := d.actions ++ [a] }

/-- How many groups of its kind there are for a reference. -/
def available (ruleGroups conditionGroups : Nat) : Reference → Nat × Nat
  | .rule n => (n, ruleGroups)
  | .condition n => (n, conditionGroups)

/-- The first reference to a group that can never be captured is refused. -/
def checkReferences (ruleGroups conditionGroups : Nat) : List Reference → Except BuildError Unit
  | [] => .ok ()
  | reference :: rest =>
    let (index, count) := available ruleGroups conditionGroups reference
    if count ≤ index then .error (.reference reference count)
    else checkReferences ruleGroups conditionGroups rest

/-- All references of a rule: those of its conditions, then those of its actions. -/
def allReferences (conditions : Option Conditions) (actions : List Action) : List Reference :=
  ((conditions.map (·.items)).getD []).flatMap (fun c => Template.references c.input) ++
    actions.flatMap fun a => Template.references a.url

/-- Finishes the rule. -/
def build (d : RuleDraft) (isGlobal : Bool) : Except BuildError Rule :=
  match d.initialMatch with
  | none => .error .noMatch
  | some initialMatch =>
    if d.actions.isEmpty then .error .noAction
    else
      let conditionGroups := (d.conditions.map Conditions.captureCount).getD 0
      (checkReferences initialMatch.captureCount conditionGroups
        (allReferences d.conditions d.actions)).map fun _ =>
        { name := d.name, enabled := d.enabled, initialMatch, conditions := d.conditions
          actions := d.actions, isGlobal, last := d.last, skip := d.skip }

end RuleDraft

end Reroute
