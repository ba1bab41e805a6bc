/-
  Rewrite sections of configuration documents, and the rules they stand for.
  The first rewrite element of the document counts, and in it the first section of each kind.
  Global rules come first. Disabled rules are dropped unread.
-/
import Reroute.Markup.Document
import Reroute.RuleDraft
import Reroute.Template.Braced

namespace Reroute

open Reroute.Markup

/-- What is wrong at an element of a section. -/
inductive SectionFault
  | unrecognized (key value : String)
  | tableWithoutName
  | incompleteEntry
  | ruleWithoutMatch
  | ruleWithoutAction
  | matchWithoutUrl
  | conditionWithoutInput
  | emptyUrl
  | missingStatus
  | template (cause : TemplateError)
  | build (cause : BuildError)
deriving DecidableEq, Repr

namespace SectionFault

def message : SectionFault → String
  | .unrecognized key value =>
    "The " ++ key ++ " parameter '" ++ value ++ "' was not recognized"
  | .tableWithoutName => "Rewrite map must have a name attribute"
  | .incompleteEntry => "Rewrite map entries must have a key and a value attribute"
  | .ruleWithoutMatch => "Cannot have rule without match"
  | .ruleWithoutAction => "Rule does not have an associated action attribute"
  | .matchWithoutUrl => "Match must have Url Attribute"
  | .conditionWithoutInput => "Conditions must have an input attribute"
  | .emptyUrl => "Url attribute cannot contain an empty string"
  | .missingStatus => "Custom response must have a statusCode attribute"
  | .template cause => cause.message
  | .build cause => cause.message

/-- Whether the section asks for a feature that is known and refused. -/
def isUnsupported : SectionFault → Bool
  | .build cause => cause.isUnsupported
  | _ => false

end SectionFault

/-- Why a document yields no rules. -/
inductive SectionError
  | malformed
  | fault (place : Place) (found : SectionFault)
deriving DecidableEq, Repr

def SectionError.message : SectionError → String
  | .malformed => "Malformed rewrite xml"
  | .fault place found =>
    (if found.isUnsupported then "Unsupported rewrite feature"
      else "Could not parse the rewrite rules") ++
      " at line " ++ toString place.line ++ ", column " ++ toString place.column ++ ": " ++
      found.message

namespace RewriteSection

/-- A fault with the element it is found at. -/
abbrev Reading (α : Type) := Except (Element × SectionFault) α

/-- The value of a switch; blanks around it and its case mean nothing. -/
def switch (e : Element) (key : String) (standard : Bool) : Reading Bool :=
  match e.attribute? key with
  | none => .ok standard
  | some value =>
    let word := Text.trim value
    if Text.sameAsciiCase word "true" then .ok true
    else if Text.sameAsciiCase word "false" then .ok false
    else .error (e, .unrecognized key value)

/-- The value of an attribute that is one of some keywords. -/
def choice {α ε : Type} (ofText : String → Except ε α) (e : Element) (key : String)
    (standard : α) : Reading α :=
  match e.attribute? key with
  | none => .ok standard
  | some value =>
    match ofText (Text.trim value) with
    | .ok found => .ok found
    | .error _ => .error (e, .unrecognized key value)

/-- The value of an attribute that has to be there. -/
def required (e : Element) (key : String) (fault : SectionFault) : Reading String :=
  match e.attribute? key with
  | some value => .ok value
  | none => .error (e, fault)

def requiredChild (e : Element) (name : String) (fault : SectionFault) : Reading Element :=
  match e.child? name with
  | some child => .ok child
  | none => .error (e, fault)

def entry (e : Element) : Reading (String × String) :=
  match e.attribute? "key", e.attribute? "value" with
  | some key, some value => .ok (key, value)
  | _, _ => .error (e, .incompleteEntry)

/-- The lookup table of a map element. -/
def table (e : Element) : Reading LookupTable := do
  let name ← required e "name" .tableWithoutName
  let entries ← (e.childrenNamed "add").mapM entry
  .ok (.ofEntries name (e.attribute? "defaultValue") entries)

/-- Adds the tables of a list of elements; names that are taken keep their tables. -/
def addTables (tables : LookupTables) (elements : List Element) : Reading LookupTables :=
  elements.foldlM (fun tables e => (table e).map tables.addMissing) tables

/-- The kinds of action that a section names. -/
inductive ActionType
  | keep
  | rewrite
  | redirect
  | customResponse
  | abortRequest
deriving DecidableEq, Repr

def ActionType.ofText (text : String) : Except UnknownValue ActionType :=
  keyword [("none", .keep), ("rewrite", .rewrite), ("redirect", .redirect),
    ("customresponse", .customResponse), ("abortrequest", .abortRequest)] text

/-- The status of a custom response, from 100 up to 599. -/
def customStatus (e : Element) : Reading Nat := do
  let written ← required e "statusCode" .missingStatus
  match Text.readNat 65535 (Text.trim written) with
  | .ok status =>
    if 100 ≤ status ∧ status < 600 then .ok status
    else .error (e, .unrecognized "statusCode" written)
  | .error _ => .error (e, .unrecognized "statusCode" written)

def readTemplate (tables : LookupTables) (e : Element) (text : String) : Reading Template :=
  (Template.ofBraced tables text).mapError fun cause => (e, .template cause)

/-- What an action does, by its type. -/
def actionKind (e : Element) (type : ActionType) (redirect : RedirectType) : Reading ActionKind :=
  match type with
  | .keep => .ok .keep
  | .rewrite => .ok .rewrite
  | .redirect => .ok (.redirect redirect.status)
  | .abortRequest => .ok .abort
  | .customResponse =>
    (customStatus e).map fun status => .respond status (e.attribute? "statusReason")

/-- The action of an action element. -/
def action (tables : LookupTables) (e : Element) (stop : Bool) : Reading Action := do
  let type ← choice ActionType.ofText e "type" .keep
  let redirect ← choice RedirectType.ofText e "redirectType" .permanent
  let appendQuery ← switch e "appendQueryString" true
  let written := (e.attribute? "url")
  if written = some "" then .error (e, .emptyUrl)
  else
    let url ← readTemplate tables e (written.getD "")
    let kind ← actionKind e type redirect
    .ok { kind, url, appendQuery, stop }

/-- Adds the condition of an element to a draft. -/
def addCondition (tables : LookupTables) (style : PatternSyntax) (draft : RuleDraft)
    (e : Element) : Reading RuleDraft := do
  let ignoreCase ← switch e "ignoreCase" true
  let negate ← switch e "negate" false
  let type ← choice MatchType.ofText e "matchType" .pattern
  let written ← required e "input" .conditionWithoutInput
  let input ← readTemplate tables e written
  (draft.addCondition input (e.attribute? "pattern") style type ignoreCase negate).mapError
    fun cause => (e, .build cause)

/-- Adds the conditions of a conditions element to a draft. -/
def addConditions (tables : LookupTables) (style : PatternSyntax) (draft : RuleDraft)
    (e : Element) : Reading RuleDraft := do
  let grouping ← choice Grouping.ofText e "logicalGrouping" .matchAll
  let trackAll ← switch e "trackAllCaptures" false
  (e.childrenNamed "add").foldlM (addCondition tables style) (draft.setConditions grouping trackAll)

/-- The rule of an enabled rule element. -/
def enabledRule (tables : LookupTables) (options : RuleOptions) (isGlobal : Bool) (e : Element) :
    Reading Rule := do
  let style ← choice PatternSyntax.ofText e "patternSyntax" .ecmaScript
  let stop ← switch e "stopProcessing" false
  let matching ← requiredChild e "match" .ruleWithoutMatch
  let acting ← requiredChild e "action" .ruleWithoutAction
  let url ← required matching "url" .matchWithoutUrl
  let ignoreCase ← switch matching "ignoreCase" true
  let negate ← switch matching "negate" false
  let draft : RuleDraft := { options, name := e.attribute? "name" }
  let draft ← (draft.setMatch url ignoreCase negate style).mapError
    fun cause => (matching, .build cause)
  let draft ←
    match e.child? "conditions" with
    | none => .ok draft
    | some conditions => addConditions tables style draft conditions
  let taken ← action tables acting stop
  ((draft.addAction taken).build isGlobal).mapError fun cause => (e, .build cause)

/-- The rule of a rule element, unless it is disabled. -/
def rule (tables : LookupTables) (options : RuleOptions) (isGlobal : Bool) (e : Element) :
    Reading (Option Rule) := do
  let enabled ← switch e "enabled" true
  if enabled then (enabledRule tables options isGlobal e).map some else .ok none

/-- The rules of a section, without disabled ones. -/
def rulesOf (tables : LookupTables) (options : RuleOptions) (isGlobal : Bool)
    (elements : List Element) : Reading (List Rule) :=
  (elements.mapM (rule tables options isGlobal)).map fun rules => rules.filterMap id

/-- The elements of one name in the first section of a kind. -/
def sectionElements (root : Element) (kind name : String) : List Element :=
  match root.first? kind with
  | none => []
  | some e => e.childrenNamed name

/-- The rules of a rewrite element. Tables of the caller come before those of the document. -/
def rulesIn (root : Element) (tables : LookupTables) (options : RuleOptions) :
    Reading (List Rule) := do
  let tables ← addTables tables (sectionElements root "rewriteMaps" "rewriteMap")
  let global ← rulesOf tables options true (sectionElements root "globalRules" "rule")
  let others ← rulesOf tables options false (sectionElements root "rules" "rule")
  .ok (global ++ others)

/-- Reads the rules of a document. One without a rewrite element has none. -/
def readRules (text : String) (tables : LookupTables) (options : RuleOptions) :
    Except SectionError (List Rule) :=
  match readDocument text with
  | none => .error .malformed
  | some document =>
    match document.first? "rewrite" with
    | none => .ok []
    | some root =>
      (rulesIn root tables options).mapError fun found =>
        .fault (placeOf text found.1) found.2

end RewriteSection

end Reroute
