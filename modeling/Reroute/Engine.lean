/-
  Engines: an ordered list of rules with the settings they are read with.
  Rules are only ever added at the end, and a source that cannot be read adds none.
-/
import Reroute.Apply
import Reroute.Directive.File
import Reroute.RewriteSection
import Reroute.Template.Dollar

namespace Reroute

/-- What has become of a request: another url, or an answer. -/
inductive Rewrite
  | uri (uri : String)
  | redirect (location : String) (status : Nat)
  | response (status : Nat) (reason : Option String)
  | abort
deriving DecidableEq, Repr

/-- The outcome that a request stands at. -/
def Request.rewrite (r : Request) : Rewrite :=
  match r.resolution with
  | none => .uri r.pathAndQuery
  | some (.redirect status location) => .redirect location status
  | some (.response status reason) => .response status reason
  | some .abort => .abort

structure Engine where
  rules : List Rule := []
  options : RuleOptions := {}
deriving Repr

namespace Engine

def addRules (e : Engine) (rules : List Rule) : Engine := { e with rules := e.rules ++ rules }

/-- Adds the rules of directive lines. -/
def addDirectives (e : Engine) (text : String) : Except LineError Engine :=
  (Directive.readRules text e.options).map e.addRules

/-- Adds the rules of a rewrite section. The given tables hide those of the document. -/
def addSection (e : Engine) (text : String) (tables : LookupTables) :
    Except SectionError Engine :=
  (RewriteSection.readRules text tables e.options).map e.addRules

def dollarTemplate (text : String) : Except BuildError Template :=
  (Template.ofDollar text).mapError .template

/-- A rule that takes one action where a pattern matches the path. -/
def patternRule (options : RuleOptions) (pattern replacement : String) (kind : ActionKind)
    (last : Bool) : Except BuildError Rule := do
  let draft ← ({ options, last } : RuleDraft).setMatch pattern false false .ecmaScript
  let url ← dollarTemplate replacement
  (draft.addAction { kind, url }).build false

/-- Adds a rule that replaces the paths matching a pattern. -/
def addRewrite (e : Engine) (pattern replacement : String) (stop : Bool) :
    Except BuildError Engine :=
  (patternRule e.options pattern replacement .rewrite stop).map fun rule => e.addRules [rule]

/-- Redirects have a status from 300 up to 399. -/
def checkStatus (status : Nat) : Except BuildError Unit :=
  if 300 ≤ status ∧ status < 400 then .ok () else .error (.invalidStatus status)

/-- Adds a rule that redirects the paths matching a pattern. -/
def addRedirect (e : Engine) (pattern replacement : String) (status : Nat) :
    Except BuildError Engine := do
  checkStatus status
  let rule ← patternRule e.options pattern replacement (.redirect status) false
  .ok (e.addRules [rule])

/-- The name of the rule that leads to the encrypted scheme. -/
def httpsRuleName : String := "redirect to https"

/-- The url of a request in the encrypted scheme. -/
def httpsUrl : Template :=
  [.literal "https://", .server (.header "host"), .server .requestUri]

/-- The rule that redirects plain requests to the same url over https. -/
def httpsRule (options : RuleOptions) (status : Nat) : Except BuildError Rule := do
  let draft ← ({ options, name := some httpsRuleName } : RuleDraft).setMatch ".*" false false
    .ecmaScript
  let draft ← (draft.setConditions .matchAll false).addCondition [.server .https] (some "off")
    .exactMatch .pattern true false
  (draft.addAction { kind := .redirect status, url := httpsUrl }).build true

/-- Adds a rule that redirects plain requests to the same url over https. -/
def addRedirectToHttps (e : Engine) (status : Nat) : Except BuildError Engine := do
  checkStatus status
  let rule ← httpsRule e.options status
  .ok (e.addRules [rule])

/-- The request after all rules. -/
def apply (e : Engine) (request : Request) : Request := Rule.runAll e.rules request

/-- The outcome of a request. -/
def rewrite (e : Engine) (request : Request) : Rewrite := (e.apply request).rewrite

end Engine

end Reroute
