/-
  Applying rules to a request.
  A rule is decided before it changes anything: its match, its conditions and the references of
  all its actions come first. Rules are taken in order; an applied rule may end the list or
  leave out rules after it, disabled ones among them.
-/
import Reroute.Rule

namespace Reroute

/-- What follows an action. -/
inductive ActionFlow
  | next
  | stop
  | halt
deriving DecidableEq, Repr

/-- What follows a rule. -/
inductive RuleFlow
  | notMatched
  | applied
  | halted
deriving DecidableEq, Repr

namespace Action

/-- The url of an action in a request. -/
def expandUrl (a : Action) (request : Request) (captures : Captures) (isGlobal : Bool) :
    Except OutOfRange String :=
  Template.expand ⟨request, captures, isGlobal, a.escape⟩ a.url

/-- The target of a url, and its query with that of the request behind it if that is wanted. -/
def mergeQuery (request : Request) (url : String) (append : Bool) : String × String :=
  let (target, query) := Url.splitQuery url
  (target, if append then Url.joinQueries query request.query else query)

/-- Puts a new target in place. An absolute one also gives scheme and host, and has a path. -/
def retarget (request : Request) (target query : String) : Request :=
  match Url.splitOrigin? target with
  | none => request.withTarget target query
  | some origin =>
    (request.withOrigin origin.scheme origin.host).withTarget
      (if origin.path.isEmpty then "/" else origin.path) query

/-- Takes the action. Its captures are never changed by it. -/
def apply (a : Action) (request : Request) (captures : Captures) (isGlobal : Bool) :
    Except OutOfRange (ActionFlow × Request) :=
  let flow := if a.stop then ActionFlow.stop else .next
  match a.kind with
  | .keep => .ok (flow, request)
  | .rewrite =>
    (a.expandUrl request captures isGlobal).map fun url =>
      let (target, query) := mergeQuery request url a.appendQuery
      (flow, retarget request target query)
  | .redirect status =>
    (a.expandUrl request captures isGlobal).map fun url =>
      let (target, query) := mergeQuery request url a.appendQuery
      (.halt, request.resolve (.redirect status (Url.joinQuery target query)))
  | .forbidden => .ok (.halt, request.resolve (.response 403 none))
  | .gone => .ok (.halt, request.resolve (.response 410 none))
  | .respond status reason => .ok (.halt, request.resolve (.response status reason))
  | .abort => .ok (.halt, request.resolve .abort)

end Action

namespace Rule

/-- What the rule is matched with. -/
def candidate (rule : Rule) (request : Request) : String :=
  if rule.isGlobal then request.fullUrl else request.path

/-- Whether the templates of all actions can be expanded. -/
def checkActions (captures : Captures) : List Action → Except OutOfRange Unit
  | [] => .ok ()
  | a :: rest =>
    match Template.check a.url captures with
    | .ok _ => checkActions captures rest
    | .error e => .error e

/-- Takes actions in order. -/
def runActions (captures : Captures) (isGlobal : Bool) :
    List Action → Request → RuleFlow × Request
  | [], request => (.applied, request)
  | a :: rest, request =>
    match a.apply request captures isGlobal with
    | .error _ => (.notMatched, request)
    | .ok (.next, request) => runActions captures isGlobal rest request
    | .ok (.stop, request) => (.applied, request)
    | .ok (.halt, request) => (.halted, request)

/-- The groups captured by the match and the conditions, if both succeed. -/
def captures? (rule : Rule) (request : Request) : Option Captures :=
  let result := rule.initialMatch.run (rule.candidate request) request.files
  if !result.success then none
  else
    let captures := ({} : Captures).recordRule result.groups
    match rule.conditions with
    | none => some captures
    | some conditions =>
      match conditions.run request captures rule.isGlobal with
      | (.ok true, captures) => some captures
      | _ => none

/-- Applies the rule to a request. -/
def apply (rule : Rule) (request : Request) : RuleFlow × Request :=
  match rule.captures? request with
  | none => (.notMatched, request)
  | some captures =>
    match checkActions captures rule.actions with
    | .error _ => (.notMatched, request)
    | .ok _ => runActions captures rule.isGlobal rule.actions request

/-- How a run of rules ended. -/
inductive Ending
  /-- All rules have been passed, and `skip` more were to be left out. -/
  | exhausted (skip : Nat)
  /-- A rule with `last` has been applied. -/
  | last
  /-- A rule has answered the request. -/
  | halted
deriving DecidableEq, Repr

/-- Runs rules in order; the next `skip` of them are left out. -/
def runFrom : List Rule → Nat → Request → Ending × Request
  | [], skip, request => (.exhausted skip, request)
  | _ :: rest, skip + 1, request => runFrom rest skip request
  | rule :: rest, 0, request =>
    if !rule.enabled then runFrom rest 0 request
    else
      match rule.apply request with
      | (.notMatched, request) => runFrom rest 0 request
      | (.halted, request) => (.halted, request)
      | (.applied, request) =>
        if rule.last then (.last, request) else runFrom rest rule.skip request

/-- The request after a list of rules. -/
def runAll (rules : List Rule) (request : Request) : Request := (runFrom rules 0 request).2

end Rule

end Reroute
