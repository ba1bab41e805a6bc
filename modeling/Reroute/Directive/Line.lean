/-
  Directive lines: what each kind of line says, and the rule or condition that it stands for.
-/
import Reroute.Directive.Flags
import Reroute.Directive.Words
import Reroute.RuleDraft
import Reroute.Template.Dollar

namespace Reroute

open Reroute.Text

/-- The test of a condition line. -/
inductive ConditionPattern
  | regex (pattern : String)
  | exact (value : String)
  | compare (op : Comparison) (operand : String)
  | isFile
  | isDirectory
deriving DecidableEq, Repr

/-- A condition line: a test of an expanded text. -/
structure ConditionLine where
  input : String
  pattern : ConditionPattern
  negate : Bool
  flags : ConditionFlags
deriving DecidableEq, Repr

namespace ConditionLine

/-- The pattern that a word writes, with the words left over. An operator made of letters may
have its operand in the next word. -/
def readPattern (text : String) (rest : List String) :
    Except ConditionFault (ConditionPattern × List String) :=
  match text with
  | "-f" | "-F" => .ok (.isFile, rest)
  | "-d" => .ok (.isDirectory, rest)
  | "-s" | "-l" | "-L" | "-h" | "-x" | "-U" => .error (.unsupportedFileTest text)
  | _ =>
    let cs := text.toList
    let named :=
      if cs.head? = some '-' then (Comparison.ofText (String.ofList (cs.take 3))).toOption
      else none
    match named with
    | some op =>
      match cs.drop 3, rest with
      | [], operand :: rest =>
        if operand.toList.head? = some '[' then .error (.invalidComparison text)
        else .ok (.compare op operand, rest)
      | [], [] => .error (.invalidComparison text)
      | attached, rest => .ok (.compare op (String.ofList attached), rest)
    | none =>
      match cs with
      | '<' :: '=' :: operand => .ok (.compare .precedesOrEquals (String.ofList operand), rest)
      | '>' :: '=' :: operand => .ok (.compare .followsOrEquals (String.ofList operand), rest)
      | '<' :: operand => .ok (.compare .precedes (String.ofList operand), rest)
      | '>' :: operand => .ok (.compare .follows (String.ofList operand), rest)
      | '=' :: value => .ok (.exact (String.ofList value), rest)
      | _ => .ok (.regex text, rest)

/-- Reads the words of a condition line. -/
def read (words : List String) : Except ConditionFault ConditionLine :=
  match words with
  | [] => .error .emptyExpression
  | [_] => .error .missingPattern
  | input :: raw :: rest => do
    let (negate, text) := Directive.takeNegation raw
    let (pattern, rest) ← readPattern text rest
    match rest with
    | [] => .ok ⟨input, pattern, negate, {}⟩
    | flags :: rest =>
      let flags ← ConditionFlags.read flags
      match rest with
      | [] => .ok ⟨input, pattern, negate, flags⟩
      | next :: _ => .error (.invalidSuffix next)

def matcher (c : ConditionLine) (options : RuleOptions) : Except BuildError Matcher :=
  let noCase := c.flags.noCase
  match c.pattern with
  | .regex pattern => Matcher.regex pattern noCase c.negate options.matchTimeout
  | .exact value => .ok (.exact value noCase c.negate)
  | .compare op operand => .ok (.compare op operand noCase c.negate)
  | .isFile => .ok ⟨.isFile, c.negate⟩
  | .isDirectory => .ok ⟨.isDirectory, c.negate⟩

/-- The condition that the line stands for. -/
def compile (c : ConditionLine) (options : RuleOptions) : Except DirectiveError Condition := do
  let input ← (Template.ofDollar c.input).mapError DirectiveError.template
  let matcher ← (c.matcher options).mapError DirectiveError.build
  .ok ⟨input, matcher, c.flags.orNext⟩

end ConditionLine

/-- A rule line: a pattern, a substitution and flags. -/
structure RuleLine where
  pattern : String
  substitution : String
  flags : RuleFlags
deriving DecidableEq, Repr

namespace RuleLine

/-- Reads the words of a rule line. -/
def read (words : List String) : Except RuleFault RuleLine :=
  match words with
  | [] => .error .missingPattern
  | [_] => .error .missingRewrite
  | [pattern, substitution] => .ok ⟨pattern, substitution, []⟩
  | pattern :: substitution :: flags :: rest => do
    let flags ← RuleFlags.read flags
    match rest with
    | [] => .ok ⟨pattern, substitution, flags⟩
    | next :: _ => .error (.invalidSuffix next)

/-- A lone hyphen substitutes nothing. -/
def keepsUrl (r : RuleLine) : Bool := r.substitution == "-"

/-- What the rule does: its answering flag first, else a rewrite unless the url is kept. -/
def kind (r : RuleLine) : ActionKind :=
  match r.flags.resolve? with
  | some (.redirect status) =>
    if 300 ≤ status ∧ status < 400 then .redirect status else .respond status none
  | some .forbidden => .forbidden
  | some .gone => .gone
  | _ => if r.keepsUrl then .keep else .rewrite

/-- A query is appended if a flag says so, or if the substitution has none of its own and no
flag says otherwise. -/
def appendQuery (r : RuleLine) : Bool :=
  r.flags.contains .queryAppend ||
    (!r.flags.contains .queryDiscard && !r.substitution.toList.contains '?')

def isLast (r : RuleLine) : Bool := r.flags.contains .last || r.flags.contains .end_

def url (r : RuleLine) : Except TemplateError Template :=
  if r.keepsUrl then .ok [.currentUrl] else Template.ofDollar r.substitution

/-- The rule that the line stands for, guarded by conditions read before it. -/
def compile (r : RuleLine) (conditions : List Condition) (enabled : Bool)
    (options : RuleOptions) : Except DirectiveError Rule := do
  let (negate, pattern) := Directive.takeNegation r.pattern
  let draft : RuleDraft := { options, enabled }
  let draft ← (draft.setMatch pattern (r.flags.contains .noCase) negate .ecmaScript).mapError
    DirectiveError.build
  let draft :=
    if conditions.isEmpty then draft
    else conditions.foldl RuleDraft.pushCondition (draft.setConditions .matchAll false)
  let url ← r.url.mapError DirectiveError.template
  let action : Action :=
    { kind := r.kind, url, appendQuery := r.appendQuery, stop := r.isLast
      escape := r.flags.contains .escapeGroups }
  let draft := { draft.addAction action with last := r.isLast, skip := r.flags.skip }
  (draft.build false).mapError DirectiveError.build

end RuleLine

/-- A directive line. -/
inductive Directive
  | condition (line : ConditionLine)
  | rule (line : RuleLine)
  | engine (on : Bool)
deriving DecidableEq, Repr

namespace Directive

/-- Reads a line without blanks at its ends. The name of the directive ends at its first
blank. -/
def read (line : String) : Except DirectiveError Directive :=
  match splitFirst? isBlank line.toList with
  | none => .error .missingIdentifier
  | some (name, rest) =>
    let arguments := String.ofList rest
    match words? arguments with
    | none => .error (.unclosedQuotation arguments)
    | some words =>
      match lower (String.ofList name) with
      | "rule" | "rewrite" | "rewriterule" =>
        ((RuleLine.read words).map .rule).mapError .rule
      | "cond" | "condition" | "rewritecond" =>
        ((ConditionLine.read words).map .condition).mapError .condition
      | "state" | "engine" | "rewriteengine" =>
        match lower (trim arguments) with
        | "on" => .ok (.engine true)
        | "off" => .ok (.engine false)
        | _ => .error (.invalidState (trim arguments))
      | _ => .error (.invalidIdentifier line)

end Directive

end Reroute
