/-
  What can be wrong with a directive line.
-/
import Reroute.BuildError
import Reroute.Text.Numeral

namespace Reroute

open Reroute.Text

/-- Faults of a condition line. -/
inductive ConditionFault
  | emptyExpression
  | missingPattern
  | invalidComparison (text : String)
  | unsupportedFileTest (text : String)
  | invalidSuffix (text : String)
  | flagsMissingBrackets (text : String)
  | flagsEmpty
  | invalidFlag (text : String)
deriving DecidableEq, Repr

def ConditionFault.message : ConditionFault → String
  | .emptyExpression => "Rule condition expression is empty"
  | .missingPattern => "Rule condition is missing a pattern"
  | .invalidComparison text => "Invalid comparison expression " ++ quoted text
  | .unsupportedFileTest text => "Unsupported file test " ++ quoted text
  | .invalidSuffix text => "Invalid expression suffix " ++ quoted text
  | .flagsMissingBrackets text => "Condition flags missing brackets " ++ quoted text
  | .flagsEmpty => "Condition flags are empty"
  | .invalidFlag text => "Invalid condition flag " ++ quoted text

/-- Faults of a rule line. -/
inductive RuleFault
  | missingPattern
  | missingRewrite
  | invalidSuffix (text : String)
  | flagsMissingBrackets (text : String)
  | flagsEmpty
  | flagsExclusive
  | invalidFlag (text : String)
  | unsupportedFlag (text : String)
  | invalidNumber (cause : NumeralError)
  | invalidStatus (text : String)
deriving DecidableEq, Repr

def RuleFault.message : RuleFault → String
  | .missingPattern => "Rule is missing a pattern"
  | .missingRewrite => "Rule is missing a rewrite expression"
  | .invalidSuffix text => "Invalid suffix to rule expression " ++ quoted text
  | .flagsMissingBrackets text => "Rule flag definitions missing brackets " ++ quoted text
  | .flagsEmpty => "Rule flags empty"
  | .flagsExclusive => "Rule flags used are mutually exclusive"
  | .invalidFlag text => "Invalid flag in rule definition " ++ quoted text
  | .unsupportedFlag text => "Rule flag " ++ quoted text ++ " is not supported"
  | .invalidNumber cause => "Invalid number in rule definition: " ++ cause.message
  | .invalidStatus text => "Invalid status code in rule definition " ++ quoted text

/-- Faults of a line. -/
inductive DirectiveError
  | missingIdentifier
  | invalidIdentifier (text : String)
  | invalidState (text : String)
  | unclosedQuotation (text : String)
  | danglingCondition
  | condition (fault : ConditionFault)
  | rule (fault : RuleFault)
  | template (cause : TemplateError)
  | build (cause : BuildError)
deriving DecidableEq, Repr

namespace DirectiveError

def message : DirectiveError → String
  | .missingIdentifier => "Missing expression identifier"
  | .invalidIdentifier text => "Invalid rule identifier " ++ quoted text
  | .invalidState text => "Invalid state rule " ++ quoted text
  | .unclosedQuotation text => "Quotation never closed in expression " ++ quoted text
  | .danglingCondition => "RewriteCond is not followed by a RewriteRule"
  | .condition fault => "Error when parsing condition rule: " ++ fault.message
  | .rule fault => "Error when parsing rewrite rule: " ++ fault.message
  | .template cause => "Invalid rewrite template: " ++ cause.message
  | .build cause => "Failed to build rule: " ++ cause.message

/-- Whether the line asks for a feature that is known and refused. -/
def isUnsupported : DirectiveError → Bool
  | .rule (.unsupportedFlag _) => true
  | .condition (.unsupportedFileTest _) => true
  | .build cause => cause.isUnsupported
  | _ => false

end DirectiveError

/-- A fault with the number of its line, counted from 1. -/
structure LineError where
  line : Nat
  cause : DirectiveError
deriving DecidableEq, Repr

def LineError.message (e : LineError) : String :=
  "Line " ++ toString e.line ++ ": " ++ e.cause.message

end Reroute
