/-
  Programs for regular expressions: instructions that name their successors.
  Code is laid down from the end to the start, so that a successor is known when it is needed;
  the one exception, the way back of a loop, is filled in afterwards.
-/
import Reroute.Regex.Expr

namespace Reroute.Regex

open Reroute.Text

inductive Inst
  | fail
  | accept
  | chars (set : CharSet) (next : Nat)
  | look (condition : Look) (next : Nat)
  | save (slot next : Nat)
  /-- Tries the first successor before the second. -/
  | split (preferred other : Nat)
deriving DecidableEq, Repr

abbrev Code := Array Inst

namespace Code

/-- Appends an instruction and answers where it stands. -/
def emit (code : Code) (inst : Inst) : Nat × Code := (code.size, code.push inst)

/-- The choice between a body and what follows it. -/
def choice (greedy : Bool) (body next : Nat) : Inst :=
  if greedy then .split body next else .split next body

/-- Lays `count` copies of a body in front of `next`. -/
def copies (body : Nat → Code → Nat × Code) : Nat → Nat → Code → Nat × Code
  | 0, next, code => (next, code)
  | count + 1, next, code =>
    let (entry, code) := body next code
    copies body count entry code

/-- Lays up to `count` nested optional copies of a body in front of `next`. -/
def optional (body : Nat → Code → Nat × Code) (greedy : Bool) (stop : Nat) :
    Nat → Nat → Code → Nat × Code
  | 0, next, code => (next, code)
  | count + 1, next, code =>
    let (entry, code) := body next code
    let (entry, code) := code.emit (choice greedy entry stop)
    optional body greedy stop count entry code

/-- A body that may be entered again at its end. Answers the entry of the body. -/
def loop (body : Nat → Code → Nat × Code) (greedy : Bool) (next : Nat) (code : Code) :
    Nat × Code :=
  let back := code.size
  let (entry, code) := body back (code.push .fail)
  (entry, code.setIfInBounds back (choice greedy entry next))

/-- Lays one instruction for each character in front of `next`. -/
def literal (text : List Char) (next : Nat) (code : Code) : Nat × Code :=
  text.reverse.foldl (fun (next, code) c => emit code (.chars (.single c) next)) (next, code)

/-- Lays the code of an expression in front of the instruction at `next`. A body that may match
the empty text is looped as "one or more, or none", which keeps the order of preference. -/
def ofExpr : Expr → Nat → Code → Nat × Code
  | .empty, next, code => (next, code)
  | .literal text, next, code => literal text next code
  | .chars set, next, code => code.emit (.chars set next)
  | .look condition, next, code => code.emit (.look condition next)
  | .seq a b, next, code =>
    let (entry, code) := ofExpr b next code
    ofExpr a entry code
  | .alt a b, next, code =>
    let (first, code) := ofExpr a next code
    let (second, code) := ofExpr b next code
    code.emit (.split first second)
  | .group index e, next, code =>
    let (stop, code) := code.emit (.save (2 * index + 1) next)
    let (entry, code) := ofExpr e stop code
    code.emit (.save (2 * index) entry)
  | .times min none greedy e, next, code =>
    let (entry, code) := loop (fun n c => ofExpr e n c) greedy next code
    if min = 0 then code.emit (choice greedy entry next)
    else copies (fun n c => ofExpr e n c) (min - 1) entry code
  | .times min (some max) greedy e, next, code =>
    let (entry, code) := optional (fun n c => ofExpr e n c) greedy next (max - min) next code
    copies (fun n c => ofExpr e n c) min entry code

end Code

/-- Code with its entry. -/
structure Program where
  code : Code
  entry : Nat
deriving Repr

/-- The program that accepts after the expression, which is kept as group 0. -/
def Program.ofExpr (e : Expr) : Program :=
  let (entry, code) := Code.ofExpr (.group 0 e) 0 #[.accept]
  ⟨code, entry⟩

end Reroute.Regex
