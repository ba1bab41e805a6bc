/-
  Regular expressions as trees.
  Alternatives are ordered: the first that leads to a match wins. Groups carry their number,
  and keep it where an earlier group is dropped, as it may be repeated zero times only.
  Sequences and alternatives lean to the right, and the functions that build them keep them in
  a normal form: characters in a row are one literal, alternatives that are single characters
  or sets of them are one set, and what all alternatives begin with is taken out in front.
-/
import Reroute.Text.CharSet

namespace Reroute.Regex

open Reroute.Text

/-- Which places of a word an assertion accepts. -/
inductive WordEdge
  | boundary
  | inside
  | start
  | stop
  | startHalf
  | stopHalf
deriving DecidableEq, Repr

/-- Conditions on a place between two characters. -/
inductive Look
  | textStart
  | textEnd
  | lineStart
  | lineEnd
  | carriageLineStart
  | carriageLineEnd
  | word (edge : WordEdge) (unicode : Bool)
deriving DecidableEq, Repr

inductive Expr
  | empty
  | literal (text : List Char)
  | chars (set : CharSet)
  | look (condition : Look)
  | seq (first second : Expr)
  | alt (preferred other : Expr)
  | group (index : Nat) (inner : Expr)
  /-- At least `min` and at most `max` times; greedy prefers more. -/
  | times (min : Nat) (max : Option Nat) (greedy : Bool) (inner : Expr)
deriving DecidableEq, Repr

namespace Expr

/-- Whether every match is empty. -/
def zeroWidth : Expr → Bool
  | .empty => true
  | .literal text => text.isEmpty
  | .chars _ => false
  | .look _ => true
  | .seq a b => a.zeroWidth && b.zeroWidth
  | .alt a b => a.zeroWidth && b.zeroWidth
  | .group _ e => e.zeroWidth
  | .times _ _ _ e => e.zeroWidth

/-- The length of the shortest match; a set without members has none, and nothing that holds
one does. -/
def minLength : Expr → Option Nat
  | .empty => some 0
  | .literal text => some text.length
  | .chars set => if set.isEmpty then none else some 1
  | .look _ => some 0
  | .seq a b => a.minLength.bind fun m => b.minLength.map (m + ·)
  | .alt a b => a.minLength.bind fun m => b.minLength.map (Nat.min m)
  | .group _ e => e.minLength
  | .times min _ _ e => e.minLength.map (· * min)

/-- Whether every match begins where the text does. -/
def anchoredAtStart : Expr → Bool
  | .look .textStart => true
  | .seq a b => a.anchoredAtStart || (a.zeroWidth && b.anchoredAtStart)
  | .alt a b => a.anchoredAtStart && b.anchoredAtStart
  | .group _ e => e.anchoredAtStart
  | .times min _ _ e => 0 < min && e.anchoredAtStart
  | _ => false

/-- Whether every match ends where the text does. -/
def anchoredAtEnd : Expr → Bool
  | .look .textEnd => true
  | .seq a b => b.anchoredAtEnd || (b.zeroWidth && a.anchoredAtEnd)
  | .alt a b => a.anchoredAtEnd && b.anchoredAtEnd
  | .group _ e => e.anchoredAtEnd
  | .times min _ _ e => 0 < min && e.anchoredAtEnd
  | _ => false

/-- The largest group number in the tree. -/
def maxGroup : Expr → Nat
  | .empty | .literal _ | .chars _ | .look _ => 0
  | .seq a b => max a.maxGroup b.maxGroup
  | .alt a b => max a.maxGroup b.maxGroup
  | .group n e => max n e.maxGroup
  | .times _ _ _ e => e.maxGroup

/-- How many groups the tree holds. -/
def groupCount : Expr → Nat
  | .empty | .literal _ | .chars _ | .look _ => 0
  | .seq a b => a.groupCount + b.groupCount
  | .alt a b => a.groupCount + b.groupCount
  | .group _ e => e.groupCount + 1
  | .times _ _ _ e => e.groupCount

/-- One character of a set; a set of one is a literal. -/
def oneOf (set : CharSet) : Expr :=
  match set.runs.toList with
  | [(first, last)] => if first = last then .literal [Char.ofNat first] else .chars set
  | _ => .chars set

/-- A repetition; repeating what matches only the empty text is the same as trying it once,
and none or exactly one time needs no repetition. -/
def repeated (min : Nat) (max : Option Nat) (greedy : Bool) (e : Expr) : Expr :=
  let low := if e.zeroWidth then Nat.min min 1 else min
  let high := if e.zeroWidth then some (Nat.min (max.getD 1) 1) else max
  if low = 0 ∧ high = some 0 then .empty
  else if low = 1 ∧ high = some 1 then e
  else .times low high greedy e

/-- What follows one another in an expression. -/
def parts : Expr → List Expr
  | .empty => []
  | .seq a b => a :: b.parts
  | e => [e]

/-- Makes literals that meet one literal. -/
def joinLiterals : List Expr → List Expr
  | [] => []
  | .literal text :: rest =>
    match joinLiterals rest with
    | .literal more :: tail => .literal (text ++ more) :: tail
    | tail => .literal text :: tail
  | e :: rest => e :: joinLiterals rest

/-- The sequence of the given parts. -/
def chain : List Expr → Expr
  | [] => .empty
  | [e] => e
  | e :: rest => .seq e (chain rest)

/-- Several expressions one after another. -/
def seqOf (es : List Expr) : Expr := chain (joinLiterals (es.flatMap parts))

/-- The alternatives of an expression in order of preference. -/
def branches : Expr → List Expr
  | .alt a b => a :: b.branches
  | e => [e]

/-- The characters of alternatives that are one character each. -/
def singles? : List Expr → Option (List Char)
  | [] => some []
  | .literal [c] :: rest => (singles? rest).map (c :: ·)
  | _ => none

/-- The sets of alternatives that are one character of a set each. -/
def sets? : List Expr → Option (List CharSet)
  | [] => some []
  | .chars set :: rest => (sets? rest).map (set :: ·)
  | _ => none

/-- The choice between the given alternatives. -/
def choice : List Expr → Expr
  | [] => .chars .empty
  | [e] => e
  | e :: rest => .alt e (choice rest)

/-- Alternatives as one set, if each of them is a character or each is a set. -/
def united? (es : List Expr) : Option Expr :=
  match singles? es with
  | some cs => some (oneOf (.ofRuns (cs.map fun c => (c.toNat, c.toNat))))
  | none => (sets? es).map fun sets => oneOf (.unions sets)

/-- The longest list that both lists begin with. -/
def commonStart : List Expr → List Expr → List Expr
  | a :: as, b :: bs => if a = b then a :: commonStart as bs else []
  | _, _ => []

/-- What alternatives begin with that are sequences of several parts each. -/
def sharedStart : List Expr → List Expr
  | [] => []
  | first :: rest =>
    if (first :: rest).all fun e => 1 < e.parts.length then
      rest.foldl (fun start e => commonStart start e.parts) first.parts
    else []

/-- Alternatives in order of preference. -/
def altOf (es : List Expr) : Expr :=
  let all := es.flatMap branches
  match united? all with
  | some e => e
  | none =>
    match sharedStart all with
    | [] => choice all
    | start =>
      let rests := (all.map fun e => chain (e.parts.drop start.length)).flatMap branches
      seqOf (start ++ [(united? rests).getD (choice rests)])

end Expr

end Reroute.Regex
