/-
  The memory that the automaton of an expression takes. It works on bytes, and there are two of
  it: one reads forward and keeps the groups, the other reads backward and does not. A state
  takes 32 bytes, one byte range that leads on from a state with several takes 8 more, and one
  successor of a state that offers several without reading takes 4 more.
-/
import Reroute.Regex.ByteRange
import Reroute.Regex.Expr
import Reroute.Text.Bytes

namespace Reroute.Regex

open Reroute.Text

inductive Direction
  | forward
  | backward
deriving DecidableEq, Repr

/-- A byte range and the state that it leads to. -/
structure Arrow where
  range : ByteRange
  target : Nat
deriving DecidableEq, Repr

/-- What an automaton takes so far. States are numbered as they are laid down. -/
structure Footprint where
  states : Nat := 0
  /-- The memory that states hold apart from their own. -/
  attached : Nat := 0
deriving DecidableEq, Repr

namespace Footprint

/-- The memory that an automaton may take, in bytes. -/
def limit : Nat := 10 * Nat.pow 2 20

def bytes (f : Footprint) : Nat := 32 * f.states + f.attached

/-- A footprint after some step, unless it is too large. -/
def within? (f : Footprint) : Option Footprint := if f.bytes ≤ limit then some f else none

/-- Lays down states that together hold `attached` bytes. -/
def add (f : Footprint) (states attached : Nat) : Option Footprint :=
  (⟨f.states + states, f.attached + attached⟩ : Footprint).within?

/-- Leads on from the end of a part; an end that offers several successors lists one more. -/
def leadOn (f : Footprint) (offers : Bool) : Option Footprint :=
  if offers then f.add 0 4 else some f

/-! Sets of characters -/

/-- The slot of a table with `slots` slots that some numbers belong to. -/
def slotOf (slots : Nat) (numbers : List Nat) : Nat :=
  let mixed := numbers.foldl
    (fun (h : UInt64) n => (h ^^^ UInt64.ofNat n) * 1099511628211) 14695981039346656037
  mixed.toNat % slots

/-- States that were laid down before, by what they are made from. Every slot remembers one. -/
abbrev Known (α : Type) := Array (Option (α × Nat))

def Known.find? {α : Type} [BEq α] (known : Known α) (slot : Nat) (key : α) : Option Nat :=
  match known.getD slot none with
  | some (other, state) => if other == key then some state else none
  | none => none

/-- A state whose byte ranges are not all known yet: the last one has no target. -/
structure OpenState where
  arrows : List Arrow := []
  last : Option ByteRange := none
deriving Repr

/-- All arrows of a state, once the target of the last one is known. -/
def OpenState.close (s : OpenState) (target : Nat) : List Arrow :=
  match s.last with
  | some range => s.arrows ++ [⟨range, target⟩]
  | none => s.arrows

/-- The state with the given arrows: a known one, or a new one. -/
def share (f : Footprint) (known : Known (List Arrow)) (arrows : List Arrow) :
    Option (Nat × Footprint × Known (List Arrow)) :=
  let slot := slotOf 10000 (arrows.flatMap fun a => [a.range.first, a.range.last, a.target])
  match known.find? slot arrows with
  | some state => some (state, f, known)
  | none =>
    (f.add 1 (8 * arrows.length)).map fun after =>
      (f.states, after, known.setIfInBounds slot (some (arrows, f.states)))

/-- Closes states from the last to the first, each the target of the one before; answers the
state that the first became. -/
def closeStates (f : Footprint) (known : Known (List Arrow)) (stop : Nat) :
    List OpenState → Option (Nat × Footprint × Known (List Arrow))
  | [] => some (stop, f, known)
  | s :: deeper =>
    (closeStates f known stop deeper).bind fun (target, f, known) =>
      f.share known (s.close target)

/-- Adds a sequence to the open states, the first of which is where all sequences begin. What
the sequence shares with the one before it stays open. -/
def addSequence (f : Footprint) (known : Known (List Arrow)) (stop : Nat) :
    List OpenState → List ByteRange → Option (List OpenState × Footprint × Known (List Arrow))
  | s :: deeper, range :: ranges =>
    if s.last = some range then
      (addSequence f known stop deeper ranges).map fun (deeper, rest) => (s :: deeper, rest)
    else
      (closeStates f known stop deeper).map fun (target, f, known) =>
        (⟨s.close target, some range⟩ :: ranges.map fun r => ⟨[], some r⟩, f, known)
  | states, _ => some (states, f, known)

def addSequences (f : Footprint) (known : Known (List Arrow)) (stop : Nat) :
    List OpenState → List (List ByteRange) → Option Footprint
  | states, [] => (closeStates f known stop states).map fun (_, f, _) => f
  | states, ranges :: rest =>
    (addSequence f known stop states ranges).bind fun (states, f, known) =>
      addSequences f known stop states rest

/-- A set read forward: sequences are laid from their ends, so that equal ends are shared. -/
def addSetForward (f : Footprint) (set : CharSet) : Option Footprint :=
  (f.add 1 0).bind fun after =>
    addSequences after (Array.replicate 10000 none) f.states [{}] (ByteRange.sequences set)

/-- Lays a sequence of byte ranges before the state `stop`, backward. -/
def addSteps (f : Footprint) (known : Known (Nat × ByteRange)) (stop : Nat) :
    List ByteRange → Option (Footprint × Known (Nat × ByteRange))
  | [] => some (f, known)
  | range :: rest =>
    let slot := slotOf 1000 [stop, range.first, range.last]
    match known.find? slot (stop, range) with
    | some state => addSteps f known state rest
    | none =>
      (f.add 1 0).bind fun after =>
        addSteps after (known.setIfInBounds slot (some ((stop, range), f.states))) f.states rest

def addAllSteps (f : Footprint) (known : Known (Nat × ByteRange)) (stop : Nat) :
    List (List ByteRange) → Option Footprint
  | [] => some f
  | ranges :: rest =>
    (addSteps f known stop ranges).bind fun (f, known) =>
      (f.leadOn true).bind fun f => addAllSteps f known stop rest

/-- A set read backward: sequences share how they begin, and one state offers them all. -/
def addSetBackward (f : Footprint) (set : CharSet) : Option Footprint :=
  (f.add 2 0).bind fun after =>
    addAllSteps after (Array.replicate 1000 none) (f.states + 1) (ByteRange.sequences set)

/-- One character of a set. ASCII characters are single bytes, which one state reads. -/
def addSet (f : Footprint) (direction : Direction) (set : CharSet) : Option Footprint :=
  if set.runs.all fun run => run.2 ≤ 0x7F then f.add 2 (8 * set.runs.size)
  else
    match direction with
    | .forward => f.addSetForward set
    | .backward => f.addSetBackward set

/-! Alternatives that are all literals -/

/-- Words from one state on, up to those that end there: each part holds the words before the
next end. An end counts once as long as no word has gone on. -/
def splitAtEnds (words : List (List Nat)) : List (List (List Nat)) :=
  match words.dropWhile List.isEmpty with
  | [] => [[]]
  | rest =>
    let parts := rest.splitOnP List.isEmpty
    if words.head?.any List.isEmpty then [] :: parts else parts

/-- Words by their first byte, in the order in which these come first, without it. -/
def byFirst (words : List (List Nat)) : List (List (List Nat)) :=
  let firsts := (words.filterMap List.head?).eraseDups
  firsts.map fun b => (words.filter fun w => w.head? == some b).map List.tail

/-- States and attached memory for words that begin alike; `depth` bounds their length. The
states of a part read its first bytes, and one more offers the parts and the ends. -/
def ofWords : Nat → List (List Nat) → Footprint
  | 0, _ => {}
  | depth + 1, words =>
    if words.all List.isEmpty then {}
    else
      let parts := (splitAtEnds words).map byFirst
      let reading := (parts.filter fun part => !part.isEmpty).map List.length
      let arrows := (reading.filter (1 < ·)).sum
      let offered := reading.length + (parts.length - 1)
      let deeper := parts.flatten.map (ofWords depth)
      ⟨reading.length + 1 + (deeper.map (·.states)).sum,
        8 * arrows + 4 * offered + (deeper.map (·.attached)).sum⟩

/-- The texts of alternatives that are all literals. -/
def literals? : List Expr → Option (List (List Char))
  | [] => some []
  | .literal text :: rest => (literals? rest).map (text :: ·)
  | _ => none

/-- A choice of literals, which share how they begin, or how they end. -/
def addWords (f : Footprint) (direction : Direction) (texts : List (List Char)) :
    Option Footprint :=
  let words := texts.map fun text => (bytesOf text).map UInt8.toNat
  let words := if direction = .backward then words.map List.reverse else words
  let deepest := words.foldl (fun d w => max d w.length) 0
  let all := ofWords (deepest + 1) words
  f.add (all.states + 1) all.attached

/-! Expressions

A part answers the footprint behind it and whether its end offers several successors. -/

/-- Lays down a part a number of times, each behind the one before. -/
def copies (part : Footprint → Option (Footprint × Bool)) :
    Nat → Footprint → Bool → Option (Footprint × Bool)
  | 0, f, offers => some (f, offers)
  | count + 1, f, offers => do
    let (f, next) ← part f
    let f ← f.leadOn offers
    copies part count f next

/-- Exactly so many copies; none is a state of its own. -/
def exactly (part : Footprint → Option (Footprint × Bool)) (count : Nat) (f : Footprint) :
    Option (Footprint × Bool) :=
  if count = 0 then (f.add 1 0).map fun f => (f, false) else copies part count f false

/-- Copies each of which may be left out together with those behind it. -/
def optional (part : Footprint → Option (Footprint × Bool)) :
    Nat → Footprint → Bool → Option (Footprint × Bool)
  | 0, f, offers => (f.leadOn offers).map fun f => (f, false)
  | count + 1, f, offers => do
    let f ← f.add 1 8
    let (f, next) ← part f
    let f ← f.leadOn offers
    optional part count f next

/-- A repetition. A body that may match nothing is laid down as "one or more, or none". -/
def repeated (part : Footprint → Option (Footprint × Bool)) (mayBeEmpty : Bool) (min : Nat)
    (max : Option Nat) (f : Footprint) : Option (Footprint × Bool) :=
  match min, max with
  | 0, some 1 => do
    let f ← f.add 1 0
    let (f, offers) ← part f
    let f ← f.add 1 8
    (f.leadOn offers).map fun f => (f, false)
  | 0, none =>
    if mayBeEmpty then do
      let (f, offers) ← part f
      let f ← f.add 3 16
      (f.leadOn offers).map fun f => (f, false)
    else do
      let f ← f.add 1 4
      let (f, offers) ← part f
      (f.leadOn offers).map fun f => (f, true)
  | min + 1, none => do
    let (f, before) ← if min = 0 then some (f, false) else exactly part min f
    let (f, offers) ← part f
    let f ← f.leadOn before
    let f ← f.add 1 4
    (f.leadOn offers).map fun f => (f, true)
  | min, some max => do
    let (f, offers) ← exactly part min f
    if min = max then some (f, offers)
    else do
      let f ← f.add 1 0
      optional part (max - min) f offers

/-- Where a part stands among alternatives. -/
inductive Place
  | alone
  | second
  | later
deriving DecidableEq, Repr

/-- Joins a part to the alternatives before it. The second one brings the state that offers
them and the one where they meet. -/
def join (place : Place) (f : Footprint) (offers : Bool) : Option (Footprint × Bool) :=
  match place with
  | .alone => some (f, offers)
  | .second => do
    let f ← f.add 2 8
    (f.leadOn offers).map fun f => (f, false)
  | .later => do
    let f ← f.add 0 4
    (f.leadOn offers).map fun f => (f, false)

def addExpr (direction : Direction) : Expr → Place → Footprint → Option (Footprint × Bool)
  | .empty, place, f => (f.add 1 0).bind fun f => join place f false
  | .literal text, place, f => (f.add (byteLength text) 0).bind fun f => join place f false
  | .chars set, place, f => (f.addSet direction set).bind fun f => join place f false
  | .look _, place, f => (f.add 1 0).bind fun f => join place f false
  | .seq a b, place, f => do
    match direction with
    | .forward =>
      let (f, before) ← addExpr direction a .alone f
      let (f, offers) ← addExpr direction b .alone f
      let f ← f.leadOn before
      join place f offers
    | .backward =>
      let (f, before) ← addExpr direction b .alone f
      let (f, offers) ← addExpr direction a .alone f
      let f ← f.leadOn before
      join place f offers
  | .alt a b, .alone, f =>
    match literals? (a :: b.branches) with
    | some texts => (f.addWords direction texts).map fun f => (f, false)
    | none => do
      let (f, offers) ← addExpr direction a .alone f
      let f ← f.leadOn offers
      addExpr direction b .second f
  | .alt a b, place, f => do
    let (f, offers) ← addExpr direction a .alone f
    let (f, _) ← join place f offers
    addExpr direction b .later f
  | .group _ e, place, f => do
    match direction with
    | .forward =>
      let f ← f.add 1 0
      let (f, offers) ← addExpr direction e .alone f
      let f ← f.add 1 0
      let f ← f.leadOn offers
      join place f false
    | .backward => addExpr direction e place f
  | .times min max _ e, place, f => do
    let mayBeEmpty := !e.minLength.any (0 < ·)
    let (f, offers) ← repeated (addExpr direction e .alone) mayBeEmpty min max f
    join place f offers

/-- The automaton for an expression. Unless all matches begin at the end that it reads from,
it first skips any number of bytes. -/
def ofExpr? (direction : Direction) (e : Expr) : Option Footprint := do
  let anchored :=
    match direction with
    | .forward => e.anchoredAtStart
    | .backward => e.anchoredAtEnd
  let f : Footprint ← if anchored then add {} 1 0 else add {} 3 16
  let (f, offers) ← addExpr direction (.group 0 e) .alone f
  let f ← f.add 1 0
  f.leadOn offers

/-- Whether both automata of an expression are small enough. -/
def fits (e : Expr) : Bool :=
  (ofExpr? .forward e).isSome && (ofExpr? .backward e).isSome

end Footprint

end Reroute.Regex
