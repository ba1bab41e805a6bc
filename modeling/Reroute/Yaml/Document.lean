/-
  From the tree of a YAML document to its settings.
  Nodes are numbered in the order in which they begin, and aliases become references. An anchor
  belongs to a slot, and slots are counted by the names that have been given so far: a name that
  is given again takes a new slot, which the next new name takes over.
-/
import Reroute.Setting
import Reroute.Yaml.Node

namespace Reroute.Yaml

open Reroute.Text

/-! ### Scalars -/

/-- Words that say that there is nothing. -/
def nullWords : List String := ["null", "Null", "NULL", "~"]

def nullTag : String := "tag:yaml.org,2002:null"

def integerTag : String := "tag:yaml.org,2002:int"

def digitsIn (base : Nat) (digits : List Char) : Option Nat :=
  if digits.isEmpty then none
  else
    (digits.mapM CharSet.hexDigit?).bind fun values =>
      if values.all (· < base) then some (values.foldl (fun n d => n * base + d) 0) else none

/-- The number that a scalar writes. Decimal digits do not begin with a zero. -/
def readNumber (text : List Char) : Option Nat :=
  let unsigned := if text.head? = some '+' then text.drop 1 else text
  match unsigned with
  | '0' :: 'x' :: digits => digitsIn 16 digits
  | '0' :: 'o' :: digits => digitsIn 8 digits
  | '0' :: 'b' :: digits => digitsIn 2 digits
  | '0' :: _ :: _ => none
  | digits => digitsIn 10 digits

/-- Whether a scalar counts as given. Only a plain one may be nothing. -/
def presenceOf (tag : Option String) (style : Style) (word : String) : Presence :=
  if style ≠ .plain then .present
  else if tag = none then
    if word = "" ∨ nullWords.contains word then .absent else .present
  else if tag = some nullTag then
    if nullWords.contains word then .absent else .contradictory
  else .present

/-- The setting of a scalar. A number is plain, or a block that is tagged as one. -/
def scalarSetting (tag : Option String) (style : Style) (text : List Char) : Setting :=
  let word := String.ofList text
  let numeric := style = .plain ∨ (style = .literal ∧ tag = some integerTag)
  .scalar { text := some word, number := if numeric then readNumber text else none
            presence := presenceOf tag style word, blank := style = .plain && text.isEmpty }

/-! ### References -/

/-- What anchors stand for. -/
structure Anchors where
  /-- How many nodes with anchors have begun. -/
  count : Nat := 0
  /-- The slots of names; every name comes once. -/
  slots : List (String × Nat) := []
  /-- The numbers of the nodes in the slots, the latest first. -/
  owners : List (Nat × Nat) := []
  /-- The settings of nodes by their numbers. -/
  settings : List (Nat × Setting) := []
deriving Repr

namespace Anchors

/-- Begins a node that may have an anchor. -/
def begin (a : Anchors) : Option String → Anchors
  | none => a
  | some name =>
    let slot := a.slots.length
    { a with count := a.count + 1
             slots := (name, slot) :: a.slots.filter fun entry => entry.1 != name
             owners := (slot, a.count) :: a.owners }

/-- Ends a node that began with the given anchors. -/
def finish (a : Anchors) (before : Anchors) (anchor : Option String) (s : Setting) : Anchors :=
  if anchor.isSome then { a with settings := (before.count, s) :: a.settings } else a

/-- The settings in the slots. -/
def targets (a : Anchors) : Targets :=
  a.owners.filterMap fun entry => (a.settings.lookup entry.2).map fun s => (entry.1, s)

end Anchors

namespace Node

mutual

/-- How many marks a node is made of: lists and groups have one at either end. -/
def marks : Node → Nat
  | .alias _ | .scalar .. => 1
  | .list _ items => 2 + itemMarks items
  | .group _ fields => 2 + fieldMarks fields

def itemMarks : List Node → Nat
  | [] => 0
  | item :: rest => marks item + itemMarks rest

def fieldMarks : List (Node × Node) → Nat
  | [] => 0
  | (key, value) :: rest => marks key + marks value + fieldMarks rest

end

mutual

/-- The setting of a node. An alias stands for the slot that its name has at this place. -/
def link : Node → Anchors → Option (Setting × Anchors)
  | .alias name, a => (a.slots.lookup name).map fun slot => (.reference slot, a)
  | .scalar anchor tag style text, a =>
    let s := scalarSetting tag style text
    some (s, (a.begin anchor).finish a anchor s)
  | .list anchor items, a =>
    (linkItems items (a.begin anchor)).map fun (settings, after) =>
      let s := Setting.list false settings
      (s, after.finish a anchor s)
  | .group anchor fields, a =>
    (linkFields fields (a.begin anchor)).map fun (settings, after) =>
      let s := Setting.group settings
      (s, after.finish a anchor s)

def linkItems : List Node → Anchors → Option (List Setting × Anchors)
  | [], a => some ([], a)
  | item :: rest, a =>
    match link item a with
    | none => none
    | some (s, a) => (linkItems rest a).map fun (more, a) => (s :: more, a)

def linkFields : List (Node × Node) → Anchors → Option (List (Setting × Setting) × Anchors)
  | [], a => some ([], a)
  | (key, value) :: rest, a =>
    match link key a with
    | none => none
    | some (k, a) =>
      match link value a with
      | none => none
      | some (v, a) => (linkFields rest a).map fun (more, a) => ((k, v) :: more, a)

end

end Node

/-- How many references may be followed for each mark of a document. -/
def referencesPerMark : Nat := 100

/-- Reads a text. -/
def read (text : String) : Option Settings := do
  let node ← Node.ofTokens? (← Token.ofText? text)
  match node with
  | none => some { root := .blank }
  | some node =>
    (node.link {}).map fun (root, anchors) =>
      { root, targets := anchors.targets, budget := referencesPerMark * node.marks }

end Reroute.Yaml
