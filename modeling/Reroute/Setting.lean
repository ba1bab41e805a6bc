/-
  Settings: what configuration texts of any format hold.
  A scalar says of itself as what it may be read. A group whose keys all are texts can be read
  field by field; a field that is absent or left out has no value. A setting may be given a
  number and be referred to from elsewhere, also from within itself.
-/
namespace Reroute

/-- Whether an optional setting counts as given. -/
inductive Presence
  | present
  | absent
  /-- It is said to be nothing, but something is written. -/
  | contradictory
deriving DecidableEq, Repr

/-- A scalar, and what it may stand for. -/
structure Scalar where
  text : Option String := none
  number : Option Nat := none
  presence : Presence := .present
  /-- Whether nothing at all is written, so that it may stand for an empty list or group. -/
  blank : Bool := false
deriving DecidableEq, Repr

inductive Setting
  | scalar (value : Scalar)
  /-- A list. If it is positional, it may stand for the fields of a group as well, in their
  order. -/
  | list (positional : Bool) (items : List Setting)
  | group (fields : List (Setting × Setting))
  /-- The setting of a number. -/
  | reference (number : Nat)
deriving Repr

/-- Settings by their numbers; none of them is a reference. -/
abbrev Targets := List (Nat × Setting)

namespace Setting

/-- A reader of settings: it knows what is referred to, and uses up the number of references that
may still be followed. -/
abbrev Reading := ReaderT Targets (StateT Nat Option)

/-- What has been found, without following a reference. -/
def given {α : Type} (found : Option α) : Reading α :=
  fun _ left => found.map fun value => (value, left)

/-- Nothing written. -/
def blank : Setting := .scalar { text := some "", presence := .absent, blank := true }

def ofText (text : String) : Setting := .scalar { text := some text }

def ofNumber (n : Nat) : Setting := .scalar { number := some n }

/-- A scalar that stands for nothing that is asked for. -/
def other : Setting := .scalar {}

/-- What a setting refers to. -/
def resolve : Setting → Reading Setting
  | .reference number => fun targets left =>
    match left with
    | 0 => none
    | left + 1 => (targets.lookup number).map fun s => (s, left)
  | s => pure s

def presence : Setting → Presence
  | .scalar value => value.presence
  | _ => .present

def asText (s : Setting) : Reading String := do
  match ← s.resolve with
  | .scalar value => given value.text
  | _ => failure

/-- A number that is not above a bound. -/
def asNumber (bound : Nat) (s : Setting) : Reading Nat := do
  match ← s.resolve with
  | .scalar value => given (value.number.filter fun n => n ≤ bound)
  | _ => failure

def asList (s : Setting) : Reading (List Setting) := do
  match ← s.resolve with
  | .list _ items => pure items
  | .scalar value => if value.blank then pure [] else failure
  | _ => failure

/-- A field with its key, which has to be a text. -/
def keyed (entry : Setting × Setting) : Reading (String × Setting) := do
  let key ← entry.1.asText
  pure (key, entry.2)

/-- The fields of a group; all keys have to be texts. -/
def asFields (s : Setting) : Reading (List (String × Setting)) := do
  match ← s.resolve with
  | .group fields => fields.mapM keyed
  | .scalar value => if value.blank then pure [] else failure
  | _ => failure

/-- The fields of a group whose fields have names. A list in its place has to give the first
`needed` of them; what it holds beyond the last one means nothing. -/
def asRecord (names : List String) (needed : Nat) (s : Setting) :
    Reading (List (String × Setting)) := do
  match ← s.resolve with
  | .list true items => if items.length < needed then failure else pure (names.zip items)
  | s => s.asFields

/-- A reader of settings that may be left out. -/
def optional {α : Type} (reader : Setting → Reading α) (s : Setting) : Reading (Option α) := do
  let s ← s.resolve
  match s.presence with
  | .present => some <$> reader s
  | .absent => pure none
  | .contradictory => failure

/-- Reads a field that may be left out, and may not come twice. -/
def field? {α : Type} (fields : List (String × Setting)) (key : String)
    (reader : Setting → Reading α) : Reading (Option α) :=
  match fields.filter fun entry => entry.1 == key with
  | [] => pure none
  | [entry] => optional reader entry.2
  | _ => failure

/-- Replaces the value of a key, or adds the key at the end. -/
def assign {α : Type} (pairs : List (String × α)) (pair : String × α) : List (String × α) :=
  if pairs.any fun p => p.1 == pair.1 then
    pairs.map fun p => if p.1 == pair.1 then pair else p
  else pairs ++ [pair]

/-- Reads a group with free keys; the last of equal keys counts. -/
def asTable {α : Type} (reader : Setting → Reading α) (s : Setting) :
    Reading (List (String × α)) := do
  let fields ← s.asFields
  let pairs ← fields.mapM fun entry => do
    let value ← reader entry.2
    pure (entry.1, value)
  pure (pairs.foldl assign [])

end Setting

/-- The setting of a text, those that it refers to, and how many references may be followed in
reading it. -/
structure Settings where
  root : Setting
  targets : Targets := []
  budget : Nat := 0
deriving Repr

/-- What a reader makes of the setting of a text. -/
def Settings.read? {α : Type} (s : Settings) (reader : Setting → Setting.Reading α) : Option α :=
  (((reader s.root).run s.targets).run s.budget).map (·.1)

end Reroute
