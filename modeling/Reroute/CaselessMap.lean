/-
  Tables whose keys are the same when they differ in case only.
  A key keeps the spelling and the place it came with first; its value is replaced.
-/
import Reroute.Text.CaseMap

namespace Reroute

structure CaselessMap (α : Type) where
  entries : List (String × α) := []
deriving DecidableEq, Repr

namespace CaselessMap

variable {α : Type}

def empty : CaselessMap α := {}

def size (m : CaselessMap α) : Nat := m.entries.length

def isEmpty (m : CaselessMap α) : Bool := m.entries.isEmpty

/-- The value of a key in any case. -/
def find? (m : CaselessMap α) (key : String) : Option α :=
  (m.entries.find? fun entry => Text.sameFolded entry.1 key).map (·.2)

def contains (m : CaselessMap α) (key : String) : Bool := (m.find? key).isSome

/-- Replaces the value of a key, or adds the key at the end. -/
def insertIn (key : String) (value : α) : List (String × α) → List (String × α)
  | [] => [(key, value)]
  | entry :: rest =>
    if Text.sameFolded entry.1 key then (entry.1, value) :: rest
    else entry :: insertIn key value rest

def insert (m : CaselessMap α) (key : String) (value : α) : CaselessMap α :=
  ⟨insertIn key value m.entries⟩

/-- Adds a key unless it is there already. -/
def insertMissing (m : CaselessMap α) (key : String) (value : α) : CaselessMap α :=
  if m.contains key then m else m.insert key value

/-- Inserts pairs from the left, so that the last of equal keys gives the value. -/
def ofList (pairs : List (String × α)) : CaselessMap α :=
  pairs.foldl (fun m pair => m.insert pair.1 pair.2) empty

end CaselessMap

end Reroute
