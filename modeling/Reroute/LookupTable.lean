/-
  Tables that templates look keys up in: rewrite maps.
  Keys and table names are the same when they differ in case only.
-/
import Reroute.CaselessMap

namespace Reroute

structure LookupTable where
  name : String
  fallback : Option String := none
  entries : CaselessMap String := {}
deriving DecidableEq, Repr

namespace LookupTable

def insert (t : LookupTable) (key value : String) : LookupTable :=
  { t with entries := t.entries.insert key value }

def size (t : LookupTable) : Nat := t.entries.size

/-- The value of a key, else the fallback, else nothing. -/
def lookup (t : LookupTable) (key : String) : String :=
  ((t.entries.find? key) <|> t.fallback).getD ""

/-- A table with the given entries; the last of equal keys counts. -/
def ofEntries (name : String) (fallback : Option String) (entries : List (String × String)) :
    LookupTable :=
  ⟨name, fallback, .ofList entries⟩

end LookupTable

/-- Tables by name. -/
abbrev LookupTables := CaselessMap LookupTable

namespace LookupTables

/-- Adds a table in place of any of the same name. -/
def add (tables : LookupTables) (table : LookupTable) : LookupTables :=
  tables.insert table.name table

/-- Adds a table unless there is one of that name. -/
def addMissing (tables : LookupTables) (table : LookupTable) : LookupTables :=
  tables.insertMissing table.name table

def ofTables (tables : List LookupTable) : LookupTables :=
  tables.foldl add .empty

end LookupTables

end Reroute
