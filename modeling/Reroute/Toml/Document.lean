/-
  TOML documents: tables under headers, dotted keys, and lists of tables.
  A table is defined once. A header may give fields to a table that only stands on the way to
  another one; dotted keys may add to a table that no header has defined.
-/
import Reroute.Toml.Lexeme

namespace Reroute.Toml

/-- How a table came to be. -/
inductive Origin
  /-- It stands on the way of a header. -/
  | implied
  /-- It stands on the way of a dotted key. -/
  | dotted
  /-- A header has defined it. -/
  | header
deriving DecidableEq, Repr

inductive Item
  | value (setting : Setting)
  | table (origin : Origin) (fields : List (String × Item))
  /-- A list of tables; the last one stands first. -/
  | tables (elements : List (List (String × Item)))

abbrev Fields := List (String × Item)

namespace Item

mutual

def toSetting : Item → Setting
  | .value setting => setting
  | .table _ fields => .group (fieldSettings fields)
  | .tables elements => .list true (elementSettings elements).reverse

def fieldSettings : List (String × Item) → List (Setting × Setting)
  | [] => []
  | (key, item) :: rest => (.ofText key, toSetting item) :: fieldSettings rest

def elementSettings : List (List (String × Item)) → List Setting
  | [] => []
  | fields :: rest => .group (fieldSettings fields) :: elementSettings rest

end

end Item

namespace Fields

def put (fields : Fields) (key : String) (item : Item) : Fields :=
  if fields.any fun f => f.1 == key then
    fields.map fun f => if f.1 == key then (key, item) else f
  else fields ++ [(key, item)]

/-- Changes the table at the end of a path, making tables on the way. A dotted key passes over
tables without a header of their own, and ends in one that dotted keys have made. -/
def change (dotted : Bool) (f : Fields → Option Fields) : List String → Fields → Option Fields
  | [], fields => f fields
  | key :: rest, fields =>
    match fields.lookup key with
    | none =>
      (change dotted f rest []).map fun inner =>
        fields.put key (.table (if dotted then .dotted else .implied) inner)
    | some (.table origin inner) =>
      if dotted && (origin == .header || (rest.isEmpty && origin != .dotted)) then none
      else (change dotted f rest inner).map fun inner => fields.put key (.table origin inner)
    | some (.tables (last :: before)) =>
      if dotted && rest.isEmpty then none
      else (change dotted f rest last).map fun last => fields.put key (.tables (last :: before))
    | some _ => none

/-- Defines a key that is not there yet. -/
def define (key : String) (setting : Setting) (fields : Fields) : Option Fields :=
  if (fields.lookup key).isSome then none else some (fields.put key (.value setting))

/-- Defines a dotted key. -/
def defineAt (path : List String) (setting : Setting) (fields : Fields) : Option Fields :=
  match path.getLast? with
  | none => none
  | some key => change true (define key setting) path.dropLast fields

def openHere (key : String) (fields : Fields) : Option Fields :=
  match fields.lookup key with
  | none => some (fields.put key (.table .header []))
  | some (.table .implied inner) => some (fields.put key (.table .header inner))
  | some _ => none

/-- Opens the table of a header. -/
def openTable (path : List String) (fields : Fields) : Option Fields :=
  match path.getLast? with
  | none => none
  | some key => change false (openHere key) path.dropLast fields

def appendHere (key : String) (fields : Fields) : Option Fields :=
  match fields.lookup key with
  | none => some (fields.put key (.tables [[]]))
  | some (.tables elements) => some (fields.put key (.tables ([] :: elements)))
  | some _ => none

/-- Opens a further table of a list. -/
def appendTable (path : List String) (fields : Fields) : Option Fields :=
  match path.getLast? with
  | none => none
  | some key => change false (appendHere key) path.dropLast fields

end Fields

/-- Skips gaps, comments and line breaks. -/
def skipLines (comment : Bool) : List Char → List Char
  | [] => []
  | c :: rest =>
    if isBreak c then skipLines false rest
    else if comment || isGap c then skipLines comment rest
    else if c = '#' then skipLines true rest
    else c :: rest

mutual

/-- Reads a value from its first character on. Lists and tables in braces may be nested `depth`
levels deep. -/
def readValue : Nat → Nat → List Char → Option (Setting × List Char)
  | 0, _, _ => none
  | fuel + 1, depth, cs =>
    match cs with
    | [] => none
    | c :: rest =>
      if c = '"' ∨ c = '\'' then
        (readString c cs).map fun (text, after) => (.ofText (String.ofList text), after)
      else if c = '[' ∨ c = '\x7b' then
        match depth with
        | 0 => none
        | depth + 1 =>
          if c = '[' then
            (readItems fuel depth [] (skipLines false rest)).map fun (items, after) =>
              (.list true items, after)
          else
            (readFields fuel depth [] (skipLines false rest)).map fun (fields, after) =>
              (.group (Item.fieldSettings fields), after)
      else
        let word := takeBare cs
        (readBare word).map fun setting => (setting, cs.drop word.length)

/-- Reads items up to the closing bracket; items so far stand in reverse. -/
def readItems : Nat → Nat → List Setting → List Char → Option (List Setting × List Char)
  | 0, _, _, _ => none
  | fuel + 1, depth, done, cs =>
    match cs with
    | ']' :: after => some (done.reverse, after)
    | _ => do
      let (item, rest) ← readValue fuel depth cs
      match skipLines false rest with
      | ',' :: rest => readItems fuel depth (item :: done) (skipLines false rest)
      | ']' :: after => some ((item :: done).reverse, after)
      | _ => none

/-- Reads fields up to the closing brace. Lines may end anywhere but within a key. -/
def readFields : Nat → Nat → Fields → List Char → Option (Fields × List Char)
  | 0, _, _, _ => none
  | fuel + 1, depth, done, cs =>
    match cs with
    | '\x7d' :: after => some (done, after)
    | _ => do
      let (path, rest) ← readKey (cs.length + 1) cs
      match skipLines false rest with
      | '=' :: rest =>
        let (setting, rest) ← readValue fuel depth (skipLines false rest)
        let done ← done.defineAt path setting
        match skipLines false rest with
        | ',' :: rest => readFields fuel depth done (skipLines false rest)
        | '\x7d' :: after => some (done, after)
        | _ => none
      | _ => none

end

/-- How deeply lists and tables in braces may be nested. -/
def maxDepth : Nat := 80

/-- What is left behind the end of a line; nothing but a comment may stand before it. -/
def endLine (cs : List Char) : Option (List Char) :=
  match skipGaps cs with
  | [] => some []
  | '#' :: rest => some (rest.dropWhile fun c => !isBreak c)
  | c :: rest => if isBreak c then some rest else none

/-- What has been read: all fields, and the path of the table that is open. -/
structure Reading where
  fields : Fields := []
  path : List String := []

/-- Reads a header from its bracket on. -/
def readHeader (r : Reading) (cs : List Char) : Option (Reading × List Char) := do
  let isList := cs.take 2 == ['[', '[']
  let (path, rest) ← readKey (cs.length + 1) (cs.drop (if isList then 2 else 1))
  match isList, rest with
  | true, ']' :: ']' :: rest =>
    let fields ← r.fields.appendTable path
    some (⟨fields, path⟩, rest)
  | false, ']' :: rest =>
    let fields ← r.fields.openTable path
    some (⟨fields, path⟩, rest)
  | _, _ => none

/-- Reads a key and its value into the table that is open. -/
def readPair (r : Reading) (cs : List Char) : Option (Reading × List Char) := do
  let (path, rest) ← readKey (cs.length + 1) cs
  match rest with
  | '=' :: rest =>
    let (setting, rest) ← readValue (2 * rest.length + 2) maxDepth (skipGaps rest)
    let fields ← Fields.change false (Fields.defineAt path setting) r.path r.fields
    some ({ r with fields }, rest)
  | _ => none

/-- Reads line by line. -/
def readLines : Nat → Reading → List Char → Option Fields
  | 0, _, _ => none
  | fuel + 1, r, cs =>
    match skipLines false cs with
    | [] => some r.fields
    | '[' :: rest => do
      let (r, rest) ← readHeader r ('[' :: rest)
      let rest ← endLine rest
      readLines fuel r rest
    | rest => do
      let (r, rest) ← readPair r rest
      let rest ← endLine rest
      readLines fuel r rest

/-- Reads a text. A byte order mark may stand in front. -/
def read (text : String) : Option Setting := do
  let cs := text.toList
  let cs ← shortenBreaks? (if cs.head? = some (Char.ofNat 0xFEFF) then cs.drop 1 else cs)
  if cs.all isAllowed then
    (readLines (cs.length + 1) {} cs).map fun fields => .group (Item.fieldSettings fields)
  else none

end Reroute.Toml
