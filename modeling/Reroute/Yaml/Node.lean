/-
  From the tokens of a YAML text to the tree of its one document.
  What is left out is an empty plain scalar. Anchors and aliases stand by their names, tags with
  their handles replaced.
-/
import Reroute.Yaml.Layout

namespace Reroute.Yaml

inductive Node
  | alias (name : String)
  | scalar (anchor tag : Option String) (style : Style) (text : List Char)
  | list (anchor : Option String) (items : List Node)
  | group (anchor : Option String) (fields : List (Node × Node))
deriving Repr

namespace Node

/-- The node that stands where nothing is written. -/
def nothing : Node := .scalar none none .plain []

/-! ### Properties -/

/-- What the handles of tags stand for. -/
abbrev Handles := List (List Char × List Char)

def standardHandles : Handles := [(['!'], ['!']), (['!', '!'], "tag:yaml.org,2002:".toList)]

/-- The tag with its handle replaced. -/
def fullTag (handles : Handles) (handle suffix : List Char) : Option String :=
  if handle.isEmpty then some (String.ofList suffix)
  else (handles.lookup handle).map fun stem => String.ofList (stem ++ suffix)

/-- What may stand in front of a node. -/
structure Properties where
  anchor : Option String := none
  tag : Option String := none
deriving DecidableEq, Repr

/-- Reads an anchor and a tag in any order. -/
def readProperties (handles : Handles) : List Token → Option (Properties × List Token)
  | .anchor name :: .tag handle suffix :: rest =>
    (fullTag handles handle suffix).map fun tag => (⟨some name, some tag⟩, rest)
  | .tag handle suffix :: .anchor name :: rest =>
    (fullTag handles handle suffix).map fun tag => (⟨some name, some tag⟩, rest)
  | .anchor name :: rest => some (⟨some name, none⟩, rest)
  | .tag handle suffix :: rest =>
    (fullTag handles handle suffix).map fun tag => (⟨none, some tag⟩, rest)
  | rest => some ({}, rest)

/-- A scalar that is written. A lone mark says no more of it than no tag. -/
def written (p : Properties) (style : Style) (text : List Char) : Node :=
  .scalar p.anchor (p.tag.filter (· != "!")) style text

/-! ### Nodes

Where a node may be left out, the tokens that can follow it tell whether it is. -/

/-- Whether the next token is one of those given. -/
def beginsWith (ts : List Token) (tokens : List Token) : Bool := ts.head?.any tokens.contains

mutual

/-- Reads a node. By indentation there are lists and groups outside of brackets alone; the items
of a list that is the value of a field need no further indentation. -/
def read (handles : Handles) : Nat → Bool → Bool → List Token → Option (Node × List Token)
  | 0, _, _, _ => none
  | fuel + 1, block, flush, ts =>
    match ts with
    | .alias name :: rest => some (.alias name, rest)
    | _ => do
      let (p, ts) ← readProperties handles ts
      match ts with
      | .scalar style text :: rest => some (written p style text, rest)
      | .bracketOpen :: rest =>
        (readBrackets handles fuel true [] rest).map fun (items, rest) =>
          (.list p.anchor items, rest)
      | .braceOpen :: rest =>
        (readBraces handles fuel true [] rest).map fun (fields, rest) =>
          (.group p.anchor fields, rest)
      | ts =>
        if flush && beginsWith ts [.item] then
          (readFlush handles fuel [] ts).map fun (items, rest) => (.list p.anchor items, rest)
        else if block && beginsWith ts [.listStart] then
          (readItems handles fuel [] (ts.drop 1)).map fun (items, rest) =>
            (.list p.anchor items, rest)
        else if block && beginsWith ts [.groupStart] then
          (readFields handles fuel [] (ts.drop 1)).map fun (fields, rest) =>
            (.group p.anchor fields, rest)
        else if p = {} then none
        else some (.scalar p.anchor p.tag .plain [], ts)

/-- Reads a node unless one of the given tokens follows. -/
def readUnless (handles : Handles) : Nat → Bool → Bool → List Token → List Token →
    Option (Node × List Token)
  | 0, _, _, _, _ => none
  | fuel + 1, block, flush, stops, ts =>
    if beginsWith ts stops then some (nothing, ts) else read handles fuel block flush ts

/-- Reads the items of a list by indentation, and its end. -/
def readItems (handles : Handles) : Nat → List Node → List Token →
    Option (List Node × List Token)
  | 0, _, _ => none
  | fuel + 1, done, ts =>
    match ts with
    | .item :: rest => do
      let (item, rest) ← readUnless handles fuel true false [.item, .blockEnd] rest
      readItems handles fuel (item :: done) rest
    | .blockEnd :: rest => some (done.reverse, rest)
    | _ => none

/-- Reads the items of a list that is not indented; it ends where no further item stands. -/
def readFlush (handles : Handles) : Nat → List Node → List Token →
    Option (List Node × List Token)
  | 0, _, _ => none
  | fuel + 1, done, ts =>
    match ts with
    | .item :: rest => do
      let (item, rest) ←
        readUnless handles fuel true false [.item, .key, .value, .blockEnd] rest
      readFlush handles fuel (item :: done) rest
    | _ => some (done.reverse, ts)

/-- Reads the value of a field, if a colon stands here. -/
def readValue (handles : Handles) : Nat → Bool → List Token → List Token →
    Option (Node × List Token)
  | 0, _, _, _ => none
  | fuel + 1, block, stops, ts =>
    match ts with
    | .value :: rest => readUnless handles fuel block block stops rest
    | _ => some (nothing, ts)

/-- Reads the fields of a group by indentation, and its end. -/
def readFields (handles : Handles) : Nat → List (Node × Node) → List Token →
    Option (List (Node × Node) × List Token)
  | 0, _, _ => none
  | fuel + 1, done, ts =>
    match ts with
    | .key :: rest => do
      let (key, rest) ← readUnless handles fuel true true [.key, .value, .blockEnd] rest
      let (value, rest) ← readValue handles fuel true [.key, .value, .blockEnd] rest
      readFields handles fuel ((key, value) :: done) rest
    | .blockEnd :: rest => some (done.reverse, rest)
    | _ => none

/-- Reads items up to the closing bracket, with a comma before each but the first. A field among
them is a group of its own; one without a key hides the token behind its mark. -/
def readBrackets (handles : Handles) : Nat → Bool → List Node → List Token →
    Option (List Node × List Token)
  | 0, _, _, _ => none
  | fuel + 1, first, done, ts =>
    if beginsWith ts [.bracketClose] then some (done.reverse, ts.drop 1)
    else do
      let ts ← if first then some ts else if beginsWith ts [.comma] then some (ts.drop 1) else none
      match ts with
      | .bracketClose :: rest => some (done.reverse, rest)
      | .key :: rest => do
        let (key, rest) ←
          if beginsWith rest [.value, .comma, .bracketClose] then some (nothing, rest.drop 1)
          else read handles fuel false false rest
        let (value, rest) ← readValue handles fuel false [.comma, .bracketClose] rest
        readBrackets handles fuel false (.group none [(key, value)] :: done) rest
      | _ => do
        let (item, rest) ← read handles fuel false false ts
        readBrackets handles fuel false (item :: done) rest

/-- Reads fields up to the closing brace, with a comma before each but the first. What has no
mark of a key has no value. -/
def readBraces (handles : Handles) : Nat → Bool → List (Node × Node) → List Token →
    Option (List (Node × Node) × List Token)
  | 0, _, _, _ => none
  | fuel + 1, first, done, ts =>
    if beginsWith ts [.braceClose] then some (done.reverse, ts.drop 1)
    else do
      let ts ← if first then some ts else if beginsWith ts [.comma] then some (ts.drop 1) else none
      match ts with
      | .braceClose :: rest => some (done.reverse, rest)
      | .key :: rest => do
        let (key, rest) ←
          readUnless handles fuel false false [.value, .comma, .braceClose] rest
        let (value, rest) ← readValue handles fuel false [.comma, .braceClose] rest
        readBraces handles fuel false ((key, value) :: done) rest
      | _ => do
        let (key, rest) ← read handles fuel false false ts
        readBraces handles fuel false ((key, nothing) :: done) rest

end

/-! ### Documents -/

/-- What directives say. -/
structure Prologue where
  versioned : Bool := false
  handles : Handles := []
deriving DecidableEq, Repr

/-- Reads directives. The version is given once at most, and so is every handle. -/
def readDirectives (p : Prologue) : List Token → Option (Prologue × List Token)
  | .version major minor :: rest =>
    if p.versioned || major != 1 || (minor != 1 && minor != 2) then none
    else readDirectives { p with versioned := true } rest
  | .handle name stem :: rest =>
    if (p.handles.lookup name).isSome then none
    else readDirectives { p with handles := (name, stem) :: p.handles } rest
  | ts => some (p, ts)

/-- The tokens behind which a document is left out, next to the end of the text. -/
def endsDocument (ts : List Token) : Bool :=
  match ts with
  | [] | .version _ _ :: _ | .handle _ _ :: _ | .documentStart :: _ | .documentEnd :: _ => true
  | _ => false

/-- Reads a document behind its start, if it has a mark of its start, and its end. -/
def readContent (handles : Handles) (marked : Bool) (ts : List Token) :
    Option (Node × List Token) :=
  if marked && endsDocument ts then some (nothing, ts)
  else read (handles ++ standardHandles) (4 * ts.length + 4) true false ts

/-- The one document of a text. There is none in a text without tokens. -/
def ofTokens? (ts : List Token) : Option (Option Node) :=
  if ts.isEmpty then some none
  else do
    let (p, rest) ← readDirectives {} ts
    let marked := beginsWith rest [.documentStart]
    if rest.length < ts.length && !marked then none
    else
      let (node, rest) ← readContent p.handles marked (if marked then rest.drop 1 else rest)
      if rest.all (· == .documentEnd) then some (some node) else none

end Node

end Reroute.Yaml
