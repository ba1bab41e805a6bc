/-
  Character classes that have names, and the closure of a set under case.
  Names of properties are compared without case, blanks, hyphens, underscores and a leading "is".
-/
import Reroute.Text.Age
import Reroute.Text.Break
import Reroute.Text.CaseMap

namespace Reroute.Regex

open Reroute.Text

/-- Pairs of a code point and its simple case folding, where the two differ. -/
def foldPairs : List (Nat × Nat) :=
  CaseRun.toFolded.toList.flatMap fun run =>
    (List.range ((run.last - run.first) / run.step + 1)).map fun i =>
      let code := run.first + i * run.step
      (code, ((code : Int) + run.shift).toNat)

/-- The set with everything that is the same but for case. -/
def closeUnderCase (s : CharSet) : CharSet :=
  let hits := (foldPairs.filter fun pair => s.containsCode pair.1 || s.containsCode pair.2).map
    fun pair => (pair.2, pair.2)
  if hits.isEmpty then s
  else
    let folded := CharSet.ofRuns hits
    let sources := (foldPairs.filter fun pair => folded.containsCode pair.2).map
      fun pair => (pair.1, pair.1)
    CharSet.unions [s, folded, .ofRuns sources]

/-- The set with both cases of its ASCII letters. -/
def closeUnderAsciiCase (s : CharSet) : CharSet :=
  let upper := (List.range 26).map (· + 65)
  let both := upper.filter fun n => s.containsCode n || s.containsCode (n + 32)
  .ofRuns (s.runs.toList ++ both.map (fun n => (n, n)) ++ both.map fun n => (n + 32, n + 32))

/-- The characters of words. -/
def wordChars : CharSet :=
  .unions [Property.alphabetic, Category.mark, Category.decimalNumber,
    Category.connectorPunctuation, Property.joinControl]

def asciiWordChars : CharSet := .ofTable "30-39 41-5A 5F 61-7A"

def asciiDigits : CharSet := .ofTable "30-39"

def asciiBlanks : CharSet := .ofTable "9-D 20"

/-- The bracketed class names, each a set of ASCII characters. -/
def asciiClass? (name : String) : Option CharSet :=
  [("alnum", .ofTable "30-39 41-5A 61-7A"), ("alpha", .ofTable "41-5A 61-7A"),
    ("ascii", .ofTable "0-7F"), ("blank", .ofTable "9 20"), ("cntrl", .ofTable "0-1F 7F"),
    ("digit", asciiDigits), ("graph", .ofTable "21-7E"), ("lower", .ofTable "61-7A"),
    ("print", .ofTable "20-7E"), ("punct", .ofTable "21-2F 3A-40 5B-60 7B-7E"),
    ("space", asciiBlanks), ("upper", .ofTable "41-5A"), ("word", asciiWordChars),
    ("xdigit", .ofTable "30-39 41-46 61-66")].lookup name

/-- The form in which property names are compared. -/
def plainName (name : String) : String :=
  let cs := name.toList.map Char.toLower
  let body :=
    match cs with
    | 'i' :: 's' :: rest => rest
    | cs => cs
  let kept := body.filter fun c => c != ' ' && c != '_' && c != '-' && c.toNat < 0x80
  -- the name "isc" is no prefixed "c"
  String.ofList (if kept = ['c'] && body.length < cs.length then ['i', 's', 'c'] else kept)

/-- Finds the set that goes by a name. -/
def findNamed (table : List (List String × CharSet)) (name : String) : Option CharSet :=
  (table.find? fun row => row.1.contains name).map (·.2)

/-- The set that a lone name stands for: a property, a category or a script, in this order.
Three short names of properties are those of categories instead. -/
def propertySet? (written : String) : Option CharSet :=
  let name := plainName written
  let property :=
    if name = "cf" || name = "sc" || name = "lc" then none else findNamed Property.named name
  property <|> findNamed Category.named name <|> (Script.find? name).map (·.members)

/-- The set of characters whose property of the one name has the value of the other. An age is
that of all characters that are as old or older. -/
def propertyValueSet? (property value : String) : Option CharSet :=
  let name := plainName value
  match plainName property with
  | "gc" | "generalcategory" => findNamed Category.named name
  | "sc" | "script" => (Script.find? name).map (·.members)
  | "scx" | "scriptextensions" => (Script.find? name).map (·.extended)
  | "age" => Age.upTo? name
  | "gcb" | "graphemeclusterbreak" => findNamed Break.clusters name
  | "sb" | "sentencebreak" => findNamed Break.sentences name
  | "wb" | "wordbreak" => findNamed Break.words name
  | _ => none

end Reroute.Regex
