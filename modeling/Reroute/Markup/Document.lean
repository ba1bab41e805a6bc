/-
  Documents: trees of elements with their attributes and the places they begin at.
  Text between tags is checked and dropped. There are no document types. Prefixes have to be
  declared, and no attribute may come twice.
-/
import Reroute.Markup.Content

namespace Reroute.Markup

open Reroute.Text

/-- An attribute; `space` is the namespace of its prefix. -/
structure Attribute where
  space : Option String
  name : String
  value : String
deriving DecidableEq, Repr

/-- An element: local name, attributes, elements inside, and how many characters of the document
stand before it. -/
inductive Element
  | mk (name : String) (attributes : List Attribute) (children : List Element) (start : Nat)
deriving Repr

namespace Element

def name : Element → String
  | .mk name _ _ _ => name

def attributes : Element → List Attribute
  | .mk _ attributes _ _ => attributes

def children : Element → List Element
  | .mk _ _ children _ => children

def start : Element → Nat
  | .mk _ _ _ start => start

/-- The value of an attribute without a namespace. -/
def attribute? (e : Element) (name : String) : Option String :=
  (e.attributes.find? fun a => a.space.isNone && a.name == name).map (·.value)

/-- The elements directly inside that have a name. -/
def childrenNamed (e : Element) (name : String) : List Element :=
  e.children.filter fun c => c.name == name

def child? (e : Element) (name : String) : Option Element :=
  e.children.find? fun c => c.name == name

mutual

/-- The element and all elements inside it, in the order of their start tags. -/
def descendants : Element → List Element
  | .mk name attributes children start =>
    .mk name attributes children start :: descendantsOf children

def descendantsOf : List Element → List Element
  | [] => []
  | e :: rest => descendants e ++ descendantsOf rest

end

/-- The first of the element and all elements inside it that has a name. -/
def first? (e : Element) (name : String) : Option Element :=
  e.descendants.find? fun d => d.name == name

end Element

namespace Element

mutual

def decEq : (first second : Element) → Decidable (first = second)
  | .mk name attributes children start, .mk name' attributes' children' start' =>
    match decEqAll children children' with
    | .isTrue inside =>
      decidable_of_iff (name = name' ∧ attributes = attributes' ∧ start = start')
        (by simp [inside])
    | .isFalse inside => .isFalse fun same => inside (by cases same; rfl)

def decEqAll : (first second : List Element) → Decidable (first = second)
  | [], [] => .isTrue rfl
  | [], _ :: _ => .isFalse (by simp)
  | _ :: _, [] => .isFalse (by simp)
  | a :: rest, b :: others =>
    match decEq a b, decEqAll rest others with
    | .isTrue head, .isTrue tail => .isTrue (by rw [head, tail])
    | .isFalse head, _ => .isFalse fun same => head (List.cons.inj same).1
    | _, .isFalse tail => .isFalse fun same => tail (List.cons.inj same).2

end

end Element

/-- Elements are equal with all that is inside them. -/
instance : DecidableEq Element := Element.decEq

/-- A place in a document, counted from 1. -/
structure Place where
  line : Nat
  column : Nat
deriving DecidableEq, Repr

/-- The place behind a text. -/
def Place.after (text : List Char) : Place :=
  text.foldl (fun p c => if c = '\n' then ⟨p.line + 1, 1⟩ else ⟨p.line, p.column + 1⟩) ⟨1, 1⟩

/-- Namespaces by their prefixes; inner ones stand first. -/
abbrev Scope := List (Option String × String)

def xmlSpace : String := "http://www.w3.org/XML/1998/namespace"

def xmlnsSpace : String := "http://www.w3.org/2000/xmlns/"

/-- The attributes and namespaces that a start tag has shown so far. -/
structure Opening where
  attributes : List (QName × String) := []
  scope : Scope := []

/-- Adds an attribute or a namespace. The two namespaces of markup itself keep their
prefixes. -/
def Opening.add (o : Opening) (name : QName) (value : String) : Option Opening :=
  if name.space = "xmlns" then
    if value = xmlnsSpace || (name.name = "xml") != (value = xmlSpace) then none
    else if o.scope.any fun entry => entry.1 == some name.name then none
    else if value = xmlSpace then some o
    else some { o with scope := o.scope ++ [(some name.name, value)] }
  else if name.name = "xmlns" then
    if value = xmlSpace || value = xmlnsSpace then none
    else some { o with scope := o.scope ++ [(none, value)] }
  else some { o with attributes := o.attributes ++ [(name, value)] }

/-- The namespace of an attribute; without a prefix it has none. -/
def attributeSpace (scope : Scope) (space : String) : Option (Option String) :=
  if space.isEmpty then some none
  else if space = "xml" then some (some xmlSpace)
  else (scope.lookup (some space)).map some

/-- Resolves prefixes and refuses an attribute that comes twice. -/
def resolveAttributes (scope : Scope) : List Attribute → List (QName × String) →
    Option (List Attribute)
  | done, [] => some done.reverse
  | done, (name, value) :: rest => do
    let space ← attributeSpace scope name.space
    if done.any fun a => a.space == space && a.name == name.name then none
    else resolveAttributes scope (⟨space, name.name, value⟩ :: done) rest

/-- Reads attributes up to the end of a start tag; the flag tells an empty element. -/
def readAttributes : Nat → Opening → List Char → Option (Opening × Bool × List Char)
  | 0, _, _ => none
  | fuel + 1, o, cs =>
    match skipSpaces cs with
    | '/' :: '>' :: rest => some (o, true, rest)
    | '>' :: rest => some (o, false, rest)
    | rest =>
      if cs.head?.all fun c => !isSpace c then none
      else do
        let (name, rest) ← readQName rest
        let (raw, rest) ← readQuotedValue rest
        let value ← attributeText raw.length raw
        let o ← o.add name (String.ofList value)
        readAttributes fuel o rest

mutual

/-- Reads an element from behind its first character; `total` is the length of the document. -/
def readElement (total : Nat) : Nat → Scope → List Char → Option (Element × List Char)
  | 0, _, _ => none
  | fuel + 1, outer, cs => do
    let start := total - cs.length - 1
    let (name, rest) ← readQName cs
    let (opening, isEmpty, rest) ← readAttributes (rest.length + 1) {} rest
    let scope := opening.scope ++ outer
    let attributes ← resolveAttributes scope [] opening.attributes
    if !name.space.isEmpty && (scope.lookup (some name.space)).isNone then none
    else if isEmpty then some (.mk name.name attributes [] start, rest)
    else
      let (children, rest) ← readContent total fuel scope name [] rest
      some (.mk name.name attributes children start, rest)

/-- Reads what stands in an element, and its end tag. Elements so far stand in reverse. -/
def readContent (total : Nat) : Nat → Scope → QName → List Element → List Char →
    Option (List Element × List Char)
  | 0, _, _, _, _ => none
  | fuel + 1, scope, name, done, cs =>
    match cs with
    | [] => none
    | '<' :: '/' :: rest => do
      let (close, rest) ← readQName rest
      match skipSpaces rest with
      | '>' :: rest => if close = name then some (done.reverse, rest) else none
      | _ => none
    | '<' :: '!' :: rest => do
      let rest ←
        if startsWith "--" rest then skipComment cs
        else if startsWith "[CDATA[" rest then (readUntil "]]>".toList (rest.drop 7)).map (·.2)
        else none
      readContent total fuel scope name done rest
    | '<' :: '?' :: _ => do
      let rest ← skipInstruction cs
      readContent total fuel scope name done rest
    | '<' :: rest => do
      let (child, rest) ← readElement total fuel scope rest
      readContent total fuel scope name (child :: done) rest
    | _ => do
      let rest ← skipText cs
      readContent total fuel scope name done rest

end

/-- Skips spaces, comments and instructions outside of elements. -/
def skipMisc : Nat → List Char → Option (List Char)
  | 0, cs => some cs
  | fuel + 1, cs =>
    let rest := skipSpaces cs
    if startsWith "<!--" rest then (skipComment rest).bind (skipMisc fuel)
    else if startsWith "<?" rest then (skipInstruction rest).bind (skipMisc fuel)
    else some rest

/-- Drops the spaces that have to stand between parts of the declaration. -/
def declarationGap (cs : List Char) : Option (List Char) :=
  if cs.head?.any isSpace then some (skipSpaces cs)
  else if startsWith "?>" cs || cs.isEmpty then some cs
  else none

def skipDeclared (cs : List Char) : Option (List Char) := do
  let (_, rest) ← readQName cs
  let (_, rest) ← readQuotedValue rest
  some rest

/-- Skips the declaration, which names a version, and may name an encoding and more. -/
def skipDeclaration (cs : List Char) : Option (List Char) := do
  let rest ← declarationGap (cs.drop 5)
  if !startsWith "version" rest then none
  else
    let rest ← skipDeclared rest
    let rest ← declarationGap rest
    let rest ←
      if startsWith "encoding" rest then (skipDeclared rest).bind declarationGap else some rest
    let rest ← if startsWith "standalone" rest then skipDeclared rest else some rest
    take? "?>".toList (skipSpaces rest)

/-- Reads the one element of a document. -/
def readDocument (text : String) : Option Element := do
  let cs := text.toList
  let total := cs.length
  let rest := if cs.head? = some (Char.ofNat 0xFEFF) then cs.drop 1 else cs
  let rest ← if startsWith "<?xml " rest then skipDeclaration rest else some rest
  let rest ← skipMisc rest.length rest
  match rest with
  | '<' :: rest => do
    let (root, rest) ← readElement total (2 * total + 2) [] rest
    let rest ← skipMisc rest.length rest
    if rest.isEmpty then some root else none
  | _ => none

/-- Where an element of a document begins. -/
def placeOf (text : String) (e : Element) : Place := .after (text.toList.take e.start)

end Reroute.Markup
