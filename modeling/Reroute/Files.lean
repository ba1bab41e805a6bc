/-
  Files as rules test for them: predicates on texts, and the files below a document root.
  A disk is a tree of directories. A path is followed name by name; a name past a regular file
  is a fault, a missing one is none.
-/
import Reroute.Text.Blank
import Reroute.Text.Bytes

namespace Reroute

/-- Why a file cannot be looked at. -/
inductive FileError
  | notDirectory
  | invalidName
  | nameTooLong
  | unreadable
deriving DecidableEq, Repr

/-- What file tests ask. -/
structure Files where
  isFile : String → Except FileError Bool
  isDirectory : String → Except FileError Bool

/-- No files at all. -/
def Files.none : Files := ⟨fun _ => .ok false, fun _ => .ok false⟩

inductive Node
  | file (content : String)
  | directory (entries : List (String × Node))
deriving Repr

namespace Node

def emptyDirectory : Node := .directory []

def isFile : Node → Bool
  | .file _ => true
  | .directory _ => false

def isDirectory (n : Node) : Bool := !n.isFile

/-- The entry of a directory that goes by a name. -/
def member? (entries : List (String × Node)) (name : String) : Option Node :=
  entries.lookup name

/-- The longest name of one entry, in bytes. -/
def nameLimit : Nat := 255

/-- Follows the names of a path. `above` are the directories around `node`, nearest first; two
dots go up, and nothing is above the top. -/
def follow (above : List Node) (node : Node) : List (List Char) → Except FileError (Option Node)
  | [] => .ok (some node)
  | name :: rest =>
    match node with
    | .file _ => .error .notDirectory
    | .directory entries =>
      if name = [] ∨ name = ['.'] then follow above node rest
      else if name = ['.', '.'] then
        match above with
        | [] => follow [] node rest
        | up :: above => follow above up rest
      else if nameLimit < Text.byteLength name then .error .nameTooLong
      else
        match member? entries (String.ofList name) with
        | none => .ok none
        | some child => follow (node :: above) child rest

/-- What a directory holds; nothing, if the node is none. -/
def entries : Option Node → List (String × Node)
  | some (.directory entries) => entries
  | _ => []

/-- Changes what stands at the end of a path of names, making directories on the way. -/
def update (change : Option Node → Node) : List String → Option Node → Node
  | [], old => change old
  | name :: rest, old =>
    .directory (((entries old).filter fun e => e.1 != name) ++
      [(name, update change rest (member? (entries old) name))])

end Node

/-- A tree of files with the directory that relative paths start from. -/
structure Disk where
  top : Node := .emptyDirectory
  working : List String := []
deriving Repr

namespace Disk

def separator : Char := '/'

/-- The longest path, in bytes. -/
def pathLimit : Nat := 4095

/-- The names of a path from the top. A single dot and an empty name are none. -/
def names (disk : Disk) (path : String) : List String :=
  let given := ((Text.splitAll separator path.toList).filter fun name =>
    !(name == [] || name == ['.'])).map String.ofList
  if path.toList.head? = some separator then given else disk.working ++ given

/-- Puts a file at a path, making directories on the way. -/
def writeFile (disk : Disk) (path content : String) : Disk :=
  { disk with top := Node.update (fun _ => .file content) (disk.names path) (some disk.top) }

/-- Makes a directory at a path, and all above it; one that is there stays as it is. -/
def makeDirectory (disk : Disk) (path : String) : Disk :=
  let change
    | some (.directory entries) => Node.directory entries
    | _ => .emptyDirectory
  { disk with top := Node.update change (disk.names path) (some disk.top) }

/-- What stands at a path, if anything does. -/
def find (disk : Disk) (path : String) : Except FileError (Option Node) :=
  let cs := path.toList
  if cs.contains '\x00' then .error .invalidName
  else if cs.isEmpty then .ok none
  else if pathLimit < Text.byteLength cs then .error .nameTooLong
  else
    let names := Text.splitAll separator cs
    let start := if cs.head? = some separator then [] else disk.working.map String.toList
    disk.top.follow [] (start ++ names)

/-- The text of the file at a path. -/
def read (disk : Disk) (path : String) : Except FileError String :=
  match disk.find path with
  | .error e => .error e
  | .ok (some (.file content)) => .ok content
  | .ok _ => .error .unreadable

end Disk

/-- A directory of a disk that requests are resolved against. -/
structure DocumentRoot where
  disk : Disk
  root : String
deriving Repr

namespace DocumentRoot

/-- A relative path put behind a directory. -/
def join (root : String) (relative : String) : String :=
  if root.isEmpty || root.toList.getLast? = some Disk.separator then root ++ relative
  else root ++ "/" ++ relative

/-- The path of a candidate below the root. Leading slashes mean nothing, and a candidate that
goes up anywhere has no path. -/
def resolve? (d : DocumentRoot) (candidate : String) : Option String :=
  let relative := candidate.toList.dropWhile (· == Disk.separator)
  if (Text.splitAll Disk.separator relative).contains ['.', '.'] then none
  else some (join d.root (String.ofList relative))

def find (d : DocumentRoot) (candidate : String) : Except FileError (Option Node) :=
  match d.resolve? candidate with
  | none => .ok none
  | some path => d.disk.find path

/-- Whether the node found satisfies a test; what is missing satisfies none. -/
def test (d : DocumentRoot) (p : Node → Bool) (candidate : String) : Except FileError Bool :=
  (d.find candidate).map fun found => found.any p

/-- The file tests below the root. -/
def files (d : DocumentRoot) : Files := ⟨d.test Node.isFile, d.test Node.isDirectory⟩

end DocumentRoot

end Reroute
