/-
  The program: loads a configuration with its rules, then answers the uris it reads line by line.
  File tests find only the files that the configuration names.
-/
import Reroute.CommandLine
import Reroute.Configuration.Load

namespace Reroute.Main

def programVersion : String := "reroute 0.1.0"

def usage : String :=
  "Usage: reroute [-c CONFIGURATION]\n\n" ++
    "  -c, --configuration-path  configuration file, yaml or toml by extension\n" ++
    "  -h, --help                print this text\n" ++
    "  -V, --version             print the version"

/-- Copies a file onto a disk; what cannot be read stays missing. -/
def copyFile (disk : Disk) (path : String) : IO Disk := do
  try
    let text ← IO.FS.readFile path
    return disk.writeFile path text
  catch _ => return disk

/-- The files with rules that a configuration names. -/
def ruleFiles (c : Configuration) : List String :=
  match c.rewrite with
  | none => []
  | some s => s.sectionFiles.getD [] ++ s.directiveFiles.getD []

/-- What a handler without content replies. -/
def pass (r : Http.Incoming) : Http.Reply := { status := 200, body := r.uri.write }

/-- One line about a reply. -/
def describe (r : Http.Reply) : String :=
  let shown := [some (toString r.status), r.location, if r.body.isEmpty then none else some r.body]
  " ".intercalate (shown.filterMap id)

/-- Answers one uri. -/
def answer (service : Service) (uri : String) : String :=
  match Http.Incoming.read "GET" uri [] none with
  | .error e => e.message
  | .ok r =>
    match service.serve pass r with
    | .ok reply => describe reply
    | .error e => e.message

partial def answerLines (service : Service) (input : IO.FS.Stream) : IO Unit := do
  let line ← input.getLine
  if line.isEmpty then return
  IO.println (answer service (Text.trim line))
  answerLines service input

/-- Runs the program with a configuration file. -/
def run (path : String) : IO UInt32 := do
  let disk ← copyFile {} path
  match Configuration.load disk path with
  | none =>
    IO.eprintln ("Invalid configuration " ++ path)
    return 1
  | some c =>
    let disk ← (ruleFiles c).foldlM copyFile disk
    match Service.build c.rewrite disk c.root with
    | .error e =>
      IO.eprintln e.message
      return 1
    | .ok service =>
      answerLines service (← IO.getStdin)
      return 0

end Reroute.Main

def main (arguments : List String) : IO UInt32 :=
  match Reroute.Command.read arguments with
  | .error e => do
    IO.eprintln e.message
    return 2
  | .ok .help => do
    IO.println Reroute.Main.usage
    return 0
  | .ok .version => do
    IO.println Reroute.Main.programVersion
    return 0
  | .ok (.run path) => Reroute.Main.run (path.getD Reroute.Configuration.standardPath)
