/-
  The command line: one option that names the configuration file, and the two that ask about the
  program. A value is taken when the next argument shows that it is complete, so of two faults
  the one that shows first is reported.
-/
import Reroute.Text.Blank

namespace Reroute

/-- What a command line asks for. -/
inductive Command
  | run (configuration : Option String)
  | help
  | version
deriving DecidableEq, Repr

inductive CommandError
  | unknownArgument
  /-- The option lacks its value. -/
  | missingValue
  /-- An option that takes no value has one. -/
  | excessValue
  | repeated
deriving DecidableEq, Repr

namespace CommandError

def message : CommandError → String
  | .unknownArgument => "unexpected argument found"
  | .missingValue => "a value is required for '--configuration-path'"
  | .excessValue => "unexpected value found"
  | .repeated => "the argument '--configuration-path' cannot be used multiple times"

end CommandError

namespace Command

open Reroute.Text

/-- The option that was read last. -/
inductive Pending
  | nothing
  | awaiting
  | value (text : String)
deriving DecidableEq, Repr

structure State where
  path : Option String := none
  pending : Pending := .nothing
deriving DecidableEq, Repr

namespace State

/-- Accepts a value of the option. -/
def accept (s : State) (text : String) : Except CommandError State :=
  if s.path.isSome then .error .repeated else .ok { path := some text }

/-- Completes the option that was read last. -/
def settle (s : State) : Except CommandError State :=
  match s.pending with
  | .nothing => .ok s
  | .awaiting => .error .missingValue
  | .value text => s.accept text

/-- Reads the option with a value that belongs to the same argument, or with one to come. -/
def option (s : State) (attached : Option String) : Except CommandError State := do
  let s ← s.settle
  match attached with
  | some text => s.accept text
  | none => .ok { s with pending := .awaiting }

end State

/-- What an argument leads to: reading on, or the answer to a question. -/
abbrev Step := Except CommandError (State ⊕ Command)

/-- Answers a question, once what stands before it is complete. -/
def ask (s : State) (question : Command) : Step := s.settle.map fun _ => .inr question

/-- Reads an argument behind its two hyphens. -/
def readLong (s : State) (cs : List Char) : Step :=
  let (name, attached) :=
    match splitFirst? (· == '=') cs with
    | some (name, value) => (name, some (String.ofList value))
    | none => (cs, none)
  let question (command : Command) : Step :=
    if attached.isSome then .error .excessValue else ask s command
  match String.ofList name with
  | "configuration-path" => (s.option attached).map .inl
  | "help" => question .help
  | "version" => question .version
  | _ => .error .unknownArgument

/-- Reads the letters behind one hyphen. -/
def readShort (s : State) : List Char → Step
  | 'c' :: rest =>
    let attached :=
      match rest with
      | [] => none
      | '=' :: value => some (String.ofList value)
      | _ => some (String.ofList rest)
    (s.option attached).map .inl
  | 'h' :: _ => ask s .help
  | 'V' :: _ => ask s .version
  | _ => .error .unknownArgument

/-- Reads one argument. -/
def readArgument (s : State) (argument : String) : Step :=
  match argument.toList with
  | '-' :: '-' :: rest => readLong s rest
  | '-' :: c :: rest => readShort s (c :: rest)
  | _ =>
    match s.pending with
    | .awaiting => .ok (.inl { s with pending := .value argument })
    | _ => .error .unknownArgument

/-- Reads the arguments from the left. Two hyphens by themselves end the options. -/
def readFrom (s : State) : List String → Except CommandError Command
  | [] => s.settle.map fun s => .run s.path
  | "--" :: rest =>
    if rest.isEmpty then s.settle.map fun s => .run s.path else .error .unknownArgument
  | argument :: rest =>
    match readArgument s argument with
    | .error e => .error e
    | .ok (.inr command) => .ok command
    | .ok (.inl s) => readFrom s rest

/-- Reads a command line. -/
def read (arguments : List String) : Except CommandError Command := readFrom {} arguments

end Command

end Reroute
