/-
  Templates as rewrite sections write them: placeholders in braces, which nest behind a colon.
  A backslash keeps the next character as it is. Names of groups and functions are compared
  without regard to case, then those of lookup tables.
-/
import Reroute.Template
import Reroute.Text.Bytes

namespace Reroute.Template

/-- The largest number of a group. -/
def indexLimit : Nat := Nat.pow 2 64 - 1

/-- The number behind the colon of a group: decimal digits without a sign. -/
def readIndex (name digits : List Char) : Except TemplateError Nat :=
  let refused := TemplateError.invalidReference
    (String.ofList ('\x7b' :: name ++ ':' :: digits ++ ['\x7d']))
  if digits.isEmpty || !digits.all Char.isDigit then .error refused
  else
    match Text.readDigits indexLimit 0 digits with
    | .ok n => .ok n
    | .error _ => .error refused

/-- The segment of a placeholder without a colon. -/
def namedSegment (name : List Char) : Except TemplateError Segment :=
  let name := String.ofList name
  if Text.sameAsciiCase name "URL" then .ok .currentUrl
  else (Variable.ofName name).map .server

/-- The segment of a placeholder that holds a template. -/
def nestedSegment (tables : LookupTables) (name : List Char) (inner : Template) :
    Except TemplateError Segment :=
  let name := String.ofList name
  match TextFunction.ofText name with
  | .ok f => .ok (.function f inner)
  | .error _ =>
    match tables.find? name with
    | some table => .ok (.lookup table inner)
    | none => .error (.unknownFunction name)

/-- What is left to read, and its place in bytes. -/
structure Cursor where
  rest : List Char
  offset : Nat

namespace Cursor

/-- Moves behind text that was read and its closing mark. -/
def past (c : Cursor) (read : List Char) (rest : List Char) : Cursor :=
  ⟨rest, c.offset + Text.byteLength read + 1⟩

end Cursor

mutual

/-- Reads segments up to the end of the text, or to the closing brace of the placeholder opened
at byte `start`. Literal text so far stands in reverse. -/
def readBraced (tables : LookupTables) : Nat → Option Nat → List Char → Cursor →
    Except TemplateError (Template × Cursor)
  | 0, _, _, at_ => .error (.unclosedPlaceholder at_.offset)
  | fuel + 1, start, text, at_ =>
    match at_.rest with
    | [] =>
      match start with
      | some offset => .error (.unclosedPlaceholder offset)
      | none => .ok (Segment.ofText text.reverse, at_)
    | '\\' :: rest =>
      match rest with
      | [] => readBraced tables fuel start ('\\' :: text) ⟨[], at_.offset + 1⟩
      | c :: tail => readBraced tables fuel start (c :: text) ⟨tail, at_.offset + 1 + c.utf8Size⟩
    | c :: rest =>
      let next : Cursor := ⟨rest, at_.offset + c.utf8Size⟩
      if c = '\x7d' ∧ start.isSome then .ok (Segment.ofText text.reverse, next)
      else if c = '\x7b' then do
        let (segment, next) ← readPlaceholder tables fuel at_.offset next
        let (more, next) ← readBraced tables fuel start [] next
        .ok (Segment.ofText text.reverse ++ segment :: more, next)
      else readBraced tables fuel start (c :: text) next

/-- Reads the placeholder opened at byte `start` from behind its brace. -/
def readPlaceholder (tables : LookupTables) : Nat → Nat → Cursor →
    Except TemplateError (Segment × Cursor)
  | 0, start, _ => .error (.unclosedPlaceholder start)
  | fuel + 1, start, at_ =>
    match Text.splitFirst? (fun c => c == '\x7d' || c == ':') at_.rest with
    | none => .error (.unclosedPlaceholder start)
    | some (name, rest) =>
      let next := at_.past name rest
      if at_.rest[name.length]? = some '\x7d' then
        (namedSegment name).map fun segment => (segment, next)
      else
        let isRule := Text.sameAsciiCase (String.ofList name) "R"
        if isRule || Text.sameAsciiCase (String.ofList name) "C" then
          match Text.splitFirst? (· == '\x7d') rest with
          | none => .error (.unclosedPlaceholder start)
          | some (digits, after) =>
            (readIndex name digits).map fun n =>
              (if isRule then .ruleGroup n else .conditionGroup n, next.past digits after)
        else do
          let (inner, next) ← readBraced tables fuel (some start) [] next
          let segment ← nestedSegment tables name inner
          .ok (segment, next)

end

/-- Reads a template of a rewrite section. -/
def ofBraced (tables : LookupTables) (text : String) : Except TemplateError Template :=
  let cs := text.toList
  (readBraced tables (2 * cs.length + 1) none [] ⟨cs, 0⟩).map (·.1)

end Reroute.Template
