/-
  Templates as directive lines write them: `$1` and `%1` for groups, a percent sign before a
  name in braces for a server variable. A backslash keeps the next character as it is; a sign
  that starts nothing is text.
-/
import Reroute.Template
import Reroute.Text.Bytes

namespace Reroute.Template

/-- The name up to the closing brace, and what follows it. -/
def takeName (cs : List Char) : Option (List Char × List Char) :=
  Text.splitFirst? (· == '\x7d') cs

def digitOf (c : Char) : Nat := c.toNat - '0'.toNat

/-- Reads on at byte `offset`; `text` is the literal text so far, in reverse. -/
def readDollar (fuel offset : Nat) (text : List Char) (cs : List Char) :
    Except TemplateError Template :=
  match fuel, cs with
  | _, [] => .ok (Segment.ofText text.reverse)
  | 0, _ => .ok (Segment.ofText text.reverse)
  | _ + 1, ['\\'] => .ok (Segment.ofText ('\\' :: text).reverse)
  | fuel + 1, '\\' :: c :: rest => readDollar fuel (offset + 1 + c.utf8Size) (c :: text) rest
  | fuel + 1, c :: rest =>
    if c = '$' ∨ c = '%' then
      match rest with
      | [] => readDollar fuel (offset + 1) (c :: text) rest
      | d :: tail =>
        if d.isDigit then
          let segment :=
            if c = '$' then Segment.ruleGroup (digitOf d) else .conditionGroup (digitOf d)
          (readDollar fuel (offset + 2) [] tail).map fun more =>
            Segment.ofText text.reverse ++ segment :: more
        else if c = '%' ∧ d = '\x7b' then
          match takeName tail with
          | none => .error (.unclosedPlaceholder offset)
          | some (name, after) =>
            match Variable.ofName (String.ofList name) with
            | .error e => .error e
            | .ok v =>
              (readDollar fuel (offset + 3 + Text.byteLength name) [] after).map fun more =>
                Segment.ofText text.reverse ++ .server v :: more
        else readDollar fuel (offset + 1) (c :: text) rest
    else readDollar fuel (offset + c.utf8Size) (c :: text) rest

/-- Reads a template of a directive line. -/
def ofDollar (text : String) : Except TemplateError Template :=
  readDollar text.toList.length 0 [] text.toList

end Reroute.Template
