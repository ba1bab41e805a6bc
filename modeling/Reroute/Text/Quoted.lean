/-
  Texts as error messages show them: in double quotes, on one line, with everything that
  cannot be printed, or would join with the character before it, as its code point.
-/
import Reroute.Text.Version17

namespace Reroute.Text

/-- Characters shown by their code point: those without a shape of their own and those that
extend the one before. A space is the one separator that is printed, fillers of syllables are
not, and the two marks of halfwidth syllables are. -/
def hidden : CharSet :=
  (CharSet.unions [Category.control, Category.format, Category.privateUse,
    Version17.assigned.compl, Category.separator, Version17.graphemeExtend,
    .ofTable "115F-1160 3164 FFA0"]).diff (.ofTable "20 FF9E-FF9F")

/-- The lowercase hexadecimal digits of a number, without leading zeros. -/
def hexDigits (n : Nat) : List Char := Nat.toDigits 16 n

def quoteChar (c : Char) : List Char :=
  if c = '"' then ['\\', '"']
  else if c = '\\' then ['\\', '\\']
  else if c = '\t' then ['\\', 't']
  else if c = '\r' then ['\\', 'r']
  else if c = '\n' then ['\\', 'n']
  else if c = '\x00' then ['\\', '0']
  else if hidden.contains c then ['\\', 'u', '\x7b'] ++ hexDigits c.toNat ++ ['\x7d']
  else [c]

/-- The text in quotes. -/
def quoted (s : String) : String :=
  String.ofList ('"' :: s.toList.flatMap quoteChar ++ ['"'])

end Reroute.Text
