/-
  Blank characters, and trimming and splitting at them.
  A character is blank when it has the White_Space property.
-/
namespace Reroute.Text

/-- The characters with the White_Space property. -/
def isBlank (c : Char) : Bool :=
  let n := c.toNat
  (9 ≤ n && n ≤ 13) || n == 0x20 || n == 0x85 || n == 0xA0 || n == 0x1680
    || (0x2000 ≤ n && n ≤ 0x200A) || n == 0x2028 || n == 0x2029 || n == 0x202F
    || n == 0x205F || n == 0x3000

def trimStart (cs : List Char) : List Char := cs.dropWhile isBlank

def trimEnd (cs : List Char) : List Char := (cs.reverse.dropWhile isBlank).reverse

def trimList (cs : List Char) : List Char := trimEnd (trimStart cs)

/-- The text without the blanks at its two ends. -/
def trim (s : String) : String := String.ofList (trimList s.toList)

/-- The parts before and after the first occurrence of a character that satisfies `p`. -/
def splitFirst? (p : Char → Bool) : List Char → Option (List Char × List Char)
  | [] => none
  | c :: rest =>
    if p c then some ([], rest)
    else (splitFirst? p rest).map fun parts => (c :: parts.1, parts.2)

/-- The pieces between occurrences of `separator`; a text without any is one piece. -/
def splitAll (separator : Char) : List Char → List (List Char)
  | [] => [[]]
  | c :: rest =>
    if c = separator then [] :: splitAll separator rest
    else
      match splitAll separator rest with
      | [] => [[c]]
      | piece :: pieces => (c :: piece) :: pieces

/-- The parts before and after the first occurrence of the text `mark`. -/
def splitAtText? (mark : List Char) : List Char → Option (List Char × List Char)
  | [] => if mark.isEmpty then some ([], []) else none
  | c :: rest =>
    if mark.isPrefixOf (c :: rest) then some ([], (c :: rest).drop mark.length)
    else (splitAtText? mark rest).map fun parts => (c :: parts.1, parts.2)

/-- Equality up to the case of ASCII letters. -/
def sameAsciiCase (a b : String) : Bool :=
  a.toList.map Char.toLower == b.toList.map Char.toLower

def asciiLower (s : String) : String := String.ofList (s.toList.map Char.toLower)

theorem splitFirst?_append {p : Char → Bool} {s before rest : List Char}
    (h : splitFirst? p s = some (before, rest)) :
    ∃ c, p c = true ∧ s = before ++ c :: rest := by
  induction s generalizing before with
  | nil => simp [splitFirst?] at h
  | cons c tail ih =>
    by_cases hc : p c = true
    · simp only [splitFirst?, hc, if_true, Option.some.injEq, Prod.mk.injEq] at h
      obtain ⟨rfl, rfl⟩ := h
      exact ⟨c, hc, rfl⟩
    · simp only [splitFirst?, hc, Bool.false_eq_true, if_false, Option.map_eq_some_iff] at h
      obtain ⟨⟨b, r⟩, hb, hpair⟩ := h
      obtain ⟨rfl, rfl⟩ := Prod.mk.inj hpair
      obtain ⟨d, hd, rfl⟩ := ih hb
      exact ⟨d, hd, rfl⟩

example : splitAll ',' "a,,b".toList = ["a".toList, [], "b".toList] := by decide

example : splitAtText? "://".toList "http://h".toList = some ("http".toList, "h".toList) := by
  decide

end Reroute.Text
