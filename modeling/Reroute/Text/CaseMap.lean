/-
  Lower case and case folding of texts.
  Lower case treats a capital sigma at the end of a word apart; folding maps each character
  on its own, some of them to several characters.
-/
import Reroute.Text.CaseRun
import Reroute.Text.Version17

namespace Reroute.Text

/-- Binary search for the run that spans `code`, among those with index from `lo` up to `hi`. -/
def CaseRun.findIn (runs : Array CaseRun) (code lo hi : Nat) : Option CaseRun :=
  if _h : lo < hi then
    let mid := (lo + hi) / 2
    match runs[mid]? with
    | none => none
    | some run =>
      if code < run.first then findIn runs code lo mid
      else if run.last < code then findIn runs code (mid + 1) hi
      else some run
  else none
termination_by hi - lo

/-- The code point that a table of runs maps `code` to; unlisted ones map to themselves. -/
def CaseRun.map (runs : Array CaseRun) (code : Nat) : Nat :=
  match findIn runs code 0 runs.size with
  | none => code
  | some run =>
    if (code - run.first) % run.step = 0 then (code + run.shift).toNat else code

/-- The lower case of one character; only the dotted capital I becomes two. -/
def lowerChar (c : Char) : List Char :=
  if c.toNat < 0x80 then [c.toLower]
  else if c.toNat = 0x130 then ['i', Char.ofNat 0x307]
  else [Char.ofNat (CaseRun.map CaseRun.addedLower (CaseRun.map CaseRun.toLower c.toNat))]

/-- Whether the first character that is not ignored for case is a cased one. -/
def startsCased (cs : List Char) : Bool :=
  match cs.dropWhile Version17.caseIgnorable.contains with
  | [] => false
  | c :: _ => Version17.cased.contains c

/-- A sigma is final when a cased letter stands before it and none after it. -/
def lowerAfter (before : List Char) : List Char → List Char
  | [] => []
  | c :: rest =>
    if c.toNat = 0x3A3 then
      Char.ofNat (if startsCased before && !startsCased rest then 0x3C2 else 0x3C3)
        :: lowerAfter (c :: before) rest
    else lowerChar c ++ lowerAfter (c :: before) rest

def lowerList (cs : List Char) : List Char := lowerAfter [] cs

/-- The text in lower case. -/
def lower (s : String) : String := String.ofList (lowerList s.toList)

/-- An ASCII character that has no other lower case stays where it is in lower case. -/
theorem mem_lowerAfter {c : Char} {before cs : List Char} (ascii : c.toNat < 0x80)
    (small : c.toLower = c) (member : c ∈ cs) : c ∈ lowerAfter before cs := by
  induction cs generalizing before with
  | nil => cases member
  | cons d rest ih =>
    unfold lowerAfter
    rcases List.mem_cons.mp member with rfl | behind
    · rw [if_neg (by omega)]
      simp [lowerChar, ascii, small]
    · split
      · exact List.mem_cons_of_mem _ (ih behind)
      · exact List.mem_append_right _ (ih behind)

/-- The full case folding of one character. -/
def foldChar (c : Char) : List Char :=
  if c.toNat < 0x80 then [c.toLower]
  else
    match CaseRun.toSeveral.lookup c.toNat with
    | some codes => codes.map Char.ofNat
    | none => [Char.ofNat (CaseRun.map CaseRun.addedFolded (CaseRun.map CaseRun.toFolded c.toNat))]

def foldList (cs : List Char) : List Char := cs.flatMap foldChar

/-- The full case folding of a text. -/
def fold (s : String) : String := String.ofList (foldList s.toList)

/-- Equality up to case. -/
def sameFolded (a b : String) : Bool := foldList a.toList == foldList b.toList

end Reroute.Text
