/-
  Sets of characters as sorted runs of code points.
  Membership is a binary search; the set operations work on the list of runs and
  put it back into order, so that runs never overlap or touch.
-/
namespace Reroute.Text

/-- Code points in sorted, separated runs; both ends of a run belong to the set. -/
structure CharSet where
  runs : Array (Nat × Nat)
deriving DecidableEq, Repr, Inhabited

namespace CharSet

/-- The largest code point. -/
def maxCode : Nat := 0x10FFFF

/-- The run of code points that stand for no character. -/
def surrogates : Nat × Nat := (0xD800, 0xDFFF)

/-- Joins runs that overlap or touch; the input is sorted by first code point. -/
def joinRuns : List (Nat × Nat) → List (Nat × Nat)
  | [] => []
  | run :: rest =>
    match joinRuns rest with
    | [] => [run]
    | next :: tail =>
      if next.1 ≤ run.2 + 1 then (run.1, max run.2 next.2) :: tail else run :: next :: tail

/-- Puts runs in order and joins those that overlap or touch. -/
def ofRuns (runs : List (Nat × Nat)) : CharSet :=
  let sorted := (runs.filter fun run => run.1 ≤ run.2).mergeSort fun a b => a.1 ≤ b.1
  -- a long run may cover several of its followers, so ends are made monotone first
  let widened := (sorted.foldl (fun (acc : List (Nat × Nat) × Nat) run =>
    ((run.1, max acc.2 run.2) :: acc.1, max acc.2 run.2)) ([], 0)).1.reverse
  ⟨(joinRuns widened).toArray⟩

def empty : CharSet := ⟨#[]⟩

def all : CharSet := ⟨#[(0, 0xD7FF), (0xE000, maxCode)]⟩

def single (c : Char) : CharSet := ⟨#[(c.toNat, c.toNat)]⟩

def isEmpty (s : CharSet) : Bool := s.runs.isEmpty

/-- Binary search among the runs with index from `lo` up to `hi`. -/
def search (runs : Array (Nat × Nat)) (code lo hi : Nat) : Bool :=
  if _h : lo < hi then
    let mid := (lo + hi) / 2
    match runs[mid]? with
    | none => false
    | some (first, last) =>
      if code < first then search runs code lo mid
      else if last < code then search runs code (mid + 1) hi
      else true
  else false
termination_by hi - lo

def containsCode (s : CharSet) (code : Nat) : Bool := search s.runs code 0 s.runs.size

def contains (s : CharSet) (c : Char) : Bool := s.containsCode c.toNat

theorem eq_of_contains_single {c d : Char} (member : (single c).contains d = true) : d = c := by
  have one : ¬ d.toNat < c.toNat ∧ ¬ c.toNat < d.toNat := by
    simpa [contains, containsCode, single, search] using member
  exact Char.toNat_inj.mp (by omega)

def union (a b : CharSet) : CharSet := ofRuns (a.runs.toList ++ b.runs.toList)

def unions (sets : List CharSet) : CharSet := ofRuns (sets.flatMap fun s => s.runs.toList)

/-- The gaps between sorted runs, from code point `next` on. -/
def gaps (next : Nat) : List (Nat × Nat) → List (Nat × Nat)
  | [] => if next ≤ maxCode then [(next, maxCode)] else []
  | (first, last) :: rest =>
    if next < first then (next, first - 1) :: gaps (last + 1) rest else gaps (last + 1) rest

/-- All characters outside the set. -/
def compl (s : CharSet) : CharSet :=
  ⟨(gaps 0 (ofRuns (surrogates :: s.runs.toList)).runs.toList).toArray⟩

def inter (a b : CharSet) : CharSet := (a.compl.union b.compl).compl

def diff (a b : CharSet) : CharSet := (a.compl.union b).compl

/-- The code points in exactly one of the two sets. -/
def symmDiff (a b : CharSet) : CharSet := (a.diff b).union (b.diff a)

/-- The value of a hexadecimal digit. -/
def hexDigit? (c : Char) : Option Nat :=
  if '0' ≤ c ∧ c ≤ '9' then some (c.toNat - '0'.toNat)
  else if 'a' ≤ c ∧ c ≤ 'f' then some (c.toNat - 'a'.toNat + 10)
  else if 'A' ≤ c ∧ c ≤ 'F' then some (c.toNat - 'A'.toNat + 10)
  else none

/-- Reads runs written as `FIRST-LAST` or `CODE`, in hexadecimal and separated by blanks.
`first` is the start of a run whose hyphen has been read, `code` the number being read. -/
def readRuns (first code : Option Nat) (done : List (Nat × Nat)) :
    List Char → List (Nat × Nat)
  | [] => (close first code done).reverse
  | c :: rest =>
    match hexDigit? c with
    | some d => readRuns first (some (code.getD 0 * 16 + d)) done rest
    | none =>
      if c = '-' then readRuns code none done rest
      else readRuns none none (close first code done) rest
where
  close (first code : Option Nat) (done : List (Nat × Nat)) : List (Nat × Nat) :=
    match first, code with
    | some a, some b => (a, b) :: done
    | none, some b => (b, b) :: done
    | _, none => done

/-- The set that a table row lists, in increasing order. -/
def ofTable (row : String) : CharSet := ⟨(readRuns none none [] row.toList).toArray⟩

example : ofTable "0041-0043 5A\n 61" = ⟨#[(0x41, 0x43), (0x5A, 0x5A), (0x61, 0x61)]⟩ := by
  decide +kernel

example : (ofRuns [(5, 9), (1, 2), (3, 3), (7, 8)]).runs = #[(1, 3), (5, 9)] := by cbv

end CharSet

end Reroute.Text
