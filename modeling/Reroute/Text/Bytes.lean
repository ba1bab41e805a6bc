/-
  Texts as UTF-8 bytes and back. Reading replaces each longest piece that can start no
  character by U+FFFD.
-/
namespace Reroute.Text

def bytesOf (cs : List Char) : List UInt8 := cs.flatMap String.utf8EncodeChar

/-- The number of bytes of a text. -/
def byteLength (cs : List Char) : Nat := (bytesOf cs).length

theorem byteLength_cons (c : Char) (rest : List Char) :
    byteLength (c :: rest) = c.utf8Size + byteLength rest := by
  simp [byteLength, bytesOf]

theorem byteLength_append (first second : List Char) :
    byteLength (first ++ second) = byteLength first + byteLength second := by
  simp [byteLength, bytesOf]

/-- The character that the bytes begin with; four bytes always suffice. -/
def firstChar? (bytes : List UInt8) : Option Char :=
  (bytes.take 4).toByteArray.utf8DecodeChar? 0

def isContinuation (b : UInt8) : Bool := b.toNat / 64 == 2

/-- Whether `second` may follow the first byte of a character of three or four bytes. -/
def mayFollow (first second : UInt8) : Bool :=
  let s := second.toNat
  match first.toNat with
  | 0xE0 => 0xA0 ≤ s && s ≤ 0xBF
  | 0xED => 0x80 ≤ s && s ≤ 0x9F
  | 0xF0 => 0x90 ≤ s && s ≤ 0xBF
  | 0xF4 => 0x80 ≤ s && s ≤ 0x8F
  | n => (0xE1 ≤ n && n ≤ 0xF3) && 0x80 ≤ s && s ≤ 0xBF

/-- How many bytes belong to a broken character at the start of `bytes`. -/
def brokenLength (bytes : List UInt8) : Nat :=
  match bytes with
  | first :: second :: rest =>
    if first.toNat < 0xE0 || !mayFollow first second then 1
    else if first.toNat < 0xF0 then 2
    else
      match rest with
      | third :: _ => if isContinuation third then 3 else 2
      | [] => 2
  | _ => 1

def readBytes (bytes : List UInt8) : List Char :=
  if _h : bytes = [] then []
  else
    match firstChar? bytes with
    | some c => c :: readBytes (bytes.drop (max 1 (String.utf8EncodeChar c).length))
    | none => Char.ofNat 0xFFFD :: readBytes (bytes.drop (max 1 (brokenLength bytes)))
termination_by bytes.length
decreasing_by
  all_goals
    have := List.length_pos_iff.mpr _h
    simp only [List.length_drop]
    omega

end Reroute.Text
