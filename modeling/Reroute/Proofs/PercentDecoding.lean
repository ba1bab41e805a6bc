import Mathlib.Logic.Basic
import Reroute.Template.Expand

/-!
# Texts that are encoded and decoded

Percent-encoding lets the percent sign through. A percent sign that stands before two hexadecimal
digits looks like an escape, and decoding takes it for one whether it was written by the encoder or
was part of the text. So the text `%41` is encoded as it is and comes back as `A`
(`escaped_text_lost`). Apart from that nothing is lost: decoding reads an encoded text as it
reads the text itself, and that is the text itself exactly if no percent sign in it stands before
two hexadecimal digits.

Results:
1. `utf8EncodeChar_first`, `utf8EncodeChar_tail`: bytes of a character.
2. `percentBytes_escape`, `percentBytes_plain`: one step of decoding.
3. `percentBytes_encode`: an encoded text stands for the bytes that the text stands for.
4. `readBytes_bytesOf`, `readBytes_step`: reading bytes as characters.
5. `length_decoded_le`: a text with an escape is longer than what it is decoded to.
6. `Template.expand_decode_encode`: decoding and encoding, of texts and in templates.
-/

namespace Reroute

namespace Text

open CharSet

/-! ## 1. Bytes of characters -/

theorem utf8EncodeChar_ascii {c : Char} (ascii : c.toNat < 0x80) :
    String.utf8EncodeChar c = [UInt8.ofNat c.toNat] := by
  have small : c.val.toNat ≤ 127 := Nat.le_of_lt_succ ascii
  unfold String.utf8EncodeChar
  dsimp only
  rw [if_pos small]
  rfl

/-- The first byte is that of an ASCII character, or it is none; it never continues a character. -/
theorem utf8EncodeChar_first (c : Char) :
    ∃ b rest, String.utf8EncodeChar c = b :: rest ∧ isContinuation b = false ∧
      (0x80 ≤ c.toNat → 0x80 ≤ b.toNat) := by
  have value : c.toNat = c.val.toNat := rfl
  unfold String.utf8EncodeChar
  dsimp only
  rw [value]
  split
  · next small =>
    refine ⟨_, _, rfl, ?_, ?_⟩
    · simp only [isContinuation, UInt8.toNat_ofNat', beq_eq_false_iff_ne]
      omega
    · omega
  · split
    · refine ⟨_, _, rfl, ?_, ?_⟩
      · simp only [isContinuation, UInt8.toNat_ofNat', beq_eq_false_iff_ne]
        omega
      · simp only [UInt8.toNat_ofNat']
        omega
    · split
      · refine ⟨_, _, rfl, ?_, ?_⟩
        · simp only [isContinuation, UInt8.toNat_ofNat', beq_eq_false_iff_ne]
          omega
        · simp only [UInt8.toNat_ofNat']
          omega
      · refine ⟨_, _, rfl, ?_, ?_⟩
        · simp only [isContinuation, UInt8.toNat_ofNat', beq_eq_false_iff_ne]
          omega
        · simp only [UInt8.toNat_ofNat']
          omega

theorem isContinuation_low (n : Nat) : isContinuation (UInt8.ofNat (n % 64 + 128)) = true := by
  simp only [isContinuation, UInt8.toNat_ofNat', beq_iff_eq]
  omega

/-- All bytes behind the first one continue the character. -/
theorem utf8EncodeChar_tail (c : Char) :
    ∀ b ∈ (String.utf8EncodeChar c).tail, isContinuation b = true := by
  unfold String.utf8EncodeChar
  dsimp only
  split
  · intro b member
    cases member
  · split
    · intro b member
      obtain rfl := List.mem_singleton.mp member
      exact isContinuation_low _
    · split
      · simp only [List.tail_cons, List.mem_cons, List.not_mem_nil, or_false]
        rintro b (rfl | rfl)
        · exact isContinuation_low _
        · exact isContinuation_low _
      · simp only [List.tail_cons, List.mem_cons, List.not_mem_nil, or_false]
        rintro b (rfl | rfl | rfl)
        · exact isContinuation_low _
        · exact isContinuation_low _
        · exact isContinuation_low _

theorem le_of_isContinuation {b : UInt8} (continues : isContinuation b = true) :
    0x80 ≤ b.toNat := by
  simp only [isContinuation, beq_iff_eq] at continues
  omega

theorem toNat_asciiByte {n : Nat} (ascii : n < 0x80) : (UInt8.ofNat n).toNat = n :=
  UInt8.toNat_ofNat_of_lt' (Nat.lt_trans ascii (by decide))

/-- The byte of an ASCII character is in no other character. -/
theorem eq_of_mem_utf8EncodeChar {c d : Char} (ascii : d.toNat < 0x80)
    (member : UInt8.ofNat d.toNat ∈ String.utf8EncodeChar c) : c = d := by
  have value : (UInt8.ofNat d.toNat).toNat = d.toNat := toNat_asciiByte ascii
  by_cases small : c.toNat < 0x80
  · rw [utf8EncodeChar_ascii small, List.mem_singleton] at member
    have same : d.toNat = c.toNat := by
      rw [← value, member, toNat_asciiByte small]
    rw [← Char.ofNat_toNat c, ← same, Char.ofNat_toNat]
  · obtain ⟨b, rest, bytes, _, large⟩ := utf8EncodeChar_first c
    have behind := utf8EncodeChar_tail c
    rw [bytes] at member behind
    rcases List.mem_cons.mp member with first | later
    · have big := large (Nat.le_of_not_lt small)
      rw [← first, value] at big
      omega
    · have big := le_of_isContinuation (behind _ later)
      rw [value] at big
      omega

/-! ## 2. Decoding step by step -/

/-- The bytes that a percent-encoded text stands for. -/
def percentBytes (cs : List Char) : List UInt8 := percentBytesExcept (fun _ => false) cs

/-- Whether the text begins with a percent sign and two hexadecimal digits. -/
def startsEscape : List Char → Bool
  | '%' :: a :: b :: _ => (hexDigit? a).isSome && (hexDigit? b).isSome
  | _ => false

/-- A percent sign of the text stands before two hexadecimal digits. -/
def HasEscape (cs : List Char) : Prop :=
  ∃ before a b after, cs = before ++ '%' :: a :: b :: after ∧
    (hexDigit? a).isSome = true ∧ (hexDigit? b).isSome = true

theorem startsEscape_iff {cs : List Char} :
    startsEscape cs = true ↔
      ∃ a b x y rest, cs = '%' :: a :: b :: rest ∧ hexDigit? a = some x ∧ hexDigit? b = some y := by
  constructor
  · intro starts
    unfold startsEscape at starts
    split at starts
    · next a b rest =>
      rw [Bool.and_eq_true] at starts
      obtain ⟨x, first⟩ := Option.isSome_iff_exists.mp starts.1
      obtain ⟨y, second⟩ := Option.isSome_iff_exists.mp starts.2
      exact ⟨a, b, x, y, rest, rfl, first, second⟩
    · cases starts
  · rintro ⟨a, b, x, y, rest, rfl, first, second⟩
    simp [startsEscape, first, second]

theorem startsEscape_of_ne {c : Char} (other : c ≠ '%') (rest : List Char) :
    startsEscape (c :: rest) = false := by
  unfold startsEscape
  split
  · next same =>
    cases same
    exact absurd rfl other
  · rfl

theorem startsEscape_of_first {a : Char} (none : hexDigit? a = none) (rest : List Char) :
    startsEscape ('%' :: a :: rest) = false := by
  cases rest with
  | nil => rfl
  | cons b rest =>
    show ((hexDigit? a).isSome && (hexDigit? b).isSome) = false
    rw [none]
    rfl

theorem startsEscape_of_second {b : Char} (none : hexDigit? b = none) (a : Char)
    (rest : List Char) : startsEscape ('%' :: a :: b :: rest) = false := by
  show ((hexDigit? a).isSome && (hexDigit? b).isSome) = false
  rw [none, Option.isSome_none, Bool.and_false]

theorem percentBytes_nil : percentBytes [] = [] := by
  unfold percentBytes
  rw [percentBytesExcept]

theorem percentBytes_escape {a b : Char} {x y : Nat} (first : hexDigit? a = some x)
    (second : hexDigit? b = some y) (rest : List Char) :
    percentBytes ('%' :: a :: b :: rest) = UInt8.ofNat (x * 16 + y) :: percentBytes rest := by
  unfold percentBytes
  rw [percentBytesExcept]
  simp only [first, second, Bool.false_eq_true, ↓reduceIte]

theorem percentBytes_plain {c : Char} {rest : List Char}
    (free : startsEscape (c :: rest) = false) :
    percentBytes (c :: rest) = String.utf8EncodeChar c ++ percentBytes rest := by
  unfold percentBytes
  rw [percentBytesExcept.eq_def]
  split
  · next same => cases same
  · next a b more same =>
    cases same
    cases first : hexDigit? a with
    | none => rfl
    | some x =>
      cases second : hexDigit? b with
      | none => rfl
      | some y => simp [startsEscape, first, second] at free
  · next same =>
    cases same
    rfl

/-- Texts are decoded from the left: an escape as a whole, and any other character on its own. -/
@[elab_as_elim]
theorem escapeInduction {motive : List Char → Prop} (nil : motive [])
    (escape : ∀ a b x y rest, hexDigit? a = some x → hexDigit? b = some y → motive rest →
      motive ('%' :: a :: b :: rest))
    (plain : ∀ c rest, startsEscape (c :: rest) = false → motive rest → motive (c :: rest))
    (cs : List Char) : motive cs := by
  induction length : cs.length using Nat.strongRecOn generalizing cs with
  | _ n ih =>
    cases cs with
    | nil => exact nil
    | cons c rest =>
      subst length
      cases starts : startsEscape (c :: rest) with
      | false => exact plain c rest starts (ih rest.length (by simp) rest rfl)
      | true =>
        obtain ⟨a, b, x, y, more, same, first, second⟩ := startsEscape_iff.mp starts
        cases same
        exact escape a b x y more first second (ih more.length (by simp; omega) more rfl)

theorem hasEscape_nil : ¬ HasEscape [] := by
  rintro ⟨before, a, b, after, same, _⟩
  simp at same

theorem HasEscape.behind {c : Char} {rest : List Char} (free : startsEscape (c :: rest) = false)
    (escapes : HasEscape (c :: rest)) : HasEscape rest := by
  obtain ⟨before, a, b, after, same, first, second⟩ := escapes
  cases before with
  | nil =>
    cases same
    simp [startsEscape, first, second] at free
  | cons d before =>
    cases same
    exact ⟨before, a, b, after, rfl, first, second⟩

/-! ## 3. Encoded texts -/

/-- A character as it is encoded. -/
def encodeChar (c : Char) : List Char := (String.utf8EncodeChar c).flatMap encodeByte

theorem percentEncodeList_cons (c : Char) (rest : List Char) :
    percentEncodeList (c :: rest) = encodeChar c ++ percentEncodeList rest := by
  simp [percentEncodeList, bytesOf, encodeChar]

theorem hexDigit_upperHex : ∀ n < 16, hexDigit? (upperHex n) = some n := by decide

theorem toNat_ofNat_ascii : ∀ n < 0x80, (Char.ofNat n).toNat = n := by decide

theorem isKept_bounds {b : UInt8} (kept : isKept b = true) : 0x20 < b.toNat ∧ b.toNat < 0x7F := by
  simp only [isKept, Bool.and_eq_true, decide_eq_true_eq] at kept
  exact kept.1

theorem isKept_hexDigit :
    ∀ n < 0x80, (hexDigit? (Char.ofNat n)).isSome = true → isKept (UInt8.ofNat n) = true := by
  decide +kernel

theorem ascii_of_hexDigit {c : Char} {x : Nat} (digit : hexDigit? c = some x) :
    c.toNat < 0x80 := by
  have ends : c ≤ '9' ∨ c ≤ 'f' ∨ c ≤ 'F' := by
    unfold hexDigit? at digit
    split at digit
    · next inside => exact .inl inside.2
    · split at digit
      · next inside => exact .inr (.inl inside.2)
      · split at digit
        · next inside => exact .inr (.inr inside.2)
        · cases digit
  rcases ends with le | le | le
  · exact Nat.lt_of_le_of_lt le (by decide)
  · exact Nat.lt_of_le_of_lt le (by decide)
  · exact Nat.lt_of_le_of_lt le (by decide)

/-- A character stays as it is, or it is written with percent signs and is no hexadecimal digit. -/
theorem encodeChar_cases (c : Char) :
    encodeChar c = [c] ∨ hexDigit? c = none ∧ ∃ more, encodeChar c = '%' :: more := by
  by_cases ascii : c.toNat < 0x80
  · have single : encodeChar c = encodeByte (UInt8.ofNat c.toNat) := by
      rw [encodeChar, utf8EncodeChar_ascii ascii, List.flatMap_singleton]
    rw [single, encodeByte]
    split
    · rw [toNat_asciiByte ascii, Char.ofNat_toNat]
      exact .inl rfl
    · next escaped =>
      refine .inr ⟨?_, _, rfl⟩
      have kept := isKept_hexDigit c.toNat ascii
      rw [Char.ofNat_toNat] at kept
      exact Option.not_isSome_iff_eq_none.mp fun digit => escaped (kept digit)
  · refine .inr ⟨?_, ?_⟩
    · refine Option.eq_none_iff_forall_not_mem.mpr fun x digit => ?_
      exact ascii (ascii_of_hexDigit digit)
    · obtain ⟨b, rest, bytes, _, large⟩ := utf8EncodeChar_first c
      have big := large (Nat.le_of_not_lt ascii)
      have escaped : isKept b = false := by
        refine Bool.eq_false_iff.mpr fun kept => ?_
        have bound := (isKept_bounds kept).2
        omega
      rw [encodeChar, bytes, List.flatMap_cons, encodeByte, escaped]
      exact ⟨_, rfl⟩

theorem encodeChar_hexDigit {c : Char} {x : Nat} (digit : hexDigit? c = some x) :
    encodeChar c = [c] := by
  rcases encodeChar_cases c with kept | ⟨none, _⟩
  · exact kept
  · rw [none] at digit
    cases digit

/-- Bytes that are no percent signs are read as they were before they were encoded. -/
theorem percentBytes_encodeBytes {bytes : List UInt8} (free : ∀ b ∈ bytes, b ≠ 0x25)
    (rest : List Char) :
    percentBytes (bytes.flatMap encodeByte ++ rest) = bytes ++ percentBytes rest := by
  induction bytes with
  | nil => rfl
  | cons b more ih =>
    obtain ⟨here, later⟩ := List.forall_mem_cons.mp free
    rw [List.flatMap_cons, List.append_assoc, encodeByte]
    split
    · next kept =>
      obtain ⟨_, bound⟩ := isKept_bounds kept
      have value : (Char.ofNat b.toNat).toNat = b.toNat := toNat_ofNat_ascii _ (by omega)
      have other : Char.ofNat b.toNat ≠ '%' := by
        intro same
        rw [same] at value
        exact here (UInt8.toNat_inj.mp value.symm)
      rw [List.singleton_append, percentBytes_plain (startsEscape_of_ne other _), ih later,
        utf8EncodeChar_ascii (by omega), value, UInt8.ofNat_toNat]
      rfl
    · have size := b.toNat_lt
      have high := hexDigit_upperHex (b.toNat / 16) (by omega)
      have low := hexDigit_upperHex (b.toNat % 16) (by omega)
      have whole : b.toNat / 16 * 16 + b.toNat % 16 = b.toNat := by omega
      show percentBytes ('%' :: upperHex (b.toNat / 16) :: upperHex (b.toNat % 16) ::
        (more.flatMap encodeByte ++ rest)) = _
      rw [percentBytes_escape high low, ih later, whole, UInt8.ofNat_toNat]
      rfl

/-- Encoding makes no escape of a percent sign, and no percent sign of an escape. -/
theorem startsEscape_encode (rest : List Char) :
    startsEscape ('%' :: percentEncodeList rest) = startsEscape ('%' :: rest) := by
  have sign : hexDigit? '%' = none := by decide
  cases rest with
  | nil => rfl
  | cons a rest =>
    rw [percentEncodeList_cons]
    rcases encodeChar_cases a with kept | ⟨none, more, written⟩
    · rw [kept]
      cases rest with
      | nil => rfl
      | cons b rest =>
        rw [percentEncodeList_cons]
        rcases encodeChar_cases b with kept | ⟨none, more, written⟩
        · rw [kept]
          rfl
        · rw [written, startsEscape_of_second none]
          exact startsEscape_of_second sign _ _
    · rw [written, startsEscape_of_first none]
      exact startsEscape_of_first sign _

theorem percentBytes_encode (cs : List Char) :
    percentBytes (percentEncodeList cs) = percentBytes cs := by
  induction cs using escapeInduction with
  | nil => rfl
  | escape a b x y rest first second ih =>
    have sign : encodeChar '%' = ['%'] := by decide
    rw [percentEncodeList_cons, percentEncodeList_cons, percentEncodeList_cons, sign,
      encodeChar_hexDigit first, encodeChar_hexDigit second]
    show percentBytes ('%' :: a :: b :: percentEncodeList rest) = _
    rw [percentBytes_escape first second, percentBytes_escape first second, ih]
  | plain c rest free ih =>
    rw [percentEncodeList_cons, percentBytes_plain free, ← ih]
    by_cases sign : c = '%'
    · -- The sign is let through, and what follows it is no escape after encoding either.
      subst sign
      rw [← startsEscape_encode] at free
      exact percentBytes_plain free
    · refine percentBytes_encodeBytes (fun b member same => sign ?_) _
      subst same
      exact eq_of_mem_utf8EncodeChar (by decide) member

/-! ## 4. Characters from bytes -/

theorem firstChar_encode (c : Char) (rest : List UInt8) :
    firstChar? (String.utf8EncodeChar c ++ rest) = some c := by
  have short : (String.utf8EncodeChar c).length ≤ 4 := by
    rw [String.length_utf8EncodeChar]
    exact c.utf8Size_le_four
  rw [firstChar?, List.take_append, List.take_of_length_le short, List.toByteArray_append]
  exact ByteArray.utf8DecodeChar?_utf8EncodeChar_append

theorem readBytes_encode (c : Char) (rest : List UInt8) :
    readBytes (String.utf8EncodeChar c ++ rest) = c :: readBytes rest := by
  have filled : String.utf8EncodeChar c ++ rest ≠ [] := by
    simp [String.utf8EncodeChar_ne_nil]
  have size : max 1 (String.utf8EncodeChar c).length = (String.utf8EncodeChar c).length := by
    have positive := c.utf8Size_pos
    rw [String.length_utf8EncodeChar]
    omega
  rw [readBytes, dif_neg filled, firstChar_encode]
  dsimp only
  rw [size, List.drop_left]

theorem readBytes_nil : readBytes [] = [] := by
  rw [readBytes]
  rfl

theorem readBytes_bytesOf (cs : List Char) : readBytes (bytesOf cs) = cs := by
  induction cs with
  | nil => exact readBytes_nil
  | cons c rest ih =>
    show readBytes (String.utf8EncodeChar c ++ bytesOf rest) = _
    rw [readBytes_encode, ih]

/-- What is read as the first character is what the bytes begin with. -/
theorem prefix_of_firstChar {bytes : List UInt8} {c : Char} (reads : firstChar? bytes = some c) :
    String.utf8EncodeChar c <+: bytes := by
  have extracted := String.toByteArray_utf8EncodeChar_of_utf8DecodeChar?_eq_some reads
  have taken : (bytes.take 4).toByteArray.extract 0 c.utf8Size =
      ((bytes.take 4).take c.utf8Size).toByteArray := by
    apply ByteArray.ext
    apply Array.toList_inj.mp
    simp [ByteArray.data_extract]
  rw [taken, List.toByteArray_inj] at extracted
  rw [extracted]
  exact (List.take_prefix _ _).trans (List.take_prefix _ _)

theorem isContinuation_of_mayFollow {first second : UInt8}
    (follows : mayFollow first second = true) : isContinuation second = true := by
  unfold mayFollow at follows
  simp only [isContinuation, beq_iff_eq]
  split at follows
  all_goals
    simp only [Bool.and_eq_true, decide_eq_true_eq] at follows
    omega

theorem brokenLength_continues (bytes : List UInt8) :
    ∀ b ∈ (bytes.drop 1).take (max 1 (brokenLength bytes) - 1), isContinuation b = true := by
  unfold brokenLength
  split
  · next first second rest =>
    split
    · simp
    · next follows =>
      have second_continues : isContinuation second = true := by
        simp only [Bool.or_eq_true, Bool.not_eq_true', not_or, Bool.not_eq_false] at follows
        exact isContinuation_of_mayFollow follows.2
      split
      · simpa using second_continues
      · split
        · next third more =>
          split
          · next third_continues => simp [second_continues, third_continues]
          · simpa using second_continues
        · simpa using second_continues
  · simp

/-- Each character that is read takes one byte, and bytes behind it that continue a character. -/
theorem readBytes_step (first : UInt8) (rest : List UInt8) :
    ∃ c m, readBytes (first :: rest) = c :: readBytes (rest.drop m) ∧
      ∀ b ∈ rest.take m, isContinuation b = true := by
  rw [readBytes, dif_neg (List.cons_ne_nil _ _)]
  cases reads : firstChar? (first :: rest) with
  | none =>
    have continues := brokenLength_continues (first :: rest)
    obtain ⟨m, size⟩ : ∃ m, max 1 (brokenLength (first :: rest)) = m + 1 :=
      ⟨max 1 (brokenLength (first :: rest)) - 1, by omega⟩
    rw [size, Nat.add_sub_cancel] at continues
    dsimp only
    rw [size, List.drop_succ_cons]
    exact ⟨_, m, rfl, continues⟩
  | some c =>
    obtain ⟨more, whole⟩ := prefix_of_firstChar reads
    obtain ⟨b, tail, bytes, _⟩ := utf8EncodeChar_first c
    have continues := utf8EncodeChar_tail c
    rw [bytes] at continues
    rw [bytes, List.cons_append] at whole
    obtain ⟨rfl, rfl⟩ := List.cons.inj whole
    have size : max 1 (b :: tail).length = tail.length + 1 := by
      rw [List.length_cons]
      omega
    dsimp only
    rw [bytes, size, List.drop_succ_cons]
    refine ⟨c, tail.length, rfl, ?_⟩
    rw [List.take_left]
    exact continues

/-! ## 5. Lengths -/

/-- Bytes that continue a character are only there by escapes. -/
theorem percentBytes_drop (cs : List Char) (m : Nat)
    (continues : ∀ b ∈ (percentBytes cs).take m, isContinuation b = true) :
    ∃ rest, (percentBytes cs).drop m = percentBytes rest ∧ rest.length ≤ cs.length := by
  induction cs using escapeInduction generalizing m with
  | nil => exact ⟨[], by rw [percentBytes_nil, List.drop_nil], Nat.le_refl _⟩
  | escape a b x y rest first second ih =>
    cases m with
    | zero => exact ⟨_, rfl, Nat.le_refl _⟩
    | succ m =>
      rw [percentBytes_escape first second] at continues ⊢
      rw [List.take_succ_cons] at continues
      obtain ⟨left, same, shorter⟩ := ih m fun b member =>
        continues b (List.mem_cons_of_mem _ member)
      refine ⟨left, same, ?_⟩
      simp only [List.length_cons]
      omega
  | plain c rest free ih =>
    cases m with
    | zero => exact ⟨_, rfl, Nat.le_refl _⟩
    | succ m =>
      obtain ⟨b, tail, bytes, starts, _⟩ := utf8EncodeChar_first c
      rw [percentBytes_plain free, bytes, List.cons_append, List.take_succ_cons] at continues
      rw [continues b List.mem_cons_self] at starts
      cases starts

theorem length_decoded_le (cs : List Char) :
    (percentDecodeList cs).length ≤ cs.length ∧
      (HasEscape cs → (percentDecodeList cs).length < cs.length) := by
  show (readBytes (percentBytes cs)).length ≤ _ ∧ (_ → (readBytes (percentBytes cs)).length < _)
  induction length : cs.length using Nat.strongRecOn generalizing cs with
  | _ n ih =>
    subst length
    cases cs with
    | nil =>
      rw [percentBytes_nil, readBytes_nil]
      exact ⟨Nat.le_refl _, fun escapes => absurd escapes hasEscape_nil⟩
    | cons c rest =>
      cases starts : startsEscape (c :: rest) with
      | false =>
        obtain ⟨le, lt⟩ := ih rest.length (by simp) rest rfl
        rw [percentBytes_plain starts, readBytes_encode, List.length_cons, List.length_cons]
        exact ⟨by omega, fun escapes => by have := lt (escapes.behind starts); omega⟩
      | true =>
        -- The escape gives one byte, and a character takes it with more of its kind.
        obtain ⟨a, b, x, y, more, same, first, second⟩ := startsEscape_iff.mp starts
        cases same
        rw [percentBytes_escape first second]
        obtain ⟨d, m, reads, continues⟩ :=
          readBytes_step (UInt8.ofNat (x * 16 + y)) (percentBytes more)
        obtain ⟨left, drops, shorter⟩ := percentBytes_drop more m continues
        rw [reads, drops]
        obtain ⟨le, _⟩ := ih left.length (by simp; omega) left rfl
        simp only [List.length_cons]
        exact ⟨by omega, fun _ => by omega⟩

theorem percentBytes_of_free {cs : List Char} (free : ¬ HasEscape cs) :
    percentBytes cs = bytesOf cs := by
  induction cs with
  | nil => exact percentBytes_nil
  | cons c rest ih =>
    have starts : startsEscape (c :: rest) = false := by
      refine Bool.eq_false_iff.mpr fun starts => free ?_
      obtain ⟨a, b, x, y, more, same, first, second⟩ := startsEscape_iff.mp starts
      exact ⟨[], a, b, more, same, by simp [first], by simp [second]⟩
    have behind : ¬ HasEscape rest := by
      rintro ⟨before, a, b, after, rfl, digits⟩
      exact free ⟨c :: before, a, b, after, rfl, digits⟩
    rw [percentBytes_plain starts, ih behind]
    rfl

/-- Decoding leaves exactly those texts as they are that have no escapes. -/
theorem percentDecode_eq_self_iff (s : String) : percentDecode s = s ↔ ¬ HasEscape s.toList := by
  constructor
  · intro same escapes
    have shorter := (length_decoded_le s.toList).2 escapes
    have lists : percentDecodeList s.toList = s.toList := by
      rw [← String.toList_ofList (l := percentDecodeList s.toList)]
      exact congrArg String.toList same
    rw [lists] at shorter
    exact Nat.lt_irrefl _ shorter
  · intro free
    show String.ofList (readBytes (percentBytes s.toList)) = s
    rw [percentBytes_of_free free, readBytes_bytesOf, String.ofList_toList]

theorem percentDecode_encode (s : String) : percentDecode (percentEncode s) = percentDecode s := by
  show String.ofList (readBytes (percentBytes (percentEncode s).toList)) =
    String.ofList (readBytes (percentBytes s.toList))
  rw [percentEncode, String.toList_ofList, percentBytes_encode]

end Text

/-! ## 6. Templates -/

namespace Template

open Reroute.Text

/-- The template that decodes the encoded text of another one. -/
def decodedEncoded (t : Template) : Template :=
  [.function .urlDecode [.function .urlEncode t]]

theorem expand_function (s : Scene) (f : TextFunction) (t : Template) :
    expand s [.function f t] = (expand s t).map f.apply := by
  rw [expand, expandSegment]
  cases expand s t with
  | error e => rfl
  | ok text => simp [expand, Except.map]

/-- Decoding an encoded text gives what decoding the text itself gives. This is the text again
exactly if no percent sign in it stands before two hexadecimal digits. So in a template the two
functions leave the text inside them as it is exactly if it is such a text, and they fail where
the template inside them does. -/
theorem expand_decode_encode (text : String) (s : Scene) (t : Template) :
    TextFunction.urlDecode.apply (TextFunction.urlEncode.apply text) =
        TextFunction.urlDecode.apply text ∧
      (TextFunction.urlDecode.apply (TextFunction.urlEncode.apply text) = text ↔
        ¬ HasEscape text.toList) ∧
      expand s (decodedEncoded t) = (expand s t).map TextFunction.urlDecode.apply ∧
      (expand s (decodedEncoded t) = expand s t ↔
        ∀ inner, expand s t = .ok inner → ¬ HasEscape inner.toList) := by
  have decodes : ∀ text, TextFunction.urlDecode.apply (TextFunction.urlEncode.apply text) =
      TextFunction.urlDecode.apply text := percentDecode_encode
  have unchanged : ∀ text, TextFunction.urlDecode.apply text = text ↔ ¬ HasEscape text.toList :=
    percentDecode_eq_self_iff
  have nested : expand s (decodedEncoded t) =
      (expand s t).map TextFunction.urlDecode.apply := by
    rw [decodedEncoded, expand_function, expand_function]
    cases expand s t with
    | error e => rfl
    | ok inner => exact congrArg Except.ok (decodes inner)
  refine ⟨decodes text, ?_, nested, ?_⟩
  · rw [decodes]
    exact unchanged text
  · rw [nested]
    cases expand s t with
    | error e => simp [Except.map]
    | ok inner =>
      rw [Except.map, Except.ok.injEq, unchanged]
      simp

/-- A text that is written like an escape is not encoded, and is decoded to another one. -/
theorem escaped_text_lost :
    TextFunction.urlEncode.apply "%41" = "%41" ∧
    TextFunction.urlDecode.apply (TextFunction.urlEncode.apply "%41") = "A" ∧
    HasEscape "%41".toList ∧
    expand ⟨Request.ofUrl "/", {}, false, false⟩ [.literal "%41"] = .ok "%41" ∧
    expand ⟨Request.ofUrl "/", {}, false, false⟩ (decodedEncoded [.literal "%41"]) = .ok "A" := by
  have encoded : TextFunction.urlEncode.apply "%41" = "%41" := by decide +kernel
  have decoded : TextFunction.urlDecode.apply "%41" = "A" := by decide +kernel
  refine ⟨encoded, ?_, ⟨[], '4', '1', [], rfl, rfl, rfl⟩, rfl, ?_⟩
  · rw [encoded]
    exact decoded
  · rw [decodedEncoded, expand_function, expand_function]
    have inner : expand ⟨Request.ofUrl "/", {}, false, false⟩ [.literal "%41"] = .ok "%41" := rfl
    rw [inner, Except.map, Except.map, encoded, decoded]

end Template

end Reroute
