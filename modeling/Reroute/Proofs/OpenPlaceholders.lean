import Reroute.Proofs.NamedPlaceholders

/-!
# Placeholders that are never closed

A template is refused if its text ends inside of a placeholder, with the byte of a brace. In a
directive line nothing nests, so this is the sign of the only placeholder that can be open there,
and all before it is a template. In a rewrite section several placeholders may be open at the end of
the text. Which ones these are is found by going along the text once and keeping the places of the
open braces (`Nesting`); a brace in a name or behind a backslash opens and closes nothing. The
readers call each other instead, but what is left open behind them is the same, so the one that is
reported is the innermost.

Results:
1. `readDollar_unclosed`, `ofDollar_unclosed`: directive lines.
2. `Nesting`, `stillOpen`: the placeholders that are open at the end of a text.
3. `Fits.step`, `Fits.along`: they are braces of the text, the innermost first.
4. `left_named`, `left_colon`, `left_index`: what is passed in one go.
5. `accounts_of_read`: reading goes along with the nesting, and reports its first entry.
6. `unclosed_located`: where texts are refused.
-/

namespace Reroute.Template

open Reroute.Text

/-! ## 1. Directive lines -/

/-- The text is read as a template, wherever it stands and with any fuel. -/
def Complete (cs : List Char) : Prop :=
  ∀ fuel offset text, ∃ t, readDollar fuel offset text cs = .ok t

namespace Complete

theorem nil : Complete [] := fun fuel offset text => ⟨_, by rw [readDollar]⟩

/-- Without fuel nothing is refused. -/
theorem of_fuel {c : Char} {cs : List Char}
    (reads : ∀ fuel offset text, ∃ t, readDollar (fuel + 1) offset text (c :: cs) = .ok t) :
    Complete (c :: cs) := by
  intro fuel offset text
  cases fuel with
  | zero => exact ⟨_, by rw [readDollar]; simp⟩
  | succ fuel => exact reads fuel offset text

theorem escaped {c : Char} {cs : List Char} (later : Complete cs) : Complete ('\\' :: c :: cs) :=
  of_fuel fun fuel offset text => by
    rw [readDollar]
    exact later _ _ _

theorem group {c d : Char} {cs : List Char} (marks : c = '$' ∨ c = '%') (digit : d.isDigit = true)
    (later : Complete cs) : Complete (c :: d :: cs) :=
  of_fuel fun fuel offset text => by
    rw [readDollar_group fuel offset text d marks digit]
    obtain ⟨t, reads⟩ := later fuel (offset + 2) []
    exact ⟨_, map_ok_iff.mpr ⟨t, reads, rfl⟩⟩

theorem server {name cs : List Char} {v : Variable} (closed : ∀ c ∈ name, c ≠ '\x7d')
    (known : Variable.ofName (String.ofList name) = .ok v) (later : Complete cs) :
    Complete ('%' :: '\x7b' :: (name ++ '\x7d' :: cs)) :=
  of_fuel fun fuel offset text => by
    rw [readDollar_server fuel offset text name cs closed]
    obtain ⟨t, reads⟩ := later fuel (offset + 3 + byteLength name) []
    exact ⟨_, bind_ok_iff.mpr ⟨v, known, map_ok_iff.mpr ⟨t, reads, rfl⟩⟩⟩

theorem char {c : Char} {cs : List Char} (unmarked : c ∉ dollarMarks) (later : Complete cs) :
    Complete (c :: cs) :=
  of_fuel fun fuel offset text => by
    rw [readDollar_text fuel offset text unmarked]
    exact later _ _ _

/-- A sign that starts nothing. -/
theorem sign {c : Char} {cs : List Char} (marks : c = '$' ∨ c = '%')
    (bare : ∀ d, cs.head? = some d → d.isDigit = false ∧ ¬ (c = '%' ∧ d = '\x7b'))
    (later : Complete cs) : Complete (c :: cs) :=
  of_fuel fun fuel offset text => by
    have noBackslash : c ≠ '\\' := by rcases marks with rfl | rfl <;> decide
    have step : readDollar (fuel + 1) offset text (c :: cs) =
        readDollar fuel (offset + 1) (c :: text) cs := by
      cases cs with
      | nil => rw [readDollar.eq_5] <;> simp [noBackslash, marks]
      | cons d tail =>
        obtain ⟨noDigit, noName⟩ := bare d rfl
        rw [readDollar] <;> simp [noBackslash, marks, noDigit, noName]
    rw [step]
    exact later _ _ _

end Complete

/-- `Unclosed i offset cs`: where `cs` begins at byte `offset`, a name in braces begins at byte `i`
and does not end, and all before it is complete. -/
def Unclosed (i offset : Nat) (cs : List Char) : Prop :=
  ∃ before after, cs = before ++ '%' :: '\x7b' :: after ∧ i = offset + byteLength before ∧
    '\x7d' ∉ after ∧ Complete before

/-- What has been passed stays in front. -/
theorem Unclosed.behind {i offset later : Nat} {cs : List Char} (unclosed : Unclosed i later cs)
    (front : List Char) (here : later = offset + byteLength front)
    (complete : ∀ before, before <+: cs → Complete before → Complete (front ++ before)) :
    Unclosed i offset (front ++ cs) := by
  obtain ⟨before, after, rfl, rfl, open_, whole⟩ := unclosed
  refine ⟨front ++ before, after, by simp, ?_, open_,
    complete before (List.prefix_append _ _) whole⟩
  rw [here, byteLength_append, Nat.add_assoc]

theorem utf8Size_of_isDigit {d : Char} (digit : d.isDigit = true) : d.utf8Size = 1 := by
  obtain ⟨_, high⟩ : 48 ≤ d.toNat ∧ d.toNat ≤ 57 := Char.isDigit_iff_toNat.mp digit
  rw [Char.utf8Size_eq_one_iff, UInt32.le_iff_toNat_le]
  exact high.trans (by decide)

theorem utf8Size_of_sign {c : Char} (marks : c = '$' ∨ c = '%') : c.utf8Size = 1 := by
  rcases marks with rfl | rfl <;> rfl

theorem ofName_ne_unclosed {name : String} {i : Nat} :
    Variable.ofName name ≠ .error (.unclosedPlaceholder i) := by
  unfold Variable.ofName
  cases Variable.ofName? name <;> simp

theorem readDollar_unclosed {fuel offset i : Nat} {text cs : List Char}
    (fails : readDollar fuel offset text cs = .error (.unclosedPlaceholder i)) :
    Unclosed i offset cs := by
  fun_induction readDollar fuel offset text cs with
  | case1 | case2 | case3 => cases fails
  | case4 offset text fuel c rest ih =>
    refine (ih fails).behind ['\\', c] ?_ fun before _ whole => whole.escaped
    rw [byteLength_cons, byteLength_cons, Nat.add_assoc]
    rfl
  | case5 =>
    rw [readDollar] at fails
    cases fails
  | case6 offset text fuel c marks d tail digit segment _ _ ih =>
    refine (ih (map_error_iff.mp fails)).behind [c, d] ?_
      fun before _ whole => whole.group marks digit
    rw [byteLength_cons, byteLength_cons, utf8Size_of_sign marks, utf8Size_of_isDigit digit]
    rfl
  | case7 offset text fuel c marks d tail noDigit name open_ =>
    obtain ⟨rfl, rfl⟩ := name
    cases fails
    refine ⟨[], tail, rfl, rfl, fun closes => ?_, .nil⟩
    simpa using splitFirst_eq_none_iff.mp open_ _ closes
  | case8 offset text fuel c marks d tail noDigit sign name behind taken e unknown =>
    cases fails
    exact absurd unknown ofName_ne_unclosed
  | case9 offset text fuel c marks d tail noDigit sign name behind taken v known _ _ ih =>
    obtain ⟨rfl, rfl⟩ := sign
    have closed : ∀ c ∈ name, c ≠ '\x7d' := fun c member => by
      simpa using splitFirst_before taken member
    obtain ⟨stop, isStop, rfl⟩ := splitFirst?_append taken
    obtain rfl : stop = '\x7d' := by simpa using isStop
    have later : Unclosed i offset ('%' :: '\x7b' :: (name ++ ['\x7d']) ++ behind) :=
      (ih (map_error_iff.mp fails)).behind _ ?_ fun before _ whole => ?_
    · simpa using later
    · rw [byteLength_cons, byteLength_cons, byteLength_append, byteLength_cons]
      show offset + 3 + byteLength name = offset + (1 + (1 + (byteLength name + (1 + 0))))
      omega
    · have complete := whole.server closed known
      simpa using complete
  | case10 offset text fuel c marks d tail noDigit noName _ _ ih =>
    refine (ih fails).behind [c] ?_ fun before starts whole =>
      whole.sign marks fun d' first => ?_
    · rw [byteLength_cons, utf8Size_of_sign marks]
      rfl
    · -- What is complete in front begins like the text.
      obtain ⟨more, split⟩ := starts
      obtain ⟨front, rfl⟩ := List.head?_eq_some_iff.mp first
      obtain ⟨rfl, _⟩ := List.cons.inj split
      exact ⟨Bool.eq_false_iff.mpr noDigit, noName⟩
  | case11 offset text fuel c rest notLast notEscaping noSign ih =>
    have noBackslash : c ≠ '\\' := fun same => by
      cases rest with
      | nil => exact notLast same rfl
      | cons d tail => exact notEscaping d tail same rfl
    refine (ih fails).behind [c] ?_ fun before _ whole => whole.char ?_
    · rw [byteLength_cons]
      rfl
    · simpa [dollarMarks, noBackslash] using noSign

/-- A directive line is refused for the sign of a name in braces. The braces are not closed up to
the end of the line, and the line in front of the sign is a template. -/
theorem ofDollar_unclosed {text : String} {i : Nat}
    (fails : ofDollar text = .error (.unclosedPlaceholder i)) :
    ∃ before after, text.toList = before ++ '%' :: '\x7b' :: after ∧ byteLength before = i ∧
      '\x7d' ∉ after ∧ ∃ t, ofDollar (String.ofList before) = .ok t := by
  obtain ⟨before, after, whole, rfl, open_, complete⟩ := readDollar_unclosed fails
  refine ⟨before, after, whole, (Nat.zero_add _).symm, open_, ?_⟩
  rw [ofDollar, String.toList_ofList]
  exact complete _ 0 []

/-! ## 2. Placeholders of rewrite sections -/

/-- Where a place in the text of a template is. -/
inductive Standing
  | text
  /-- Behind a backslash. -/
  | escaped
  /-- In a placeholder, behind the beginning of its name. -/
  | name (front : List Char)
  /-- In a placeholder, behind the colon of a group. -/
  | digits
deriving DecidableEq, Repr

/-- The placeholders that are open at a place in a text: the bytes of their braces, the innermost
first. -/
structure Nesting where
  starts : List Nat := []
  standing : Standing := .text
deriving DecidableEq, Repr

namespace Nesting

/-- Behind a placeholder, of which the closing brace has been passed. -/
def close (n : Nesting) : Nesting := ⟨n.starts.tail, .text⟩

/-- Goes past a character, which is at byte `offset`. -/
def step (n : Nesting) (offset : Nat) (c : Char) : Nesting :=
  match n.standing with
  | .text =>
    if c = '\\' then { n with standing := .escaped }
    else if c = '\x7b' then ⟨offset :: n.starts, .name []⟩
    else if c = '\x7d' then n.close
    else n
  | .escaped => { n with standing := .text }
  | .name front =>
    if c = '\x7d' then n.close
    else if c = ':' then
      { n with standing := if isGroup (String.ofList front) then .digits else .text }
    else { n with standing := .name (front ++ [c]) }
  | .digits => if c = '\x7d' then n.close else n

/-- Goes along a text that begins at byte `offset`. -/
def along (n : Nesting) (offset : Nat) : List Char → Nesting
  | [] => n
  | c :: rest => (n.step offset c).along (offset + c.utf8Size) rest

end Nesting

/-- The placeholders that are still open where the text ends, the innermost first. -/
def stillOpen (text : String) : List Nat := (Nesting.along {} 0 text.toList).starts

example : stillOpen "é\x7bToLower:\\\x7b\x7bURL\x7d\x7bm:\x7bR:\x7b1" = [21, 18, 2] := by decide

/-! ## 3. Open braces -/

namespace Nesting

/-- The places are those of opening braces in the text passed so far, the last one first. -/
structure Fits (n : Nesting) (passed : List Char) : Prop where
  braces : ∀ i ∈ n.starts, ∃ before after,
    passed = before ++ '\x7b' :: after ∧ byteLength before = i
  ordered : n.starts.Pairwise (· > ·)

namespace Fits

variable {n : Nesting} {passed : List Char}

theorem longer (fits : n.Fits passed) (more : List Char) (standing : Standing) :
    Fits ⟨n.starts, standing⟩ (passed ++ more) where
  braces i member := by
    obtain ⟨before, after, rfl, here⟩ := fits.braces i member
    exact ⟨before, after ++ more, by simp, here⟩
  ordered := fits.ordered

theorem close (fits : n.Fits passed) : n.close.Fits passed where
  braces i member := fits.braces i (List.mem_of_mem_tail member)
  ordered := fits.ordered.tail

theorem open_ (fits : n.Fits passed) (standing : Standing) :
    Fits ⟨byteLength passed :: n.starts, standing⟩ (passed ++ ['\x7b']) where
  braces := by
    refine List.forall_mem_cons.mpr ⟨⟨passed, [], rfl, rfl⟩, ?_⟩
    exact (fits.longer ['\x7b'] standing).braces
  ordered := by
    refine List.pairwise_cons.mpr ⟨fun i member => ?_, fits.ordered⟩
    obtain ⟨before, after, rfl, rfl⟩ := fits.braces i member
    rw [byteLength_append, byteLength_cons]
    exact Nat.lt_add_of_pos_right (Nat.add_pos_left (Char.utf8Size_pos _) _)

theorem step (fits : n.Fits passed) (c : Char) :
    (n.step (byteLength passed) c).Fits (passed ++ [c]) := by
  obtain ⟨starts, standing⟩ := n
  unfold Nesting.step
  cases standing with
  | text =>
    dsimp only
    split
    · exact fits.longer _ _
    · split
      · next opening =>
        rw [opening]
        exact fits.open_ _
      · split
        · exact fits.close.longer _ _
        · exact fits.longer _ _
  | escaped => exact fits.longer _ _
  | name front =>
    dsimp only
    split
    · exact fits.close.longer _ _
    · split
      · exact fits.longer _ _
      · exact fits.longer _ _
  | digits =>
    dsimp only
    split
    · exact fits.close.longer _ _
    · exact fits.longer _ _

theorem along (fits : n.Fits passed) (rest : List Char) :
    (n.along (byteLength passed) rest).Fits (passed ++ rest) := by
  induction rest generalizing n passed with
  | nil =>
    rw [List.append_nil]
    exact fits
  | cons c rest ih =>
    have later := ih (fits.step c)
    rw [byteLength_append, byteLength_cons, List.append_assoc] at later
    exact later

end Fits

end Nesting

theorem along_fits (text : String) : (Nesting.along {} 0 text.toList).Fits text.toList := by
  have fits : Nesting.Fits {} [] := ⟨by simp, .nil⟩
  exact fits.along text.toList

/-! ## 4. What is left to read -/

/-- The placeholders that are open at the end of what is left to read. -/
def Nesting.left (n : Nesting) (at_ : Cursor) : List Nat := (n.along at_.offset at_.rest).starts

variable {starts : List Nat}

theorem left_cons (n : Nesting) (c : Char) (rest : List Char) (offset : Nat) :
    n.left ⟨c :: rest, offset⟩ = (n.step offset c).left ⟨rest, offset + c.utf8Size⟩ := rfl

theorem left_name (starts : List Nat) (front : List Char) {name : List Char}
    (free : ∀ c ∈ name, c ≠ ':' ∧ c ≠ '\x7d') (offset : Nat) (rest : List Char) :
    Nesting.left ⟨starts, .name front⟩ ⟨name ++ rest, offset⟩ =
      Nesting.left ⟨starts, .name (front ++ name)⟩ ⟨rest, offset + byteLength name⟩ := by
  induction name generalizing front offset with
  | nil => rw [List.append_nil]; rfl
  | cons c name ih =>
    obtain ⟨⟨noColon, noClosing⟩, later⟩ := List.forall_mem_cons.mp free
    have step : Nesting.step ⟨starts, .name front⟩ offset c = ⟨starts, .name (front ++ [c])⟩ := by
      simp [Nesting.step, noColon, noClosing]
    calc Nesting.left ⟨starts, .name front⟩ ⟨c :: (name ++ rest), offset⟩
        = Nesting.left ⟨starts, .name (front ++ [c])⟩ ⟨name ++ rest, offset + c.utf8Size⟩ := by
          rw [left_cons, step]
      _ = Nesting.left ⟨starts, .name (front ++ [c] ++ name)⟩
            ⟨rest, offset + c.utf8Size + byteLength name⟩ := ih _ later _
      _ = _ := by rw [List.append_assoc, Nat.add_assoc, ← byteLength_cons]; rfl

theorem left_digits (starts : List Nat) {digits : List Char} (free : ∀ c ∈ digits, c ≠ '\x7d')
    (offset : Nat) (rest : List Char) :
    Nesting.left ⟨starts, .digits⟩ ⟨digits ++ rest, offset⟩ =
      Nesting.left ⟨starts, .digits⟩ ⟨rest, offset + byteLength digits⟩ := by
  induction digits generalizing offset with
  | nil => rfl
  | cons c digits ih =>
    obtain ⟨noClosing, later⟩ := List.forall_mem_cons.mp free
    have step : Nesting.step ⟨starts, .digits⟩ offset c = ⟨starts, .digits⟩ := by
      simp [Nesting.step, noClosing]
    rw [List.cons_append, left_cons, step, ih later, byteLength_cons, Nat.add_assoc]

/-- A placeholder without a colon. -/
theorem left_named {name : String} (unmarked : Unmarked name) (start offset : Nat)
    (rest : List Char) :
    Nesting.left ⟨start :: starts, .name []⟩ ⟨name.toList ++ '\x7d' :: rest, offset⟩ =
      Nesting.left ⟨starts, .text⟩ ⟨rest, offset + byteLength name.toList + 1⟩ := by
  rw [left_name _ _ unmarked, left_cons]
  rfl

/-- What stands behind the colon depends on whether the name is that of a group. -/
theorem left_colon {name : String} (unmarked : Unmarked name) (offset : Nat) (rest : List Char) :
    Nesting.left ⟨starts, .name []⟩ ⟨name.toList ++ ':' :: rest, offset⟩ =
      Nesting.left ⟨starts, if isGroup name then .digits else .text⟩
        ⟨rest, offset + byteLength name.toList + 1⟩ := by
  have step : Nesting.step ⟨starts, .name name.toList⟩ (offset + byteLength name.toList) ':' =
      ⟨starts, if isGroup name then .digits else .text⟩ := by
    simp [Nesting.step]
  rw [left_name _ _ unmarked, left_cons, List.nil_append, step]
  rfl

/-- The number of a group. -/
theorem left_index {digits : List Char} (free : ∀ c ∈ digits, c ≠ '\x7d') (start offset : Nat)
    (rest : List Char) :
    Nesting.left ⟨start :: starts, .digits⟩ ⟨digits ++ '\x7d' :: rest, offset⟩ =
      Nesting.left ⟨starts, .text⟩ ⟨rest, offset + byteLength digits + 1⟩ := by
  rw [left_digits _ free, left_cons]
  rfl

/-- A character that is no mark. -/
theorem left_char {c : Char} (noBackslash : c ≠ '\\') (noOpening : c ≠ '\x7b')
    (noClosing : starts.head?.isSome = true → c ≠ '\x7d') (rest : List Char) (offset : Nat) :
    Nesting.left ⟨starts, .text⟩ ⟨c :: rest, offset⟩ =
      Nesting.left ⟨starts, .text⟩ ⟨rest, offset + c.utf8Size⟩ := by
  have step : Nesting.step ⟨starts, .text⟩ offset c = ⟨starts, .text⟩ := by
    cases starts with
    | nil => simp [Nesting.step, Nesting.close, noBackslash, noOpening]
    | cons => simp [Nesting.step, noBackslash, noOpening, noClosing rfl]
  rw [left_cons, step]

/-! ## 5. Reading -/

/-- `Accounts opened after outcome`: if something was read, then the placeholders that were left
open are the same behind it, and if the text ended inside of one, it is the first of them. -/
structure Accounts {α : Type} (opened : List Nat) (after : Nesting)
    (outcome : Except TemplateError (α × Cursor)) : Prop where
  reads : ∀ found next, outcome = .ok (found, next) → opened = after.left next
  ends : ∀ i, outcome = .error (.unclosedPlaceholder i) → opened.head? = some i

namespace Accounts

variable {α β : Type} {opened : List Nat} {between after : Nesting}

theorem read {found : α} {next : Cursor} (same : opened = after.left next) :
    Accounts opened after (.ok (found, next)) where
  reads _ _ ok := by
    cases ok
    exact same
  ends _ error := by cases error

theorem unclosed {i : Nat} (first : opened.head? = some i) :
    Accounts (α := α) opened after (.error (.unclosedPlaceholder i)) where
  reads _ _ ok := by cases ok
  ends _ error := by
    cases error
    exact first

theorem bind {x : Except TemplateError (α × Cursor)}
    {f : α × Cursor → Except TemplateError (β × Cursor)} (first : Accounts opened between x)
    (second : ∀ found next, x = .ok (found, next) →
      Accounts (between.left next) after (f (found, next))) : Accounts opened after (x >>= f) where
  reads found last ok := by
    obtain ⟨⟨inner, next⟩, here, later⟩ := bind_ok_iff.mp ok
    rw [first.reads inner next here]
    exact (second inner next here).reads found last later
  ends i error := by
    rcases bind_error_iff.mp error with here | ⟨⟨inner, next⟩, here, later⟩
    · exact first.ends i here
    · rw [first.reads inner next here]
      exact (second inner next here).ends i later

/-- What is made of what was read is never refused for a place. -/
theorem made {x : Except TemplateError α} {f : α → β} {next : Cursor}
    (elsewhere : ∀ i, x ≠ .error (.unclosedPlaceholder i)) (same : opened = after.left next) :
    Accounts opened after (x.map fun found => (f found, next)) where
  reads _ _ ok := by
    obtain ⟨_, _, here⟩ := map_ok_iff.mp ok
    cases here
    exact same
  ends i error := absurd (map_error_iff.mp error) (elsewhere i)

end Accounts

variable {tables : LookupTables}

theorem namedSegment_ne_unclosed {name : List Char} {i : Nat} :
    namedSegment name ≠ .error (.unclosedPlaceholder i) := fun fails => by
  obtain ⟨_, same⟩ := namedSegment_error fails
  cases same

theorem readIndex_ne_unclosed {name digits : List Char} {i : Nat} :
    readIndex name digits ≠ .error (.unclosedPlaceholder i) := fun fails => by
  obtain ⟨_, same⟩ := readIndex_error fails
  cases same

theorem nestedSegment_ne_unclosed {name : String} {inner : Template} {i : Nat} :
    nestedSegment tables name.toList inner ≠ .error (.unclosedPlaceholder i) := fun fails => by
  cases (nestedSegment_error fails).1

/-- Behind the colon of a group. -/
theorem accounts_of_group {name : String} (unmarked : Unmarked name) (group : isGroup name = true)
    (fuel start : Nat) (outer : List Nat) (offset : Nat) (behind : List Char) :
    Accounts
      (Nesting.left ⟨start :: outer, .digits⟩ ⟨behind, offset + byteLength name.toList + 1⟩)
      ⟨outer, .text⟩
      (readPlaceholder tables (fuel + 1) start ⟨name.toList ++ ':' :: behind, offset⟩) := by
  have split : splitFirst? (fun c => c == '\x7d' || c == ':') (name.toList ++ ':' :: behind) =
      some (name.toList, behind) :=
    splitFirst_of_free (fun c member => by simp [unmarked c member]) rfl _
  have colon : (name.toList ++ ':' :: behind)[name.toList.length]? = some ':' := by simp
  have named : (sameAsciiCase name "R" || sameAsciiCase name "C") = true := group
  rw [readPlaceholder, split]
  simp only [colon, Option.some.injEq, Char.reduceEq, ↓reduceIte, String.ofList_toList, named]
  cases closes : splitFirst? (· == '\x7d') behind with
  | none =>
    have free : ∀ c ∈ behind, c ≠ '\x7d' := fun c member => by
      simpa using splitFirst_eq_none_iff.mp closes c member
    have all := left_digits (start :: outer) free
      (offset + byteLength name.toList + 1) []
    rw [List.append_nil] at all
    refine .unclosed ?_
    rw [all]
    rfl
  | some read =>
    obtain ⟨digits, after⟩ := read
    have free : ∀ c ∈ digits, c ≠ '\x7d' := fun c member => by
      simpa using splitFirst_before closes member
    obtain ⟨stop, isStop, rfl⟩ := splitFirst?_append closes
    obtain rfl : stop = '\x7d' := by simpa using isStop
    rw [left_index free]
    exact .made (fun _ => readIndex_ne_unclosed) rfl

/-- Behind the brace of a placeholder, if templates are read as they should be. -/
theorem accounts_of_placeholder {fuel : Nat}
    (below : ∀ starts text at_, at_.rest.length < fuel →
      Accounts (Nesting.left ⟨starts, .text⟩ at_) ⟨starts.tail, .text⟩
        (readBraced tables fuel starts.head? text at_))
    (start : Nat) (outer : List Nat) (at_ : Cursor) (enough : at_.rest.length < fuel + 1) :
    Accounts (Nesting.left ⟨start :: outer, .name []⟩ at_) ⟨outer, .text⟩
      (readPlaceholder tables (fuel + 1) start at_) := by
  obtain ⟨whole, offset⟩ := at_
  cases split : splitFirst? (fun c => c == '\x7d' || c == ':') whole with
  | none =>
    have free : ∀ c ∈ whole, c ≠ ':' ∧ c ≠ '\x7d' := fun c member => by
      have other := splitFirst_eq_none_iff.mp split c member
      simp only [Bool.or_eq_false_iff, beq_eq_false_iff_ne] at other
      exact ⟨other.2, other.1⟩
    have all := left_name (start :: outer) [] free offset []
    rw [List.append_nil] at all
    rw [readPlaceholder, split, all]
    exact .unclosed rfl
  | some found =>
    obtain ⟨name, behind⟩ := found
    obtain ⟨name, rfl⟩ : ∃ written : String, name = written.toList :=
      ⟨String.ofList name, String.toList_ofList.symm⟩
    have unmarked : Unmarked name := unmarked_of_splitFirst split
    obtain ⟨mark, isMark, rfl⟩ := splitFirst?_append split
    obtain rfl | rfl : mark = '\x7d' ∨ mark = ':' := by simpa using isMark
    · have closing : (name.toList ++ '\x7d' :: behind)[name.toList.length]? = some '\x7d' := by
        simp
      rw [left_named unmarked, readPlaceholder, split]
      simp only [closing, ↓reduceIte]
      exact .made (fun _ => namedSegment_ne_unclosed) rfl
    · rw [left_colon unmarked]
      cases group : isGroup name with
      | true => exact accounts_of_group unmarked group fuel start outer offset behind
      | false =>
        rw [readPlaceholder_nested tables fuel start offset unmarked group]
        have less : behind.length < fuel := by
          simp only [List.length_append, List.length_cons] at enough
          omega
        refine Accounts.bind (below (start :: outer) [] ⟨behind, _⟩ less) fun inner next _ => ?_
        exact .made (fun _ => nestedSegment_ne_unclosed) rfl

/-- Reading keeps the placeholders that are open at the end of what is left of the text, and is
refused for the first of them. Both readers are taken together again, by induction on the fuel. -/
theorem accounts_of_read (fuel : Nat) :
    (∀ starts text at_, at_.rest.length < fuel →
      Accounts (Nesting.left ⟨starts, .text⟩ at_) ⟨starts.tail, .text⟩
        (readBraced tables fuel starts.head? text at_)) ∧
    (∀ start outer at_, at_.rest.length < fuel →
      Accounts (Nesting.left ⟨start :: outer, .name []⟩ at_) ⟨outer, .text⟩
        (readPlaceholder tables fuel start at_)) := by
  induction fuel with
  | zero =>
    constructor
    · intro starts text at_ none_
      exact absurd none_ (Nat.not_lt_zero _)
    · intro start outer at_ none_
      exact absurd none_ (Nat.not_lt_zero _)
  | succ fuel ih =>
    obtain ⟨reads, places⟩ := ih
    refine ⟨?_, accounts_of_placeholder reads⟩
    rintro starts text ⟨whole, offset⟩ enough
    cases begins starts.head? whole with
    | nil =>
      cases starts with
      | nil => exact .read rfl
      | cons start outer => exact .unclosed rfl
    | last => exact reads starts _ ⟨[], offset + 1⟩ (Nat.lt_of_succ_lt_succ enough)
    | escaped c rest =>
      refine reads starts _ ⟨rest, offset + 1 + c.utf8Size⟩ ?_
      simp only [List.length_cons] at enough
      show rest.length < fuel
      omega
    | closing rest inside =>
      cases starts with
      | nil => cases inside
      | cons start outer => exact .read rfl
    | opening rest =>
      rw [readBraced_placeholder]
      have less : rest.length < fuel := Nat.lt_of_succ_lt_succ enough
      refine Accounts.bind (places offset starts ⟨rest, _⟩ less) fun segment next placed => ?_
      obtain ⟨_, _, split, _⟩ := (spelled_of_read fuel).2 _ _ _ _ placed
      have shorter : next.rest.length < fuel := by
        rw [show rest = _ from split, List.length_append, List.length_cons] at less
        omega
      refine Accounts.bind (reads starts [] next shorter) fun more last _ => ?_
      exact .read rfl
    | char rest noBackslash noOpening noClosing =>
      rw [readBraced_char tables fuel offset text noBackslash noOpening noClosing,
        left_char noBackslash noOpening noClosing]
      exact reads starts _ ⟨rest, _⟩ (Nat.lt_of_succ_lt_succ enough)

/-- The fuel for a whole text is enough. -/
theorem accounts_of_ofBraced (text : String) :
    Accounts (stillOpen text) {} (readBraced tables (2 * text.toList.length + 1) none []
      ⟨text.toList, 0⟩) := by
  have enough : text.toList.length < 2 * text.toList.length + 1 := by omega
  exact (accounts_of_read _).1 [] [] ⟨text.toList, 0⟩ enough

/-- A rewrite section is refused for the first of the placeholders that are open at its end. -/
theorem ofBraced_unclosed {text : String} {i : Nat}
    (fails : ofBraced tables text = .error (.unclosedPlaceholder i)) :
    (stillOpen text).head? = some i :=
  (accounts_of_ofBraced text).ends i (map_error_iff.mp fails)

theorem ofBraced_closed {text : String} {t : Template} (reads : ofBraced tables text = .ok t) :
    stillOpen text = [] := by
  obtain ⟨⟨t, last⟩, read, rfl⟩ := map_ok_iff.mp reads
  obtain ⟨_, _, _, _, _, ends, _⟩ := (spelled_of_read _).1 _ _ _ _ _ read
  obtain ⟨rest, offset⟩ := last
  cases ends
  exact (accounts_of_ofBraced text).reads _ _ read

/-! ## 6. Where texts are refused -/

/-- An unclosed placeholder is located exactly. In a directive line it is the last sign with a brace
behind it, and what stands in front of it is a template. In a rewrite section it is the innermost of
the placeholders that are open where the text ends, and a text in which some are open is never
read. -/
theorem unclosed_located :
    (∀ text i, ofDollar text = .error (.unclosedPlaceholder i) → ∃ before after,
      text.toList = before ++ '%' :: '\x7b' :: after ∧ byteLength before = i ∧ '\x7d' ∉ after ∧
        ∃ t, ofDollar (String.ofList before) = .ok t) ∧
    (∀ tables text i, ofBraced tables text = .error (.unclosedPlaceholder i) →
      (∃ before after, text.toList = before ++ '\x7b' :: after ∧ byteLength before = i) ∧
        i ∈ stillOpen text ∧ ∀ j ∈ stillOpen text, j ≤ i) ∧
    (∀ tables text t, ofBraced tables text = .ok t → stillOpen text = []) := by
  refine ⟨fun text i => ofDollar_unclosed, fun tables text i fails => ?_,
    fun tables text t => ofBraced_closed⟩
  obtain ⟨outer, open_⟩ := List.head?_eq_some_iff.mp (ofBraced_unclosed fails)
  have member : i ∈ stillOpen text := by
    rw [open_]
    exact List.mem_cons_self
  have fits := along_fits text
  refine ⟨fits.braces i member, member, fun j other => ?_⟩
  have ordered : (i :: outer).Pairwise (· > ·) := open_ ▸ fits.ordered
  rw [open_] at other
  rcases List.mem_cons.mp other with rfl | behind
  · exact Nat.le_refl _
  · exact Nat.le_of_lt (List.rel_of_pairwise_cons ordered behind)

theorem unclosed_located_nested :
    (ofDollar "é$1%\x7bA" = .error (.unclosedPlaceholder 4) ∧ ∃ before after,
      "é$1%\x7bA".toList = before ++ '%' :: '\x7b' :: after ∧ byteLength before = 4 ∧
        '\x7d' ∉ after ∧ ∃ t, ofDollar (String.ofList before) = .ok t) ∧
    (ofBraced {} "é\x7bL:\x7bURL\x7d\x7bR:1" = .error (.unclosedPlaceholder 10) ∧
      (∃ before after, "é\x7bL:\x7bURL\x7d\x7bR:1".toList = before ++ '\x7b' :: after ∧
        byteLength before = 10) ∧
      10 ∈ stillOpen "é\x7bL:\x7bURL\x7d\x7bR:1" ∧
        ∀ j ∈ stillOpen "é\x7bL:\x7bURL\x7d\x7bR:1", j ≤ 10) ∧
    (∃ t, ofBraced {} "é\x7bURL\x7d" = .ok t) ∧ stillOpen "é\x7bURL\x7d" = [] := by
  -- Templates have no decidable equality, so they are left out of what is computed.
  have sign : ofDollar "é$1%\x7bA" = .error (.unclosedPlaceholder 4) :=
    (map_error_iff (f := fun _ => ())).mp (by decide +kernel)
  have inner : ofBraced {} "é\x7bL:\x7bURL\x7d\x7bR:1" = .error (.unclosedPlaceholder 10) :=
    (map_error_iff (f := fun _ => ())).mp (by decide +kernel)
  have closed : (ofBraced {} "é\x7bURL\x7d").map (fun _ => ()) = .ok () := by decide +kernel
  obtain ⟨t, reads, _⟩ := map_ok_iff.mp closed
  exact ⟨⟨sign, unclosed_located.1 _ _ sign⟩, ⟨inner, unclosed_located.2.1 _ _ _ inner⟩,
    ⟨t, reads⟩, unclosed_located.2.2 _ _ _ reads⟩

end Reroute.Template
