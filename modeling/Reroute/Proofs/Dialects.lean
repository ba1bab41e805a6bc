import Mathlib.Data.List.Chain
import Reroute.Proofs.UrlParts
import Reroute.Proofs.Loading

/-!
# Two ways to write a template

Directive lines and rewrite sections write templates in their own ways. What both can write is a
list of items: literal texts, groups with one digit, and server variables. Each item has one written
form in each way, and in both a backslash is put in front of the characters that would mean
something else.

Both readers collect literal text until something else comes, so what they read of a list of items
is said with the text collected before it (`joinText`).

Results:
1. `joinText_joinText`, `mergeLiterals_merged`: adjacent literal texts become one.
2. `meaning_error_iff`: the first unknown variable is what a list of items is refused for.
3. `collects`, `Reads.items`: a reader that collects literal text finds what the items mean.
4. `readDollar_reads`: the reader of directive lines is such a reader.
5. `readBraced_reads`: so is the reader of rewrite sections.
6. `readers_agree`: both readers find what the items mean.
-/

namespace Reroute.Template

open Reroute.Text

/-! ## 1. Literal texts that stand side by side -/

/-- Puts literal text in front of a template, as one piece with the literal it begins with. -/
def joinText (text : List Char) : Template → Template
  | .literal more :: rest => .literal (String.ofList (text ++ more.toList)) :: rest
  | rest => Segment.ofText text ++ rest

/-- Joins literals that stand side by side, and drops those without text. -/
def mergeLiterals : Template → Template
  | [] => []
  | .literal text :: rest => joinText text.toList (mergeLiterals rest)
  | segment :: rest => segment :: mergeLiterals rest

def isLiteral : Segment → Bool
  | .literal _ => true
  | _ => false

theorem joinText_of_apart (text : List Char) {t : Template}
    (apart : ∀ segment ∈ t.head?, isLiteral segment = false) :
    joinText text t = Segment.ofText text ++ t := by
  cases t with
  | nil => rfl
  | cons segment rest =>
    cases segment with
    | literal more => simp [isLiteral] at apart
    | ruleGroup _ | conditionGroup _ | server _ | currentUrl | function _ _ | lookup _ _ => rfl

/-- A template begins with a literal, or with none. -/
theorem head_cases (t : Template) :
    (∃ more rest, t = .literal more :: rest) ∨
      ∀ segment ∈ t.head?, isLiteral segment = false := by
  cases t with
  | nil => exact .inr (by simp)
  | cons segment rest =>
    cases segment with
    | literal more => exact .inl ⟨more, rest, rfl⟩
    | ruleGroup _ | conditionGroup _ | server _ | currentUrl | function _ _ | lookup _ _ =>
      exact .inr (by simp [isLiteral])

theorem joinText_nil (t : Template) : joinText [] t = t := by
  rcases head_cases t with ⟨more, rest, rfl⟩ | apart
  · simp [joinText]
  · simp [joinText_of_apart [] apart, Segment.ofText]

theorem joinText_joinText (first second : List Char) (t : Template) :
    joinText first (joinText second t) = joinText (first ++ second) t := by
  rcases head_cases t with ⟨more, rest, rfl⟩ | apart
  · simp [joinText]
  · rw [joinText_of_apart second apart, joinText_of_apart (first ++ second) apart]
    cases second with
    | nil => simp [Segment.ofText, joinText_of_apart first apart]
    | cons c tail => simp [Segment.ofText, joinText]

/-- No literal is empty, and no two of them stand side by side. -/
structure Merged (t : Template) : Prop where
  filled : ∀ text, .literal text ∈ t → text ≠ ""
  apart : t.IsChain fun first second => ¬ (isLiteral first = true ∧ isLiteral second = true)

theorem Merged.cons {segment : Segment} {t : Template} (merged : Merged t)
    (filled : ∀ text, segment = .literal text → text ≠ "")
    (apart : isLiteral segment = true → ∀ next ∈ t.head?, isLiteral next = false) :
    Merged (segment :: t) := by
  constructor
  · intro text member
    rcases List.mem_cons.mp member with here | later
    · exact filled text here.symm
    · exact merged.filled text later
  · cases t with
    | nil => exact .singleton _
    | cons next rest =>
      refine .cons_cons ?_ merged.apart
      rintro ⟨first, second⟩
      rw [apart first next rfl] at second
      cases second

theorem Merged.tail {segment : Segment} {t : Template} (merged : Merged (segment :: t)) :
    Merged t :=
  ⟨fun text member => merged.filled text (List.mem_cons_of_mem _ member), merged.apart.tail⟩

theorem Merged.joinText {t : Template} (merged : Merged t) (text : List Char) :
    Merged (joinText text t) := by
  rcases head_cases t with ⟨more, rest, rfl⟩ | apart
  · -- The literal in front grows, and what follows it is no literal as before.
    refine merged.tail.cons ?_ fun _ next head => ?_
    · rintro _ ⟨⟩ empty
      have filled := merged.filled more List.mem_cons_self
      simp_all [String.ext_iff]
    · cases rest with
      | nil => cases head
      | cons segment _ =>
        cases head
        have chain := (List.isChain_cons_cons.mp merged.apart).1
        simpa [isLiteral] using chain
  · rw [joinText_of_apart text apart]
    cases text with
    | nil => exact merged
    | cons c tail =>
      refine merged.cons ?_ fun _ => apart
      rintro _ ⟨⟩ empty
      simp [String.ext_iff] at empty

theorem mergeLiterals_merged (t : Template) : Merged (mergeLiterals t) := by
  induction t with
  | nil => exact ⟨by simp [mergeLiterals], .nil⟩
  | cons segment rest ih =>
    cases segment with
    | literal text => exact ih.joinText _
    | ruleGroup _ | conditionGroup _ | server _ | currentUrl | function _ _ | lookup _ _ =>
      exact ih.cons (by simp) (by simp [isLiteral])

/-! ## 2. Items -/

/-- The name of a server variable that can be written in both ways. In rewrite sections a colon
stands behind the name of a group or a function, and the url has a name. -/
structure VariableName where
  text : String
  unmarked : ∀ c ∈ text.toList, c ≠ ':' ∧ c ≠ '\x7d'
  other : sameAsciiCase text "URL" = false

/-- What both ways can write. -/
inductive Item
  | literal (text : String)
  | ruleGroup (digit : Fin 10)
  | conditionGroup (digit : Fin 10)
  | server (name : VariableName)

/-- The segment that an item stands for, if its variable is known. -/
def Item.segment : Item → Except TemplateError Segment
  | .literal text => .ok (.literal text)
  | .ruleGroup digit => .ok (.ruleGroup digit)
  | .conditionGroup digit => .ok (.conditionGroup digit)
  | .server name => (Variable.ofName name.text).map .server

/-- The template of a list of items, with one literal for literal texts that stand side by
side. -/
def meaning (items : List Item) : Except TemplateError Template :=
  (items.mapM Item.segment).map mergeLiterals

theorem meaning_nil : meaning [] = .ok [] := rfl

theorem meaning_cons (item : Item) (rest : List Item) :
    meaning (item :: rest) =
      match item.segment with
      | .error e => .error e
      | .ok segment => ((rest.mapM Item.segment).map fun t => mergeLiterals (segment :: t)) := by
  rw [meaning, List.mapM_cons]
  cases item.segment with
  | error e => rfl
  | ok segment => cases rest.mapM Item.segment <;> rfl

/-- Literal text in front of a list of items. -/
theorem meaning_literal (text : String) (rest : List Item) :
    meaning (.literal text :: rest) = (meaning rest).map (joinText text.toList) := by
  rw [meaning_cons, meaning]
  cases rest.mapM Item.segment <;> rfl

def Item.isText : Item → Bool
  | .literal _ => true
  | _ => false

theorem Item.eq_literal {item : Item} (h : item.isText = true) :
    ∃ text, item = .literal text := by
  cases item with
  | literal text => exact ⟨text, rfl⟩
  | ruleGroup _ | conditionGroup _ | server _ => cases h

theorem Item.segment_other {item : Item} (other : item.isText = false) {segment : Segment}
    (h : item.segment = .ok segment) : isLiteral segment = false := by
  cases item with
  | literal _ => cases other
  | ruleGroup _ | conditionGroup _ =>
    cases h
    rfl
  | server name =>
    obtain ⟨_, _, rfl⟩ := map_ok_iff.mp h
    rfl

/-- An item that is no text ends the literal text in front of it. -/
theorem meaning_other {item : Item} (other : item.isText = false) (rest : List Item)
    (text : List Char) :
    (meaning (item :: rest)).map (joinText text) =
      item.segment >>= fun segment =>
        (meaning rest).map fun more => Segment.ofText text ++ segment :: more := by
  rw [meaning_cons, meaning]
  cases known : item.segment with
  | error e => rfl
  | ok segment =>
    have apart := Item.segment_other other known
    have ends : ∀ t : Template, mergeLiterals (segment :: t) = segment :: mergeLiterals t := by
      intro t
      cases segment with
      | literal _ => cases apart
      | ruleGroup _ | conditionGroup _ | server _ | currentUrl | function _ _ | lookup _ _ => rfl
    cases rest.mapM Item.segment with
    | error e => rfl
    | ok t =>
      simp only [bind, Except.bind, Except.map, ends]
      rw [joinText_of_apart text (by simpa using apart)]

theorem Item.segment_error_iff {item : Item} {e : TemplateError} :
    item.segment = .error e ↔
      ∃ name, item = .server name ∧ Variable.ofName? name.text = none ∧
        e = .unknownVariable name.text := by
  cases item with
  | literal _ | ruleGroup _ | conditionGroup _ => simp [Item.segment]
  | server name =>
    cases found : Variable.ofName? name.text <;>
      simp [Item.segment, Variable.ofName, found, Except.map, eq_comm]

/-- A list of items is refused for its first unknown variable. -/
theorem meaning_error_iff {items : List Item} {e : TemplateError} :
    meaning items = .error e ↔
      ∃ front name back, items = front ++ .server name :: back ∧
        (∀ other, .server other ∈ front → Variable.ofName? other.text ≠ none) ∧
        Variable.ofName? name.text = none ∧ e = .unknownVariable name.text := by
  have known : ∀ item : Item, (∃ segment, item.segment = .ok segment) ↔
      ∀ other, item = .server other → Variable.ofName? other.text ≠ none := by
    intro item
    cases item with
    | literal _ | ruleGroup _ | conditionGroup _ => simp [Item.segment]
    | server name =>
      cases found : Variable.ofName? name.text <;>
        simp [Item.segment, Variable.ofName, found, Except.map]
  have fails : meaning items = .error e ↔ items.mapM Item.segment = .error e := by
    rw [meaning]
    cases items.mapM Item.segment <;> simp [Except.map]
  rw [fails, mapM_error_iff]
  constructor
  · rintro ⟨front, item, back, rfl, before, fault⟩
    obtain ⟨name, rfl, unknown, same⟩ := Item.segment_error_iff.mp fault
    exact ⟨front, name, back, rfl, fun other member => (known _).mp (before _ member) other rfl,
      unknown, same⟩
  · rintro ⟨front, name, back, rfl, before, unknown, same⟩
    refine ⟨front, .server name, back, rfl, fun item member => (known item).mpr ?_,
      Item.segment_error_iff.mpr ⟨name, rfl, unknown, same⟩⟩
    rintro other rfl
    exact before other member

/-! ## 3. Readers that collect literal text -/

/-- A text with a backslash in front of some of its characters. -/
def backslashed (marks : List Char) (text : List Char) : List Char :=
  text.flatMap fun c => if marks.contains c then ['\\', c] else [c]

theorem backslashed_cons (marks : List Char) (c : Char) (text : List Char) :
    backslashed marks (c :: text) =
      (if marks.contains c then ['\\', c] else [c]) ++ backslashed marks text := rfl

/-- A reader that takes the characters of a literal one by one collects it, and its fuel lasts for
the rest. The `marks` are the characters that it takes for text only behind a backslash. -/
theorem collects {ρ : Type} (marks : List Char) (read : Nat → Nat → List Char → List Char → ρ)
    (backslash : ∀ fuel offset text c rest,
      read (fuel + 1) offset text ('\\' :: c :: rest) =
        read fuel (offset + 1 + c.utf8Size) (c :: text) rest)
    (plain : ∀ fuel offset text c rest, c ∉ marks →
      read (fuel + 1) offset text (c :: rest) = read fuel (offset + c.utf8Size) (c :: text) rest)
    (written : List Char) {fuel : Nat} (offset : Nat) (text rest : List Char)
    (enough : (backslashed marks written ++ rest).length ≤ fuel) :
    ∃ fuel' later, rest.length ≤ fuel' ∧
      read fuel offset text (backslashed marks written ++ rest) =
        read fuel' later (written.reverse ++ text) rest := by
  induction written generalizing fuel offset text with
  | nil => exact ⟨fuel, offset, enough, rfl⟩
  | cons c tail ih =>
    rw [backslashed_cons, List.append_assoc] at enough ⊢
    obtain ⟨less, rfl⟩ : ∃ less, fuel = less + 1 :=
      ⟨fuel - 1, by split at enough <;> simp at enough <;> omega⟩
    -- One step of the reader takes the character, with its backslash if it has one.
    have step : ∃ here, (backslashed marks tail ++ rest).length ≤ less ∧
        read (less + 1) offset text
            ((if marks.contains c then ['\\', c] else [c]) ++ (backslashed marks tail ++ rest)) =
          read less here (c :: text) (backslashed marks tail ++ rest) := by
      split at enough
      · next marked =>
        refine ⟨offset + 1 + c.utf8Size, by simp at enough ⊢; omega, ?_⟩
        rw [if_pos marked]
        exact backslash _ _ _ _ _
      · next unmarked =>
        refine ⟨offset + c.utf8Size, by simp at enough ⊢; omega, ?_⟩
        rw [if_neg unmarked]
        exact plain _ _ _ _ _ (by simpa using unmarked)
    obtain ⟨here, lasting, steps⟩ := step
    obtain ⟨fuel', later, lasts, collected⟩ := ih here (c :: text) lasting
    exact ⟨fuel', later, lasts, by rw [steps, collected]; simp⟩

/-- `Reads marks write read`: with some fuel, from an offset on and behind literal text that stands
in reverse, `read` collects literal text up to the next item that `write` writes. The `marks` are
the characters that it takes for text only behind a backslash. -/
structure Reads (marks : List Char) (write : Item → List Char)
    (read : Nat → Nat → List Char → List Char → Except TemplateError Template) : Prop where
  ended : ∀ fuel offset text, read fuel offset text [] = .ok (Segment.ofText text.reverse)
  backslash : ∀ fuel offset text c rest,
    read (fuel + 1) offset text ('\\' :: c :: rest) =
      read fuel (offset + 1 + c.utf8Size) (c :: text) rest
  plain : ∀ fuel offset text c rest, c ∉ marks →
    read (fuel + 1) offset text (c :: rest) = read fuel (offset + c.utf8Size) (c :: text) rest
  literal : ∀ text, write (.literal text) = backslashed marks text.toList
  filled : ∀ item : Item, item.isText = false → 0 < (write item).length
  other : ∀ item : Item, item.isText = false → ∀ fuel offset text rest,
    ∃ later, read (fuel + 1) offset text (write item ++ rest) =
      item.segment >>= fun segment =>
        (read fuel later [] rest).map fun more => Segment.ofText text.reverse ++ segment :: more

namespace Reads

variable {marks : List Char} {write : Item → List Char}
  {read : Nat → Nat → List Char → List Char → Except TemplateError Template}

/-- What is read is what the items mean, behind the literal text collected before them. -/
theorem items (reads : Reads marks write read) (items : List Item) {fuel : Nat} (offset : Nat)
    (text : List Char) (enough : (items.flatMap write).length ≤ fuel) :
    read fuel offset text (items.flatMap write) =
      (meaning items).map (joinText text.reverse) := by
  induction items generalizing fuel offset text with
  | nil =>
    rw [List.flatMap_nil, reads.ended, meaning_nil, Except.map, joinText_of_apart _ (by simp),
      List.append_nil]
  | cons item rest ih =>
    rw [List.flatMap_cons] at enough ⊢
    cases kind : item.isText with
    | true =>
      obtain ⟨written, rfl⟩ := Item.eq_literal kind
      rw [reads.literal] at enough ⊢
      obtain ⟨fuel', later, lasts, collected⟩ :=
        collects marks read reads.backslash reads.plain _ offset text _ enough
      rw [collected, ih later _ lasts, meaning_literal]
      cases meaning rest <;> simp [Except.map, joinText_joinText]
    | false =>
      have filled := reads.filled item kind
      rw [List.length_append] at enough
      obtain ⟨less, rfl⟩ : ∃ less, fuel = less + 1 := ⟨fuel - 1, by omega⟩
      obtain ⟨later, step⟩ := reads.other item kind less offset text (rest.flatMap write)
      rw [step, meaning_other kind, ih later [] (by omega)]
      cases meaning rest <;> simp [Except.map, joinText_nil]

end Reads

/-- The digit of a group. -/
def digitChar (digit : Fin 10) : Char := Nat.digitChar digit

theorem digitChar_isDigit (digit : Fin 10) : (digitChar digit).isDigit = true := by
  revert digit
  decide

/-! ## 4. Directive lines -/

theorem digitOf_digitChar (digit : Fin 10) : digitOf (digitChar digit) = digit := by
  revert digit
  decide

/-- The characters that mean something in a directive line. -/
def dollarMarks : List Char := ['\\', '$', '%']

/-- An item as directive lines write it. -/
def Item.dollar : Item → List Char
  | .literal text => backslashed dollarMarks text.toList
  | .ruleGroup digit => ['$', digitChar digit]
  | .conditionGroup digit => ['%', digitChar digit]
  | .server name => '%' :: '\x7b' :: name.text.toList ++ ['\x7d']

theorem readDollar_text (fuel offset : Nat) (text : List Char) {c : Char}
    (unmarked : c ∉ dollarMarks) (rest : List Char) :
    readDollar (fuel + 1) offset text (c :: rest) =
      readDollar fuel (offset + c.utf8Size) (c :: text) rest := by
  simp only [dollarMarks, List.mem_cons, List.not_mem_nil, or_false, not_or] at unmarked
  obtain ⟨noBackslash, noDollar, noPercent⟩ := unmarked
  cases rest with
  | nil => rw [readDollar.eq_5] <;> simp [noBackslash, noDollar, noPercent]
  | cons d tail => rw [readDollar] <;> simp [noBackslash, noDollar, noPercent]

theorem readDollar_group (fuel offset : Nat) (text : List Char) {c : Char} (d : Char)
    (marks : c = '$' ∨ c = '%') (digit : d.isDigit = true) (rest : List Char) :
    readDollar (fuel + 1) offset text (c :: d :: rest) =
      (readDollar fuel (offset + 2) [] rest).map fun more =>
        Segment.ofText text.reverse ++
          (if c = '$' then Segment.ruleGroup (digitOf d) else .conditionGroup (digitOf d)) ::
            more := by
  have noBackslash : c ≠ '\\' := by rcases marks with rfl | rfl <;> decide
  rw [readDollar] <;> simp [noBackslash, marks, digit]

theorem readDollar_server (fuel offset : Nat) (text : List Char) (name rest : List Char)
    (closed : ∀ c ∈ name, c ≠ '\x7d') :
    readDollar (fuel + 1) offset text ('%' :: '\x7b' :: (name ++ '\x7d' :: rest)) =
      Variable.ofName (String.ofList name) >>= fun v =>
        (readDollar fuel (offset + 3 + byteLength name) [] rest).map fun more =>
          Segment.ofText text.reverse ++ .server v :: more := by
  have taken : takeName (name ++ '\x7d' :: rest) = some (name, rest) :=
    splitFirst_of_free (p := (· == '\x7d')) (by simpa using closed) rfl rest
  have noDigit : ('\x7b' : Char).isDigit = false := by decide
  rw [readDollar]
  · simp only [or_true, ↓reduceIte, noDigit, Bool.false_eq_true, and_self, taken]
    cases Variable.ofName (String.ofList name) <;> rfl
  · simp
  · simp

theorem readDollar_reads : Reads dollarMarks Item.dollar readDollar where
  ended fuel offset text := by rw [readDollar]
  backslash fuel offset text c rest := by rw [readDollar]
  plain fuel offset text c rest unmarked := readDollar_text fuel offset text unmarked rest
  literal _ := rfl
  filled item other := by
    cases item with
    | literal _ => cases other
    | ruleGroup _ | conditionGroup _ | server _ => simp [Item.dollar]
  other item other fuel offset text rest := by
    cases item with
    | literal _ => cases other
    | ruleGroup digit =>
      refine ⟨offset + 2, ?_⟩
      rw [Item.dollar, List.cons_append, List.cons_append, List.nil_append,
        readDollar_group _ _ _ _ (.inl rfl) (digitChar_isDigit digit), digitOf_digitChar]
      rfl
    | conditionGroup digit =>
      refine ⟨offset + 2, ?_⟩
      rw [Item.dollar, List.cons_append, List.cons_append, List.nil_append,
        readDollar_group _ _ _ _ (.inr rfl) (digitChar_isDigit digit), digitOf_digitChar]
      rfl
    | server name =>
      refine ⟨offset + 3 + byteLength name.text.toList, ?_⟩
      have written : (Item.server name).dollar ++ rest =
          '%' :: '\x7b' :: (name.text.toList ++ '\x7d' :: rest) := by simp [Item.dollar]
      rw [written, readDollar_server _ _ _ _ _ fun c member => (name.unmarked c member).2,
        String.ofList_toList, Item.segment]
      cases Variable.ofName name.text <;> rfl

/-! ## 5. Rewrite sections -/

/-- The characters that mean something in a template of a rewrite section. -/
def bracedMarks : List Char := ['\\', '\x7b', '\x7d']

/-- An item as rewrite sections write it. -/
def Item.braced : Item → List Char
  | .literal text => backslashed bracedMarks text.toList
  | .ruleGroup digit => ['\x7b', 'R', ':', digitChar digit, '\x7d']
  | .conditionGroup digit => ['\x7b', 'C', ':', digitChar digit, '\x7d']
  | .server name => '\x7b' :: name.text.toList ++ ['\x7d']

variable (tables : LookupTables)

theorem readBraced_text (fuel : Nat) (start : Option Nat) (offset : Nat) (text : List Char)
    {c : Char} (unmarked : c ∉ bracedMarks) (rest : List Char) :
    readBraced tables (fuel + 1) start text ⟨c :: rest, offset⟩ =
      readBraced tables fuel start (c :: text) ⟨rest, offset + c.utf8Size⟩ := by
  simp only [bracedMarks, List.mem_cons, List.not_mem_nil, or_false, not_or] at unmarked
  obtain ⟨noBackslash, noOpening, noClosing⟩ := unmarked
  cases start <;> rw [readBraced] <;> simp [noOpening, noClosing]

theorem readBraced_placeholder (fuel : Nat) (start : Option Nat) (offset : Nat)
    (text rest : List Char) :
    readBraced tables (fuel + 1) start text ⟨'\x7b' :: rest, offset⟩ =
      readPlaceholder tables fuel offset ⟨rest, offset + 1⟩ >>= fun found =>
        readBraced tables fuel start [] found.2 >>= fun read =>
          .ok (Segment.ofText text.reverse ++ found.1 :: read.1, read.2) := by
  cases start <;> rfl

theorem readIndex_digit (name : List Char) (digit : Fin 10) :
    readIndex name [digitChar digit] = .ok digit := by
  have value : readDigits indexLimit 0 [digitChar digit] = .ok digit := by
    revert digit
    decide
  simp [readIndex, digitChar_isDigit, value]

/-- A group is read with the number that its digits write. -/
theorem readPlaceholder_group (fuel start offset : Nat) {letter : Char} {isRule : Bool}
    (isGroup : letter = 'R' ∧ isRule = true ∨ letter = 'C' ∧ isRule = false) (digits : List Char)
    (areDigits : ∀ c ∈ digits, c.isDigit = true) {n : Nat}
    (value : ∀ name, readIndex name digits = .ok n) (rest : List Char) :
    ∃ later, readPlaceholder tables (fuel + 1) start
        ⟨letter :: ':' :: (digits ++ '\x7d' :: rest), offset⟩ =
      .ok (if isRule then .ruleGroup n else .conditionGroup n, ⟨rest, later⟩) := by
  have open_ : ∀ c ∈ digits, (c == '\x7d') = false := by
    intro c member
    rw [beq_eq_false_iff_ne]
    rintro rfl
    cases areDigits _ member
  have split : splitFirst? (· == '\x7d') (digits ++ '\x7d' :: rest) = some (digits, rest) :=
    splitFirst_of_free open_ rfl rest
  have named : splitFirst? (fun c => c == '\x7d' || c == ':')
      (letter :: ':' :: (digits ++ '\x7d' :: rest)) =
        some ([letter], digits ++ '\x7d' :: rest) := by
    rcases isGroup with ⟨rfl, _⟩ | ⟨rfl, _⟩ <;> rfl
  refine ⟨offset + byteLength [letter] + 1 + byteLength digits + 1, ?_⟩
  rw [readPlaceholder, named]
  rcases isGroup with ⟨rfl, rfl⟩ | ⟨rfl, rfl⟩
  · have isRule : sameAsciiCase (String.ofList ['R']) "R" = true := by decide
    simp [isRule, split, value, Cursor.past, Except.map]
  · have notRule : sameAsciiCase (String.ofList ['C']) "R" = false := by decide
    have isCondition : sameAsciiCase (String.ofList ['C']) "C" = true := by decide
    simp [notRule, isCondition, split, value, Cursor.past, Except.map]

/-- A placeholder without a colon is read by its name alone. -/
theorem readPlaceholder_named (fuel start offset : Nat) {name : List Char}
    (unmarked : ∀ c ∈ name, c ≠ ':' ∧ c ≠ '\x7d') (rest : List Char) :
    ∃ later, readPlaceholder tables (fuel + 1) start ⟨name ++ '\x7d' :: rest, offset⟩ =
      (namedSegment name).map fun segment => (segment, ⟨rest, later⟩) := by
  have split : splitFirst? (fun c => c == '\x7d' || c == ':') (name ++ '\x7d' :: rest) =
      some (name, rest) :=
    splitFirst_of_free (fun c member => by simp [unmarked c member]) rfl rest
  have ends : (name ++ '\x7d' :: rest)[name.length]? = some '\x7d' := by simp
  refine ⟨offset + byteLength name + 1, ?_⟩
  rw [readPlaceholder, split]
  simp only [ends, ↓reduceIte, Cursor.past]

theorem readPlaceholder_server (fuel start offset : Nat) (name : VariableName)
    (rest : List Char) :
    ∃ later, readPlaceholder tables (fuel + 1) start
        ⟨name.text.toList ++ '\x7d' :: rest, offset⟩ =
      (Variable.ofName name.text).map fun v => (.server v, ⟨rest, later⟩) := by
  obtain ⟨later, reads⟩ := readPlaceholder_named tables fuel start offset name.unmarked rest
  refine ⟨later, reads.trans ?_⟩
  simp only [namedSegment, String.ofList_toList, name.other, Bool.false_eq_true, ↓reduceIte]
  cases Variable.ofName name.text <;> rfl

/-- One unit of fuel is kept for the end of the text. -/
theorem readBraced_reads :
    Reads bracedMarks Item.braced fun fuel offset text cs =>
      (readBraced tables (fuel + 1) none text ⟨cs, offset⟩).map (·.1) where
  ended fuel offset text := by
    rw [readBraced]
    rfl
  backslash fuel offset text c rest := rfl
  plain fuel offset text c rest unmarked := by
    rw [readBraced_text tables _ _ _ _ unmarked]
  literal _ := rfl
  filled item other := by
    cases item with
    | literal _ => cases other
    | ruleGroup _ | conditionGroup _ | server _ => simp [Item.braced]
  other item other fuel offset text rest := by
    obtain ⟨inside, later, written, reads⟩ : ∃ inside later,
        item.braced ++ rest = '\x7b' :: inside ∧
        readPlaceholder tables (fuel + 1) offset ⟨inside, offset + 1⟩ =
          item.segment.map fun segment => (segment, ⟨rest, later⟩) := by
      cases item with
      | literal _ => cases other
      | ruleGroup digit =>
        obtain ⟨later, reads⟩ :=
          readPlaceholder_group tables fuel offset (offset + 1) (.inl ⟨rfl, rfl⟩)
            [digitChar digit] (by simp [digitChar_isDigit])
            (fun name => readIndex_digit name digit) rest
        exact ⟨_, later, rfl, reads⟩
      | conditionGroup digit =>
        obtain ⟨later, reads⟩ :=
          readPlaceholder_group tables fuel offset (offset + 1) (.inr ⟨rfl, rfl⟩)
            [digitChar digit] (by simp [digitChar_isDigit])
            (fun name => readIndex_digit name digit) rest
        exact ⟨_, later, rfl, reads⟩
      | server name =>
        obtain ⟨later, reads⟩ :=
          readPlaceholder_server tables fuel offset (offset + 1) name rest
        refine ⟨name.text.toList ++ '\x7d' :: rest, later, by simp [Item.braced], ?_⟩
        rw [reads, Item.segment]
        cases Variable.ofName name.text <;> rfl
    refine ⟨later, ?_⟩
    rw [written, readBraced_placeholder, reads]
    cases item.segment with
    | error e => rfl
    | ok segment =>
      simp only [Except.map, bind, Except.bind]
      cases readBraced tables (fuel + 1) none [] ⟨rest, later⟩ <;> rfl

/-! ## 6. Both -/

/-- A list of items as directive lines write it. -/
def writeDollar (items : List Item) : String := String.ofList (items.flatMap Item.dollar)

/-- A list of items as rewrite sections write it. -/
def writeBraced (items : List Item) : String := String.ofList (items.flatMap Item.braced)

theorem ofDollar_writeDollar (items : List Item) :
    ofDollar (writeDollar items) = meaning items := by
  rw [ofDollar, writeDollar, String.toList_ofList,
    readDollar_reads.items items 0 [] (Nat.le_refl _)]
  cases meaning items <;> simp [Except.map, joinText_nil]

theorem ofBraced_writeBraced (items : List Item) :
    ofBraced tables (writeBraced items) = meaning items := by
  have enough : (items.flatMap Item.braced).length ≤ 2 * (items.flatMap Item.braced).length := by
    omega
  have reads := (readBraced_reads tables).items items 0 [] enough
  rw [ofBraced, writeBraced, String.toList_ofList, reads]
  cases meaning items <;> simp [Except.map, joinText_nil]

/-- A list of items, written in either way, is read as what the items mean: one segment for each
group and each variable, and one literal that is not empty for literal texts that stand side by
side, all in order. If a variable is unknown, both readers refuse the text for the first such
name. -/
theorem readers_agree (items : List Item) :
    ofBraced tables (writeBraced items) = meaning items ∧
    ofDollar (writeDollar items) = meaning items ∧
    (∀ t, meaning items = .ok t → Merged t) ∧
    (∀ e, meaning items = .error e ↔
      ∃ front name back, items = front ++ .server name :: back ∧
        (∀ other, .server other ∈ front → Variable.ofName? other.text ≠ none) ∧
        Variable.ofName? name.text = none ∧ e = .unknownVariable name.text) := by
  refine ⟨ofBraced_writeBraced tables items, ofDollar_writeDollar items, fun t means => ?_,
    fun _ => meaning_error_iff⟩
  obtain ⟨segments, _, rfl⟩ := map_ok_iff.mp means
  exact mergeLiterals_merged segments

/-- A text with marks of both ways, an empty one, and a digit behind a group. -/
def exItems : List Item :=
  [.literal "a$\x7b", .literal "", .ruleGroup 1, .literal "2",
    .server ⟨"http_host", by simp, by decide⟩]

example : writeDollar exItems = "a\\$\x7b$12%\x7bhttp_host\x7d" := by decide
example : writeBraced exItems = "a$\\\x7b\x7bR:1\x7d2\x7bhttp_host\x7d" := by decide
example : meaning exItems =
    .ok [.literal "a$\x7b", .ruleGroup 1, .literal "2", .server (.header "host")] := by rfl

end Reroute.Template
