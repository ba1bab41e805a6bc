import Reroute.Proofs.Dialects
import Reroute.Proofs.PatternRules

/-!
# Templates that are written out

What a rewrite section can write is more than lists of items: functions and lookups hold templates
of their own, to any depth. A template is in canonical form if at every depth its literals are
filled and stand apart. In this form it is found again whatever names its placeholders are written
with, and the readers of templates give no others.

Results:
1. `Canonical.joinText`, `Canonical.cons_other`: how canonical templates are made.
2. `readBraced_canonical`, `readDollar_canonical`: what is read is canonical.
3. `Written`: the ways to write a template out.
4. `Written.reads`: what is written in one of them is read back.
5. `written_round_trip`: all of it.
-/

namespace Reroute.Template

open Reroute.Text

/-! ## 1. Canonical form -/

/-- The template that a segment holds; it is empty where a segment holds none. -/
def innerOf : Segment → Template
  | .function _ inner | .lookup _ inner => inner
  | .literal _ | .ruleGroup _ | .conditionGroup _ | .server _ | .currentUrl => []

/-- No literal is empty and no two of them stand side by side, at any depth. -/
inductive Canonical : Template → Prop
  | intro {t : Template} : Merged t → (∀ segment ∈ t, Canonical (innerOf segment)) → Canonical t

namespace Canonical

variable {segment : Segment} {t : Template}

theorem nil : Canonical [] := .intro ⟨by simp, .nil⟩ (by simp)

theorem merged (canonical : Canonical t) : Merged t := by
  cases canonical
  assumption

theorem inner (canonical : Canonical t) (member : segment ∈ t) : Canonical (innerOf segment) := by
  cases canonical with
  | intro _ inner => exact inner segment member

theorem tail (canonical : Canonical (segment :: t)) : Canonical t :=
  .intro canonical.merged.tail fun _ member => canonical.inner (List.mem_cons_of_mem _ member)

theorem cons_other (later : Canonical t) (segment : Segment) (other : isLiteral segment = false)
    (inside : Canonical (innerOf segment)) : Canonical (segment :: t) := by
  refine .intro (later.merged.cons ?_ (by simp [other])) ?_
  · rintro text rfl
    cases other
  · intro next member
    rcases List.mem_cons.mp member with rfl | behind
    · exact inside
    · exact later.inner behind

theorem joinText (canonical : Canonical t) (text : List Char) :
    Canonical (joinText text t) := by
  refine .intro (canonical.merged.joinText text) fun segment member => ?_
  rcases head_cases t with ⟨more, rest, rfl⟩ | apart
  · rcases List.mem_cons.mp member with rfl | behind
    · exact nil
    · exact canonical.inner (List.mem_cons_of_mem _ behind)
  · rw [joinText_of_apart text apart, List.mem_append] at member
    rcases member with front | behind
    · unfold Segment.ofText at front
      split at front
      · cases front
      · obtain rfl := List.mem_singleton.mp front
        exact nil
    · exact canonical.inner behind

theorem ofText (text : List Char) : Canonical (Segment.ofText text) := by
  have joined := nil.joinText text
  rwa [joinText_of_apart text (by simp), List.append_nil] at joined

/-- Literal text, and behind it a segment of another kind. -/
theorem placed (later : Canonical t) (text : List Char) (other : isLiteral segment = false)
    (inside : Canonical (innerOf segment)) : Canonical (Segment.ofText text ++ segment :: t) := by
  have joined := (later.cons_other segment other inside).joinText text
  rwa [joinText_of_apart text (by simpa using other)] at joined

end Canonical

/-! ## 2. What is read -/

theorem nestedSegment_ok {tables : LookupTables} {name : List Char} {inner : Template}
    {segment : Segment} (h : nestedSegment tables name inner = .ok segment) :
    isLiteral segment = false ∧ innerOf segment = inner := by
  unfold nestedSegment at h
  dsimp only at h
  split at h
  · cases h
    exact ⟨rfl, rfl⟩
  · split at h
    · cases h
      exact ⟨rfl, rfl⟩
    · cases h

theorem namedSegment_ok {name : List Char} {segment : Segment}
    (h : namedSegment name = .ok segment) :
    isLiteral segment = false ∧ innerOf segment = [] := by
  unfold namedSegment at h
  dsimp only at h
  split at h
  · cases h
    exact ⟨rfl, rfl⟩
  · obtain ⟨v, _, rfl⟩ := map_ok_iff.mp h
    exact ⟨rfl, rfl⟩

/-- The two readers of rewrite sections call each other with less fuel each time, so what they give
is canonical for both at once. -/
theorem readBraced_canonical (tables : LookupTables) (fuel : Nat) :
    (∀ start text at_ t next, readBraced tables fuel start text at_ = .ok (t, next) →
      Canonical t) ∧
    (∀ start at_ segment next, readPlaceholder tables fuel start at_ = .ok (segment, next) →
      isLiteral segment = false ∧ Canonical (innerOf segment)) := by
  induction fuel with
  | zero => simp [readBraced, readPlaceholder]
  | succ fuel ih =>
    obtain ⟨reads, places⟩ := ih
    constructor
    · intro start text at_ t next h
      unfold readBraced at h
      split at h
      · split at h
        · cases h
        · cases h
          exact .ofText _
      · split at h
        · exact reads _ _ _ _ _ h
        · exact reads _ _ _ _ _ h
      · dsimp only at h
        split at h
        · cases h
          exact .ofText _
        · split at h
          · obtain ⟨⟨segment, behind⟩, placed, h⟩ := bind_ok_iff.mp h
            obtain ⟨⟨more, last⟩, read, h⟩ := bind_ok_iff.mp h
            cases h
            obtain ⟨other, inside⟩ := places _ _ _ _ placed
            exact (reads _ _ _ _ _ read).placed _ other inside
          · exact reads _ _ _ _ _ h
    · intro start at_ segment next h
      unfold readPlaceholder at h
      split at h
      · cases h
      · dsimp only at h
        split at h
        · obtain ⟨found, named, same⟩ := map_ok_iff.mp h
          cases same
          obtain ⟨other, inside⟩ := namedSegment_ok named
          exact ⟨other, inside ▸ .nil⟩
        · split at h
          · split at h
            · cases h
            · obtain ⟨n, _, same⟩ := map_ok_iff.mp h
              cases same
              split
              · exact ⟨rfl, .nil⟩
              · exact ⟨rfl, .nil⟩
          · obtain ⟨⟨inner, behind⟩, read, h⟩ := bind_ok_iff.mp h
            obtain ⟨found, nested, h⟩ := bind_ok_iff.mp h
            cases h
            obtain ⟨other, inside⟩ := nestedSegment_ok nested
            exact ⟨other, inside ▸ reads _ _ _ _ _ read⟩

theorem readDollar_canonical {fuel offset : Nat} {text cs : List Char} {t : Template}
    (h : readDollar fuel offset text cs = .ok t) : Canonical t := by
  fun_induction readDollar fuel offset text cs generalizing t with
  | case1 | case2 | case3 =>
    -- The end of the text.
    cases h
    exact .ofText _
  | case6 =>
    -- A group.
    rename_i segment _ _ ih
    obtain ⟨more, read, rfl⟩ := map_ok_iff.mp h
    have group : isLiteral segment = false ∧ innerOf segment = [] := by
      unfold segment
      split <;> exact ⟨rfl, rfl⟩
    exact (ih read).placed _ group.1 (group.2 ▸ .nil)
  | case7 | case8 => cases h
  | case9 =>
    -- A server variable.
    rename_i ih
    obtain ⟨more, read, rfl⟩ := map_ok_iff.mp h
    exact (ih read).placed _ rfl .nil
  | case4 | case5 | case10 | case11 =>
    rename_i ih
    exact ih h

/-! ## 3. Ways to write a template -/

/-- A name that ends at the first colon or closing brace behind it. -/
def Unmarked (name : String) : Prop := ∀ c ∈ name.toList, c ≠ ':' ∧ c ≠ '\x7d'

def placeholder (inside : List Char) : List Char := '\x7b' :: inside ++ ['\x7d']

/-- `Written tables t text`: the text is the template written out. Marks in literals have a
backslash in front of them, and names may be any that are accepted. That of a table is used only if
it is not the name of a group or a function. -/
inductive Written (tables : LookupTables) : Template → List Char → Prop
  | nil : Written tables [] []
  | literal {t : Template} {written : List Char} (text : String) : Written tables t written →
      Written tables (.literal text :: t) (backslashed bracedMarks text.toList ++ written)
  | ruleGroup {t : Template} {written : List Char} {n : Nat} : n ≤ indexLimit →
      Written tables t written →
      Written tables (.ruleGroup n :: t)
        (placeholder ('R' :: ':' :: (toString n).toList) ++ written)
  | conditionGroup {t : Template} {written : List Char} {n : Nat} : n ≤ indexLimit →
      Written tables t written →
      Written tables (.conditionGroup n :: t)
        (placeholder ('C' :: ':' :: (toString n).toList) ++ written)
  | server {t : Template} {written : List Char} (name : String) {v : Variable} : Unmarked name →
      Variable.ofName? name = some v → Written tables t written →
      Written tables (.server v :: t) (placeholder name.toList ++ written)
  | currentUrl {t : Template} {written : List Char} : Written tables t written →
      Written tables (.currentUrl :: t) (placeholder ['U', 'R', 'L'] ++ written)
  | function {inner t : Template} {inside written : List Char} (name : String) {f : TextFunction} :
      TextFunction.ofText name = .ok f → Written tables inner inside → Written tables t written →
      Written tables (.function f inner :: t)
        (placeholder (name.toList ++ ':' :: inside) ++ written)
  | lookup {inner t : Template} {inside written : List Char} (name : String)
      {table : LookupTable} : Unmarked name →
      sameAsciiCase name "R" = false → sameAsciiCase name "C" = false →
      (∀ f, TextFunction.ofText name ≠ .ok f) → tables.find? name = some table →
      Written tables inner inside → Written tables t written →
      Written tables (.lookup table inner :: t)
        (placeholder (name.toList ++ ':' :: inside) ++ written)

/-! ### Names -/

/-- What a character with a given lower case in ASCII can be. -/
theorem eq_or_eq_of_toLower {c d : Char} (same : c.toLower = d) :
    c = d ∨ c = Char.ofNat (d.toNat - 32) := by
  unfold Char.toLower at same
  split at same
  · next capital =>
    right
    obtain ⟨low, high⟩ : 65 ≤ c.toNat ∧ c.toNat ≤ 90 := capital
    have moved : d.toNat = c.toNat + 32 := by
      have small : (c.toNat + 32) % 4294967296 = c.toNat + 32 := Nat.mod_eq_of_lt (by omega)
      rw [← same]
      exact small
    rw [moved, Nat.add_sub_cancel, Char.ofNat_toNat]
  · exact .inl same

theorem singleton_of_spells {name : String} (letter : Char) {lower : Char}
    (spells : sameAsciiCase name (String.ofList [letter]) = true) (same : letter.toLower = lower) :
    name = String.ofList [lower] ∨ name = String.ofList [Char.ofNat (lower.toNat - 32)] := by
  have lowered : name.toList.map Char.toLower = [lower] := by
    simpa [sameAsciiCase, same] using spells
  obtain ⟨c, single, isLower⟩ := List.map_eq_singleton_iff.mp lowered
  rw [← String.ofList_toList (s := name), single]
  exact (eq_or_eq_of_toLower isLower).imp (congrArg fun c => String.ofList [c])
    (congrArg fun c => String.ofList [c])

/-- The names of functions are not those of groups. -/
theorem noGroup_of_function {name : String} {f : TextFunction}
    (named : TextFunction.ofText name = .ok f) :
    sameAsciiCase name "R" = false ∧ sameAsciiCase name "C" = false := by
  constructor
  · rw [Bool.eq_false_iff]
    intro spells
    rcases singleton_of_spells 'R' spells rfl with rfl | rfl <;> cases named
  · rw [Bool.eq_false_iff]
    intro spells
    rcases singleton_of_spells 'C' spells rfl with rfl | rfl <;> cases named

theorem function_unmarked {name : String} {f : TextFunction}
    (named : TextFunction.ofText name = .ok f) : Unmarked name := by
  have listed : ∀ entry ∈ TextFunction.keywords,
      ':' ∉ entry.1.toList ∧ '\x7d' ∉ entry.1.toList := by decide
  unfold TextFunction.ofText keyword at named
  split at named
  · next found =>
    obtain ⟨front, back, table, _⟩ := List.lookup_eq_some_iff.mp found
    obtain ⟨free, open_⟩ := listed _ (table ▸ List.mem_append_right front List.mem_cons_self)
    rw [lower, String.toList_ofList] at free open_
    intro c member
    constructor
    · rintro rfl
      exact free (mem_lowerAfter (by decide) (by decide) member)
    · rintro rfl
      exact open_ (mem_lowerAfter (by decide) (by decide) member)
  · cases named

/-- The name of the url is that of no variable. -/
theorem other_of_variable {name : String} {v : Variable} (known : Variable.ofName? name = some v) :
    sameAsciiCase name "URL" = false := by
  rw [Bool.eq_false_iff]
  intro spells
  have lowered : name.toList.map Char.toLower = ['u', 'r', 'l'] := by
    simpa [sameAsciiCase] using spells
  obtain ⟨u, back, split, isU, lowered⟩ := List.map_eq_cons_iff.mp lowered
  obtain ⟨r, end_, rfl, isR, lowered⟩ := List.map_eq_cons_iff.mp lowered
  obtain ⟨l, rfl, isL⟩ := List.map_eq_singleton_iff.mp lowered
  rw [← String.ofList_toList (s := name), split] at known
  rcases eq_or_eq_of_toLower isU with rfl | rfl <;> rcases eq_or_eq_of_toLower isR with rfl | rfl <;>
    rcases eq_or_eq_of_toLower isL with rfl | rfl <;> cases known

/-! ## 4. Reading -/

variable {tables : LookupTables}

/-- `Ends start rest stop`: the template of the placeholder opened at `start`, or of the whole text,
ends in front of `rest`, and behind its end is `stop`. -/
inductive Ends : Option Nat → List Char → List Char → Prop
  | text : Ends none [] []
  | placeholder (start : Nat) (stop : List Char) : Ends (some start) ('\x7d' :: stop) stop

/-- The text is read as the template, in a placeholder as well as in the whole text, and behind any
literal text collected before it. -/
structure ReadsAs (tables : LookupTables) (written : List Char) (t : Template) : Prop where
  reads : ∀ (fuel : Nat) {start : Option Nat} {rest stop : List Char} (offset : Nat)
    (text : List Char), Ends start rest stop → (written ++ rest).length < fuel →
    ∃ last, readBraced tables fuel start text ⟨written ++ rest, offset⟩ =
      .ok (joinText text.reverse t, ⟨stop, last⟩)

/-- What stands between braces is read as the segment. -/
structure Holds (tables : LookupTables) (inside : List Char) (segment : Segment) : Prop where
  other : isLiteral segment = false
  reads : ∀ (fuel start offset : Nat) (rest : List Char),
    (inside ++ '\x7d' :: rest).length < fuel →
    ∃ later, readPlaceholder tables fuel start ⟨inside ++ '\x7d' :: rest, offset⟩ =
      .ok (segment, ⟨rest, later⟩)

/-! ### Templates -/

theorem ReadsAs.nil : ReadsAs tables [] [] where
  reads fuel _ _ _ offset text ends enough := by
    obtain ⟨less, rfl⟩ : ∃ less, fuel = less + 1 := ⟨fuel - 1, by omega⟩
    rw [joinText_of_apart _ (by simp), List.append_nil]
    cases ends with
    | text => exact ⟨offset, rfl⟩
    | placeholder start => exact ⟨_, rfl⟩

/-- A filled literal that stands apart is what its text becomes in front of the rest. -/
theorem joinText_literal {text : String} {t : Template} (merged : Merged (.literal text :: t)) :
    joinText text.toList t = .literal text :: t := by
  have filled : text ≠ "" := merged.filled text List.mem_cons_self
  have apart : ∀ segment ∈ t.head?, isLiteral segment = false := by
    intro segment head
    cases t with
    | nil => cases head
    | cons next rest =>
      cases head
      have chain := (List.isChain_cons_cons.mp merged.apart).1
      simpa [isLiteral] using chain
  rw [joinText_of_apart _ apart]
  simp [Segment.ofText, filled]

theorem ReadsAs.literal {literal : String} {written : List Char} {t : Template}
    (later : ReadsAs tables written t) (merged : Merged (.literal literal :: t)) :
    ReadsAs tables (backslashed bracedMarks literal.toList ++ written)
      (.literal literal :: t) where
  reads fuel start rest _ offset text ends enough := by
    rw [List.append_assoc] at enough ⊢
    -- One unit of fuel is kept for the end of the text.
    obtain ⟨kept, rfl⟩ : ∃ kept, fuel = kept + 1 := ⟨fuel - 1, by omega⟩
    obtain ⟨less, behind, lasts, collected⟩ :=
      collects bracedMarks
        (fun fuel offset text cs => readBraced tables (fuel + 1) start text ⟨cs, offset⟩)
        (fun _ _ _ _ _ => rfl)
        (fun _ _ _ _ _ unmarked => readBraced_text tables _ _ _ _ unmarked _)
        literal.toList offset text (written ++ rest) (Nat.le_of_lt_succ enough)
    obtain ⟨last, read⟩ :=
      later.reads _ behind (literal.toList.reverse ++ text) ends (Nat.lt_succ_of_le lasts)
    refine ⟨last, collected.trans ?_⟩
    rw [read, List.reverse_append, List.reverse_reverse, ← joinText_joinText,
      joinText_literal merged]

theorem ReadsAs.placed {segment : Segment} {inside written : List Char} {t : Template}
    (later : ReadsAs tables written t) (holds : Holds tables inside segment) :
    ReadsAs tables (placeholder inside ++ written) (segment :: t) where
  reads fuel _ rest _ offset text ends enough := by
    have shape : placeholder inside ++ written ++ rest =
        '\x7b' :: (inside ++ '\x7d' :: (written ++ rest)) := by simp [placeholder]
    rw [shape, List.length_cons] at enough
    obtain ⟨less, rfl⟩ : ∃ less, fuel = less + 1 := ⟨fuel - 1, by omega⟩
    obtain ⟨behind, placed⟩ :=
      holds.reads less offset (offset + 1) (written ++ rest) (by omega)
    obtain ⟨last, read⟩ := later.reads less behind [] ends (by simp at enough ⊢; omega)
    refine ⟨last, ?_⟩
    rw [shape, readBraced_placeholder, placed, joinText_of_apart _ (by simpa using holds.other)]
    simp only [bind, Except.bind, read, List.reverse_nil, joinText_nil]

/-! ### Placeholders -/

theorem readIndex_repr (name : List Char) {n : Nat} (fits : n ≤ indexLimit) :
    readIndex name (toString n).toList = .ok n := by
  have filled : (toString n).toList.isEmpty = false :=
    List.isEmpty_eq_false_iff.mpr (toString_ne_nil n)
  have digits : (toString n).toList.all Char.isDigit = true :=
    List.all_eq_true.mpr (isDigit_repr n)
  simp only [readIndex, filled, digits, readDigits_repr fits, Bool.not_true, Bool.or_self,
    Bool.false_eq_true, ↓reduceIte]

theorem Holds.group {letter : Char} {isRule : Bool}
    (isGroup : letter = 'R' ∧ isRule = true ∨ letter = 'C' ∧ isRule = false) {n : Nat}
    (fits : n ≤ indexLimit) :
    Holds tables (letter :: ':' :: (toString n).toList)
      (if isRule then .ruleGroup n else .conditionGroup n) where
  other := by cases isRule <;> rfl
  reads fuel start offset rest enough := by
    obtain ⟨less, rfl⟩ : ∃ less, fuel = less + 1 := ⟨fuel - 1, by omega⟩
    exact readPlaceholder_group tables less start offset isGroup _ (isDigit_repr n)
      (fun name => readIndex_repr name fits) rest

theorem Holds.server {name : String} {v : Variable} (unmarked : Unmarked name)
    (known : Variable.ofName? name = some v) : Holds tables name.toList (.server v) where
  other := rfl
  reads fuel start offset rest enough := by
    obtain ⟨less, rfl⟩ : ∃ less, fuel = less + 1 := ⟨fuel - 1, by omega⟩
    obtain ⟨later, reads⟩ := readPlaceholder_server tables less start offset
      ⟨name, unmarked, other_of_variable known⟩ rest
    simp only [Variable.ofName, known, Except.map] at reads
    exact ⟨later, reads⟩

theorem Holds.currentUrl : Holds tables ['U', 'R', 'L'] .currentUrl where
  other := rfl
  reads fuel start offset rest enough := by
    obtain ⟨less, rfl⟩ : ∃ less, fuel = less + 1 := ⟨fuel - 1, by omega⟩
    exact readPlaceholder_named tables less start offset (by simp) rest

/-- A function or a lookup is read with what is read behind its name. -/
theorem Holds.nested {name : String} {inside : List Char} {inner : Template} {segment : Segment}
    (unmarked : Unmarked name) (noRule : sameAsciiCase name "R" = false)
    (noCondition : sameAsciiCase name "C" = false) (reads : ReadsAs tables inside inner)
    (nested : nestedSegment tables name.toList inner = .ok segment) :
    Holds tables (name.toList ++ ':' :: inside) segment where
  other := (nestedSegment_ok nested).1
  reads fuel start offset rest enough := by
    obtain ⟨less, rfl⟩ : ∃ less, fuel = less + 1 := ⟨fuel - 1, by omega⟩
    rw [List.append_assoc, List.cons_append] at enough ⊢
    have split : splitFirst? (fun c => c == '\x7d' || c == ':')
        (name.toList ++ ':' :: (inside ++ '\x7d' :: rest)) =
          some (name.toList, inside ++ '\x7d' :: rest) :=
      splitFirst_of_free (fun c member => by simp [unmarked c member]) rfl _
    have colon : (name.toList ++ ':' :: (inside ++ '\x7d' :: rest))[name.toList.length]? =
        some ':' := by simp
    obtain ⟨last, read⟩ := reads.reads less (offset + byteLength name.toList + 1) []
      (.placeholder start rest) (by simp at enough ⊢; omega)
    refine ⟨last, ?_⟩
    rw [readPlaceholder, split]
    simp only [colon, Option.some.injEq, Char.reduceEq, ↓reduceIte, String.ofList_toList, noRule,
      noCondition, Bool.or_self, Bool.false_eq_true, Cursor.past, read, List.reverse_nil,
      joinText_nil, bind, Except.bind, nested]

theorem nestedSegment_function (tables : LookupTables) {name : String} {f : TextFunction}
    (named : TextFunction.ofText name = .ok f) (inner : Template) :
    nestedSegment tables name.toList inner = .ok (.function f inner) := by
  simp [nestedSegment, named]

theorem nestedSegment_lookup {name : String} {table : LookupTable}
    (noFunction : ∀ f, TextFunction.ofText name ≠ .ok f) (found : tables.find? name = some table)
    (inner : Template) :
    nestedSegment tables name.toList inner = .ok (.lookup table inner) := by
  unfold nestedSegment
  cases named : TextFunction.ofText name with
  | ok f => exact absurd named (noFunction f)
  | error e => simp [named, found]

/-- What is written out is read back, by induction on how it is written. -/
theorem Written.reads {t : Template} {written : List Char} (h : Written tables t written)
    (canonical : Canonical t) : ReadsAs tables written t := by
  induction h with
  | nil => exact .nil
  | literal text _ later => exact (later canonical.tail).literal canonical.merged
  | ruleGroup fits _ later => exact (later canonical.tail).placed (.group (.inl ⟨rfl, rfl⟩) fits)
  | conditionGroup fits _ later =>
    exact (later canonical.tail).placed (.group (.inr ⟨rfl, rfl⟩) fits)
  | server _ unmarked known _ later =>
    exact (later canonical.tail).placed (.server unmarked known)
  | currentUrl _ later => exact (later canonical.tail).placed .currentUrl
  | function _ named _ _ below later =>
    obtain ⟨noRule, noCondition⟩ := noGroup_of_function named
    exact (later canonical.tail).placed <|
      .nested (function_unmarked named) noRule noCondition (below (canonical.inner List.mem_cons_self))
        (nestedSegment_function tables named _)
  | lookup _ unmarked noRule noCondition noFunction found _ _ below later =>
    exact (later canonical.tail).placed <|
      .nested unmarked noRule noCondition (below (canonical.inner List.mem_cons_self))
        (nestedSegment_lookup noFunction found _)

/-! ## 5. The round trip -/

theorem ofBraced_of_written {t : Template} {text : String} (h : Written tables t text.toList)
    (canonical : Canonical t) : ofBraced tables text = .ok t := by
  obtain ⟨last, read⟩ := (h.reads canonical).reads (2 * text.toList.length + 1) 0 [] .text
    (by simp; omega)
  rw [List.append_nil, List.reverse_nil, joinText_nil] at read
  rw [ofBraced, read]
  rfl

variable (tables)

/-- A canonical template is read from every text that it is written out as in a rewrite section,
whatever its tables and with functions and lookups to any depth. All that the readers of rewrite
sections and of directive lines give is canonical. -/
theorem written_round_trip :
    (∀ t text, Canonical t → Written tables t text.toList → ofBraced tables text = .ok t) ∧
    (∀ t text, ofBraced tables text = .ok t → Canonical t) ∧
    (∀ t text, ofDollar text = .ok t → Canonical t) := by
  refine ⟨fun t text canonical h => ofBraced_of_written h canonical, fun t text read => ?_,
    fun t text read => readDollar_canonical read⟩
  obtain ⟨⟨_, last⟩, reads, rfl⟩ := map_ok_iff.mp read
  exact (readBraced_canonical tables _).1 _ _ _ _ _ reads

def exTables : LookupTables := .ofTables [{ name := "Hosts" }]

/-- A lookup of a function of the last group there can be, behind a literal with marks. -/
def exTemplate : Template :=
  [.literal "a\\\x7b", .lookup { name := "Hosts" } [.function .toLower [.ruleGroup indexLimit]],
    .server (.header "host"), .currentUrl]

def exWritten : String :=
  "a\\\\\\\x7b\x7bHOSTS:\x7bToLower:\x7bR:18446744073709551615\x7d\x7d\x7d" ++
    "\x7bhttp_host\x7d\x7bURL\x7d"

theorem written_round_trip_nested :
    exTemplate.Canonical ∧ Written exTables exTemplate exWritten.toList ∧
    ofBraced exTables exWritten = .ok exTemplate := by
  have group : Canonical [.ruleGroup indexLimit] :=
    Canonical.nil.cons_other (.ruleGroup indexLimit) rfl .nil
  have inner : Canonical [.function .toLower [.ruleGroup indexLimit]] :=
    Canonical.nil.cons_other (.function .toLower [.ruleGroup indexLimit]) rfl group
  have names : Canonical [.server (.header "host"), .currentUrl] :=
    (Canonical.nil.cons_other .currentUrl rfl .nil).cons_other (.server (.header "host")) rfl .nil
  have canonical : exTemplate.Canonical :=
    names.placed ['a', '\\', '\x7b'] rfl inner
  have behind : Written exTables [.server (.header "host"), .currentUrl]
      (placeholder "http_host".toList ++ (placeholder ['U', 'R', 'L'] ++ [])) :=
    .server "http_host" (by simp [Unmarked]) (by decide) (.currentUrl .nil)
  have written : Written exTables exTemplate exWritten.toList :=
    .literal "a\\\x7b" <|
      .lookup "HOSTS" (by simp [Unmarked]) (by decide) (by decide) nofun
        (by decide)
        (.function "ToLower" rfl (.ruleGroup (Nat.le_refl _) .nil) .nil) behind
  exact ⟨canonical, written, (written_round_trip exTables).1 _ _ canonical written⟩

end Reroute.Template
