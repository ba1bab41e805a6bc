import Reroute.Proofs.WrittenTemplates

/-!
# Texts of templates

What the text of a template in a rewrite section says does not depend on the tables that it is read
with. It is a tree of characters and placeholders (`Spelled`), and each name in the tree is resolved
afterwards, the names inside a placeholder before its own (`Source.resolve`). Reading does both at
once. A text that is spelled in no way is refused with any tables.

Results:
1. `Spelled`: texts and what they say.
2. `Spelled.reads`, `ofBraced_of_spelled`: a spelled text is read by resolving what it says.
3. `begins`, `opened`: the ways in which reading goes on; `spelled_of_read`, `ofBraced_ok_iff`:
   nothing else is read.
-/

namespace Reroute.Template

open Reroute.Text

/-! ## 1. Texts -/

/-- What the text of a template says, before any name in it is looked up. -/
inductive Source
  | nil
  | char (c : Char) (rest : Source)
  /-- A placeholder without a colon. -/
  | named (name : String) (rest : Source)
  /-- A placeholder for a group. -/
  | group (name digits : String) (rest : Source)
  /-- A placeholder that holds a template. -/
  | nested (name : String) (inner rest : Source)
deriving DecidableEq, Repr

/-- The names of groups. -/
def isGroup (name : String) : Bool := sameAsciiCase name "R" || sameAsciiCase name "C"

/-- `Spelled inside source text`: the text says what the source is, inside of a placeholder or as a
whole. A backslash keeps any character; one at the very end is a character itself. -/
inductive Spelled : Bool → Source → List Char → Prop
  | nil {inside : Bool} : Spelled inside .nil []
  | char {inside : Bool} {c : Char} {rest : Source} {written : List Char} :
      c ≠ '\\' → c ≠ '\x7b' → (inside = true → c ≠ '\x7d') → Spelled inside rest written →
      Spelled inside (.char c rest) (c :: written)
  | escaped {inside : Bool} {c : Char} {rest : Source} {written : List Char} :
      Spelled inside rest written → Spelled inside (.char c rest) ('\\' :: c :: written)
  | last : Spelled false (.char '\\' .nil) ['\\']
  | named {inside : Bool} {name : String} {rest : Source} {written : List Char} :
      Unmarked name → Spelled inside rest written →
      Spelled inside (.named name rest) (placeholder name.toList ++ written)
  | group {inside : Bool} {name digits : String} {rest : Source} {written : List Char} :
      Unmarked name → isGroup name = true → '\x7d' ∉ digits.toList → Spelled inside rest written →
      Spelled inside (.group name digits rest)
        (placeholder (name.toList ++ ':' :: digits.toList) ++ written)
  | nested {inside : Bool} {name : String} {inner rest : Source} {within written : List Char} :
      Unmarked name → isGroup name = false → Spelled true inner within →
      Spelled inside rest written →
      Spelled inside (.nested name inner rest)
        (placeholder (name.toList ++ ':' :: within) ++ written)

namespace Source

/-- The segment of a group. -/
def groupSegment (name digits : String) : Except TemplateError Segment :=
  (readIndex name.toList digits.toList).map fun n =>
    if sameAsciiCase name "R" then .ruleGroup n else .conditionGroup n

/-- Puts a segment and what follows it behind the text that was collected before. -/
def place (text : List Char) (segment : Except TemplateError Segment)
    (later : Except TemplateError Template) : Except TemplateError Template := do
  let segment ← segment
  let more ← later
  .ok (Segment.ofText text.reverse ++ segment :: more)

/-- The template that a source stands for, behind text that was collected in reverse. -/
def resolve (tables : LookupTables) : Source → List Char → Except TemplateError Template
  | .nil, text => .ok (Segment.ofText text.reverse)
  | .char c rest, text => rest.resolve tables (c :: text)
  | .named name rest, text => place text (namedSegment name.toList) (rest.resolve tables [])
  | .group name digits rest, text =>
    place text (groupSegment name digits) (rest.resolve tables [])
  | .nested name inner rest, text =>
    place text (inner.resolve tables [] >>= nestedSegment tables name.toList)
      (rest.resolve tables [])

end Source

/-! ## 2. Reading what is spelled -/

variable (tables : LookupTables)

theorem readBraced_char (fuel : Nat) {start : Option Nat} (offset : Nat) (text : List Char)
    {c : Char} (noBackslash : c ≠ '\\') (noOpening : c ≠ '\x7b')
    (noClosing : start.isSome = true → c ≠ '\x7d') (rest : List Char) :
    readBraced tables (fuel + 1) start text ⟨c :: rest, offset⟩ =
      readBraced tables fuel start (c :: text) ⟨rest, offset + c.utf8Size⟩ := by
  have open_ : ¬ (c = '\x7d' ∧ start.isSome = true) := fun both => noClosing both.2 both.1
  cases start with
  | none =>
    rw [readBraced]
    simp [noOpening]
  | some start =>
    rw [readBraced]
    simp [noOpening, noClosing rfl]

/-- A group is read with its index, whatever is in the place of the digits. -/
theorem readPlaceholder_index (fuel start offset : Nat) {name digits : String}
    (unmarked : Unmarked name) (group : isGroup name = true) (free : '\x7d' ∉ digits.toList)
    (rest : List Char) :
    ∃ later, readPlaceholder tables (fuel + 1) start
        ⟨name.toList ++ ':' :: (digits.toList ++ '\x7d' :: rest), offset⟩ =
      (Source.groupSegment name digits).map fun segment => (segment, ⟨rest, later⟩) := by
  have split : splitFirst? (fun c => c == '\x7d' || c == ':')
      (name.toList ++ ':' :: (digits.toList ++ '\x7d' :: rest)) =
        some (name.toList, digits.toList ++ '\x7d' :: rest) :=
    splitFirst_of_free (fun c member => by simp [unmarked c member]) rfl _
  have closing : splitFirst? (· == '\x7d') (digits.toList ++ '\x7d' :: rest) =
      some (digits.toList, rest) := by
    refine splitFirst_of_free (fun c member => beq_eq_false_iff_ne.mpr ?_) rfl rest
    rintro rfl
    exact free member
  have colon : (name.toList ++ ':' :: (digits.toList ++ '\x7d' :: rest))[name.toList.length]? =
      some ':' := by simp
  have named : (sameAsciiCase name "R" || sameAsciiCase name "C") = true := group
  refine ⟨offset + byteLength name.toList + 1 + byteLength digits.toList + 1, ?_⟩
  rw [readPlaceholder, split]
  simp only [colon, Option.some.injEq, Char.reduceEq, ↓reduceIte, String.ofList_toList, named,
    closing, Cursor.past, Source.groupSegment]
  cases readIndex name.toList digits.toList <;> rfl

/-- A placeholder that holds a template is read as what its name makes of the template. -/
theorem readPlaceholder_nested (fuel start offset : Nat) {name : String} (unmarked : Unmarked name)
    (noGroup : isGroup name = false) (rest : List Char) :
    readPlaceholder tables (fuel + 1) start ⟨name.toList ++ ':' :: rest, offset⟩ =
      readBraced tables fuel (some start) []
          ⟨rest, offset + byteLength name.toList + 1⟩ >>= fun read =>
        (nestedSegment tables name.toList read.1).map fun segment => (segment, read.2) := by
  have split : splitFirst? (fun c => c == '\x7d' || c == ':') (name.toList ++ ':' :: rest) =
      some (name.toList, rest) :=
    splitFirst_of_free (fun c member => by simp [unmarked c member]) rfl _
  have colon : (name.toList ++ ':' :: rest)[name.toList.length]? = some ':' := by simp
  have other : (sameAsciiCase name "R" || sameAsciiCase name "C") = false := noGroup
  rw [readPlaceholder, split]
  simp only [colon, Option.some.injEq, Char.reduceEq, ↓reduceIte, String.ofList_toList, other,
    Bool.false_eq_true, Cursor.past]
  refine bind_congr fun read => ?_
  cases nestedSegment tables name.toList read.1 <;> rfl

variable {tables}

/-- A placeholder is read as a segment or refused, and reading goes on behind it. -/
theorem readBraced_placed {fuel offset : Nat} {start : Option Nat} {text rest : List Char}
    {inside : List Char} {segment : Except TemplateError Segment}
    {later : Except TemplateError Template} {stop : List Char}
    (placed : ∃ at_, readPlaceholder tables fuel offset ⟨inside ++ '\x7d' :: rest, offset + 1⟩ =
      segment.map fun segment => (segment, ⟨rest, at_⟩))
    (reads : ∀ at_, ∃ last, readBraced tables fuel start [] ⟨rest, at_⟩ =
      later.map fun t => (t, ⟨stop, last⟩)) :
    ∃ last, readBraced tables (fuel + 1) start text
        ⟨'\x7b' :: (inside ++ '\x7d' :: rest), offset⟩ =
      (Source.place text segment later).map fun t => (t, ⟨stop, last⟩) := by
  obtain ⟨at_, placed⟩ := placed
  obtain ⟨last, reads⟩ := reads at_
  refine ⟨last, ?_⟩
  rw [readBraced_placeholder, placed]
  cases segment with
  | error e => rfl
  | ok segment =>
    simp only [Except.map, bind, Except.bind, Source.place, reads]
    cases later <;> rfl

theorem readPlaceholder_holding {fuel start offset : Nat} {name : String} (unmarked : Unmarked name)
    (noGroup : isGroup name = false) {whole rest : List Char}
    {inner : Except TemplateError Template}
    (reads : ∃ last, readBraced tables fuel (some start) []
        ⟨whole, offset + byteLength name.toList + 1⟩ = inner.map fun t => (t, ⟨rest, last⟩)) :
    ∃ last, readPlaceholder tables (fuel + 1) start ⟨name.toList ++ ':' :: whole, offset⟩ =
      (inner >>= nestedSegment tables name.toList).map fun segment => (segment, ⟨rest, last⟩) := by
  obtain ⟨last, reads⟩ := reads
  refine ⟨last, ?_⟩
  rw [readPlaceholder_nested tables fuel start offset unmarked noGroup, reads]
  cases inner with
  | error e => rfl
  | ok t => simp only [Except.map, bind, Except.bind]

/-- What is spelled is read by resolving it, in a placeholder as well as in a whole text. -/
theorem Spelled.reads {inside : Bool} {source : Source} {written : List Char}
    (spelled : Spelled inside source written) (fuel : Nat) {start : Option Nat}
    {rest stop : List Char} (offset : Nat) (text : List Char) (ends : Ends start rest stop)
    (where_ : start.isSome = inside) (enough : (written ++ rest).length < fuel) :
    ∃ last, readBraced tables fuel start text ⟨written ++ rest, offset⟩ =
      (source.resolve tables text).map fun t => (t, ⟨stop, last⟩) := by
  induction spelled generalizing fuel start rest stop offset text with
  | nil =>
    obtain ⟨less, rfl⟩ : ∃ less, fuel = less + 1 := ⟨fuel - 1, by omega⟩
    cases ends with
    | text => exact ⟨offset, rfl⟩
    | placeholder start => exact ⟨_, rfl⟩
  | char noBackslash noOpening noClosing _ ih =>
    obtain ⟨less, rfl⟩ : ∃ less, fuel = less + 1 := ⟨fuel - 1, by omega⟩
    rw [List.cons_append, readBraced_char tables less offset text noBackslash noOpening
      (fun opened => noClosing (where_ ▸ opened))]
    exact ih less _ _ ends where_ (Nat.lt_of_succ_lt_succ enough)
  | escaped _ ih =>
    obtain ⟨less, rfl⟩ : ∃ less, fuel = less + 1 := ⟨fuel - 1, by omega⟩
    exact ih less _ _ ends where_ (by simp at enough ⊢; omega)
  | last =>
    cases ends with
    | text =>
      obtain ⟨less, rfl⟩ : ∃ less, fuel = less + 2 := ⟨fuel - 2, by simp at enough; omega⟩
      exact ⟨offset + 1, rfl⟩
    | placeholder => cases where_
  | @named _ name source written unmarked _ ih =>
    obtain ⟨less, rfl⟩ : ∃ less, fuel = less + 2 :=
      ⟨fuel - 2, by simp [placeholder] at enough; omega⟩
    have shape : placeholder name.toList ++ written ++ rest =
        '\x7b' :: (name.toList ++ '\x7d' :: (written ++ rest)) := by simp [placeholder]
    rw [shape] at enough ⊢
    exact readBraced_placed (readPlaceholder_named tables less offset _ unmarked _)
      fun at_ => ih (less + 1) at_ [] ends where_ (by simp at enough ⊢; omega)
  | @group _ name digits source written unmarked group free _ ih =>
    obtain ⟨less, rfl⟩ : ∃ less, fuel = less + 2 :=
      ⟨fuel - 2, by simp [placeholder] at enough; omega⟩
    have shape : placeholder (name.toList ++ ':' :: digits.toList) ++ written ++ rest =
        '\x7b' :: ((name.toList ++ ':' :: digits.toList) ++ '\x7d' :: (written ++ rest)) := by
      simp [placeholder]
    rw [shape] at enough ⊢
    refine readBraced_placed ?_
      fun at_ => ih (less + 1) at_ [] ends where_ (by simp at enough ⊢; omega)
    rw [List.append_assoc, List.cons_append]
    exact readPlaceholder_index tables less offset _ unmarked group free _
  | @nested _ name inner source within written unmarked noGroup _ _ below ih =>
    obtain ⟨less, rfl⟩ : ∃ less, fuel = less + 2 :=
      ⟨fuel - 2, by simp [placeholder] at enough; omega⟩
    have shape : placeholder (name.toList ++ ':' :: within) ++ written ++ rest =
        '\x7b' :: ((name.toList ++ ':' :: within) ++ '\x7d' :: (written ++ rest)) := by
      simp [placeholder]
    rw [shape] at enough ⊢
    refine readBraced_placed ?_
      fun at_ => ih (less + 1) at_ [] ends where_ (by simp at enough ⊢; omega)
    rw [List.append_assoc, List.cons_append]
    exact readPlaceholder_holding unmarked noGroup (below less _ []
      (.placeholder offset (written ++ rest)) rfl (by simp at enough ⊢; omega))

/-- A placeholder that holds what is spelled. -/
theorem readPlaceholder_filled {fuel start offset : Nat} {name : String} {inner : Source}
    {within rest : List Char} (unmarked : Unmarked name) (noGroup : isGroup name = false)
    (spelled : Spelled true inner within)
    (enough : (name.toList ++ ':' :: (within ++ '\x7d' :: rest)).length < fuel + 1) :
    ∃ last, readPlaceholder tables (fuel + 1) start
        ⟨name.toList ++ ':' :: (within ++ '\x7d' :: rest), offset⟩ =
      (inner.resolve tables [] >>= nestedSegment tables name.toList).map
        fun segment => (segment, ⟨rest, last⟩) :=
  readPlaceholder_holding unmarked noGroup (spelled.reads fuel _ [] (.placeholder start rest) rfl
    (by simp at enough ⊢; omega))

theorem ofBraced_of_spelled {source : Source} {text : String}
    (spelled : Spelled false source text.toList) :
    ofBraced tables text = source.resolve tables [] := by
  obtain ⟨last, read⟩ := spelled.reads (2 * text.toList.length + 1) 0 [] .text rfl
    (by simp; omega)
  rw [List.append_nil] at read
  rw [ofBraced, read]
  cases source.resolve tables [] <;> rfl

/-! ## 3. What is read has been spelled -/

theorem unmarked_of_splitFirst {name : String} {text behind : List Char}
    (split : splitFirst? (fun c => c == '\x7d' || c == ':') text = some (name.toList, behind)) :
    Unmarked name := by
  intro c member
  have free := splitFirst_before split member
  simp only [Bool.or_eq_false_iff, beq_eq_false_iff_ne] at free
  exact ⟨free.2, free.1⟩

/-- How a text goes on, as far as reading tells. -/
inductive Begins (start : Option Nat) : List Char → Prop
  | nil : Begins start []
  | last : Begins start ['\\']
  | escaped (c : Char) (rest : List Char) : Begins start ('\\' :: c :: rest)
  | closing (rest : List Char) : start.isSome = true → Begins start ('\x7d' :: rest)
  | opening (rest : List Char) : Begins start ('\x7b' :: rest)
  | char {c : Char} (rest : List Char) : c ≠ '\\' → c ≠ '\x7b' →
      (start.isSome = true → c ≠ '\x7d') → Begins start (c :: rest)

theorem begins (start : Option Nat) (text : List Char) : Begins start text := by
  cases text with
  | nil => exact .nil
  | cons c rest =>
    by_cases backslash : c = '\\'
    · subst backslash
      cases rest with
      | nil => exact .last
      | cons c rest => exact .escaped c rest
    · by_cases opens : c = '\x7b'
      · subst opens
        exact .opening rest
      · by_cases closes : start.isSome = true ∧ c = '\x7d'
        · obtain ⟨inside, rfl⟩ := closes
          exact .closing rest inside
        · exact .char rest backslash opens fun inside same => closes ⟨inside, same⟩

/-- How a text goes on behind an opening brace. -/
inductive Opened : List Char → Prop
  | named {name : String} (rest : List Char) : Unmarked name →
      Opened (name.toList ++ '\x7d' :: rest)
  | group {name digits : String} (rest : List Char) : Unmarked name → isGroup name = true →
      '\x7d' ∉ digits.toList → Opened (name.toList ++ ':' :: (digits.toList ++ '\x7d' :: rest))
  | nested {name : String} (rest : List Char) : Unmarked name → isGroup name = false →
      Opened (name.toList ++ ':' :: rest)
  | unclosed {text : List Char} : (∀ tables fuel start offset,
      readPlaceholder tables fuel start ⟨text, offset⟩ = .error (.unclosedPlaceholder start)) →
      Opened text

theorem opened (text : List Char) : Opened text := by
  cases split : splitFirst? (fun c => c == '\x7d' || c == ':') text with
  | none =>
    refine .unclosed fun tables fuel start offset => ?_
    cases fuel with
    | zero => rfl
    | succ fuel => rw [readPlaceholder, split]
  | some found =>
    obtain ⟨name, behind⟩ := found
    obtain ⟨name, rfl⟩ : ∃ written : String, name = written.toList :=
      ⟨String.ofList name, String.toList_ofList.symm⟩
    have unmarked : Unmarked name := unmarked_of_splitFirst split
    obtain ⟨mark, isMark, rfl⟩ := splitFirst?_append split
    obtain rfl | rfl : mark = '\x7d' ∨ mark = ':' := by simpa using isMark
    · exact .named behind unmarked
    · cases group : isGroup name with
      | false => exact .nested behind unmarked group
      | true =>
        cases closes : splitFirst? (· == '\x7d') behind with
        | none =>
          refine .unclosed fun tables fuel start offset => ?_
          cases fuel with
          | zero => rfl
          | succ fuel =>
            have named : (sameAsciiCase name "R" || sameAsciiCase name "C") = true := group
            rw [readPlaceholder, split]
            simp [named, closes]
        | some read =>
          obtain ⟨digits, rest⟩ := read
          obtain ⟨digits, rfl⟩ : ∃ written : String, digits = written.toList :=
            ⟨String.ofList digits, String.toList_ofList.symm⟩
          have free : '\x7d' ∉ digits.toList := fun member => by
            simpa using splitFirst_before closes member
          obtain ⟨stop, isStop, rfl⟩ := splitFirst?_append closes
          obtain rfl : stop = '\x7d' := by simpa using isStop
          exact .group rest unmarked group free

theorem Spelled.eq_nil {inside : Bool} {source : Source} {written : List Char}
    (spelled : Spelled inside source written) (empty : written = []) : source = .nil := by
  cases spelled with
  | nil => rfl
  | char | escaped | last => cases empty
  | named | group | nested => simp [placeholder] at empty

/-- What stands in front of a source, with what it adds to the text. -/
structure Placed (tables : LookupTables) (inside : List Char) (segment : Segment)
    (add : Source → Source) : Prop where
  spelled : ∀ {within : Bool} {rest : Source} {written : List Char}, Spelled within rest written →
    Spelled within (add rest) (placeholder inside ++ written)
  resolves : ∀ rest text, (add rest).resolve tables text =
    Source.place text (.ok segment) (rest.resolve tables [])

/-- A text was spelled up to `stop`, and says what the template is, behind text that was collected
before. -/
def SpelledTo (tables : LookupTables) (start : Option Nat) (text whole : List Char) (t : Template)
    (stop : List Char) : Prop :=
  ∃ source written rest, Spelled start.isSome source written ∧ whole = written ++ rest ∧
    Ends start rest stop ∧ source.resolve tables text = .ok t

theorem SpelledTo.char {start : Option Nat} {text whole stop : List Char} {t : Template} {c : Char}
    (later : SpelledTo tables start (c :: text) whole t stop) (noBackslash : c ≠ '\\')
    (noOpening : c ≠ '\x7b') (noClosing : start.isSome = true → c ≠ '\x7d') :
    SpelledTo tables start text (c :: whole) t stop := by
  obtain ⟨source, written, rest, spelled, rfl, ends, resolves⟩ := later
  exact ⟨_, _, rest, .char noBackslash noOpening noClosing spelled, rfl, ends, resolves⟩

theorem SpelledTo.escaped {start : Option Nat} {text whole stop : List Char} {t : Template}
    {c : Char} (later : SpelledTo tables start (c :: text) whole t stop) :
    SpelledTo tables start text ('\\' :: c :: whole) t stop := by
  obtain ⟨source, written, rest, spelled, rfl, ends, resolves⟩ := later
  exact ⟨_, _, rest, .escaped spelled, rfl, ends, resolves⟩

/-- A backslash at the very end. -/
theorem SpelledTo.last {start : Option Nat} {text stop : List Char} {t : Template}
    (later : SpelledTo tables start ('\\' :: text) [] t stop) :
    SpelledTo tables start text ['\\'] t stop := by
  obtain ⟨source, written, rest, spelled, split, ends, resolves⟩ := later
  obtain ⟨rfl, rfl⟩ := List.append_eq_nil_iff.mp split.symm
  obtain rfl := spelled.eq_nil rfl
  cases ends with
  | text => exact ⟨_, _, [], .last, rfl, .text, resolves⟩

theorem SpelledTo.placed {start : Option Nat} {text inside whole stop : List Char}
    {segment : Segment} {t : Template} {add : Source → Source}
    (later : SpelledTo tables start [] whole t stop) (shape : Placed tables inside segment add) :
    SpelledTo tables start text ('\x7b' :: (inside ++ '\x7d' :: whole))
      (Segment.ofText text.reverse ++ segment :: t) stop := by
  obtain ⟨source, written, rest, spelled, rfl, ends, resolves⟩ := later
  refine ⟨add source, _, rest, shape.spelled spelled, by simp [placeholder], ends, ?_⟩
  rw [shape.resolves, resolves]
  rfl

theorem placed_named {name : String} {segment : Segment} (unmarked : Unmarked name)
    (reads : namedSegment name.toList = .ok segment) :
    Placed tables name.toList segment (.named name) where
  spelled later := .named unmarked later
  resolves rest text := by rw [Source.resolve, reads]

theorem placed_group {name digits : String} {segment : Segment} (unmarked : Unmarked name)
    (group : isGroup name = true) (free : '\x7d' ∉ digits.toList)
    (reads : Source.groupSegment name digits = .ok segment) :
    Placed tables (name.toList ++ ':' :: digits.toList) segment (.group name digits) where
  spelled later := .group unmarked group free later
  resolves rest text := by rw [Source.resolve, reads]

theorem placed_nested {name : String} {within : List Char} {source : Source} {inner : Template}
    {segment : Segment} (unmarked : Unmarked name) (noGroup : isGroup name = false)
    (spelled : Spelled true source within) (resolves : source.resolve tables [] = .ok inner)
    (nested : nestedSegment tables name.toList inner = .ok segment) :
    Placed tables (name.toList ++ ':' :: within) segment (.nested name source) where
  spelled later := .nested unmarked noGroup spelled later
  resolves rest text := by
    have inner : (source.resolve tables [] >>= nestedSegment tables name.toList) = .ok segment :=
      bind_ok_iff.mpr ⟨_, resolves, nested⟩
    rw [Source.resolve, inner]

/-- What is read was spelled in the text, up to the end of the text or of the placeholder. Both
readers are taken together, as they call each other with less fuel each time. -/
theorem spelled_of_read (fuel : Nat) :
    (∀ start text at_ t next, readBraced tables fuel start text at_ = .ok (t, next) →
      SpelledTo tables start text at_.rest t next.rest) ∧
    (∀ start at_ segment next, readPlaceholder tables fuel start at_ = .ok (segment, next) →
      ∃ inside add, at_.rest = inside ++ '\x7d' :: next.rest ∧
        Placed tables inside segment add) := by
  induction fuel with
  | zero => simp [readBraced, readPlaceholder]
  | succ fuel ih =>
    obtain ⟨reads, places⟩ := ih
    constructor
    · rintro start text ⟨whole, offset⟩ t next h
      cases begins start whole with
      | nil =>
        cases start with
        | none =>
          cases h
          exact ⟨.nil, [], [], .nil, rfl, .text, rfl⟩
        | some => cases h
      | last => exact (reads _ _ _ _ _ h).last
      | escaped c rest => exact (reads _ _ _ _ _ h).escaped
      | closing rest inside =>
        obtain ⟨start, rfl⟩ := Option.isSome_iff_exists.mp inside
        cases h
        exact ⟨.nil, [], _, .nil, rfl, .placeholder start _, rfl⟩
      | opening rest =>
        rw [readBraced_placeholder] at h
        obtain ⟨⟨segment, between⟩, placed, h⟩ := bind_ok_iff.mp h
        obtain ⟨⟨more, last⟩, read, h⟩ := bind_ok_iff.mp h
        cases h
        obtain ⟨inside, add, rfl, shape⟩ := places _ _ _ _ placed
        exact (reads _ _ _ _ _ read).placed shape
      | char rest noBackslash noOpening noClosing =>
        rw [readBraced_char tables fuel offset text noBackslash noOpening noClosing] at h
        exact (reads _ _ _ _ _ h).char noBackslash noOpening noClosing
    · rintro start ⟨whole, offset⟩ segment next h
      cases opened whole with
      | named rest unmarked =>
        obtain ⟨later, read⟩ := readPlaceholder_named tables fuel start offset unmarked rest
        rw [read] at h
        obtain ⟨found, reads, same⟩ := map_ok_iff.mp h
        cases same
        exact ⟨_, _, rfl, placed_named unmarked reads⟩
      | @group name digits rest unmarked group free =>
        obtain ⟨later, read⟩ :=
          readPlaceholder_index tables fuel start offset unmarked group free rest
        rw [read] at h
        obtain ⟨found, reads, same⟩ := map_ok_iff.mp h
        cases same
        exact ⟨name.toList ++ ':' :: digits.toList, _, by simp,
          placed_group unmarked group free reads⟩
      | @nested name rest unmarked noGroup =>
        rw [readPlaceholder_nested tables fuel start offset unmarked noGroup] at h
        obtain ⟨⟨inner, between⟩, read, h⟩ := bind_ok_iff.mp h
        obtain ⟨found, nested, same⟩ := map_ok_iff.mp h
        cases same
        obtain ⟨source, written, behind, spelled, split, ends, resolves⟩ := reads _ _ _ _ _ read
        cases ends with
        | placeholder =>
          obtain rfl : rest = written ++ '\x7d' :: between.rest := split
          exact ⟨name.toList ++ ':' :: written, _, by simp,
            placed_nested unmarked noGroup spelled resolves nested⟩
      | unclosed fails =>
        rw [fails] at h
        cases h

theorem Ends.whole {rest stop : List Char} (ends : Ends none rest stop) : rest = [] := by
  cases ends
  rfl

theorem ofBraced_ok_iff {text : String} {t : Template} :
    ofBraced tables text = .ok t ↔
      ∃ source, Spelled false source text.toList ∧ source.resolve tables [] = .ok t := by
  constructor
  · intro reads
    obtain ⟨⟨t, last⟩, read, rfl⟩ := map_ok_iff.mp reads
    obtain ⟨source, written, rest, spelled, whole, ends, resolves⟩ :=
      (spelled_of_read _).1 _ _ _ _ _ read
    obtain rfl : text.toList = written := by simpa [ends.whole] using whole
    exact ⟨source, spelled, resolves⟩
  · rintro ⟨source, spelled, resolves⟩
    rw [ofBraced_of_spelled spelled, resolves]

end Reroute.Template
