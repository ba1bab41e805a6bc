import Reroute.Proofs.SpelledTemplates

/-!
# Placeholders with names

A placeholder that has a name and holds a template is a lookup, unless its name is that of a group
or a function. Which table it is made in is only a matter of its name, at any depth of the template.
A name without a table is what the text is refused for, if nothing before it is wrong. So a
placeholder is one that reading arrives at (`Reaches`), and the text behind it may be anything.

Results:
1. `Reaches`: the placeholders of a text, also of one that is refused.
2. `Reaches.lookup`: in a text that is read, each of them is a lookup.
3. `unknown_of_read`: a text is refused for the name of one of them that has no table.
-/

namespace Reroute.Template

open Reroute.Text

variable {tables : LookupTables}

/-! ## 1. Placeholders -/

/-- The name is that of no function. -/
def NoFunction (name : String) : Prop := ∀ f, TextFunction.ofText name ≠ .ok f

/-- `Reaches name inner inside text`: reading arrives at a placeholder with this name, which holds
what `inner` says. -/
inductive Reaches (name : String) (inner : Source) : Bool → List Char → Prop
  | past {inside : Bool} {source : Source} {front text : List Char} :
      Spelled true source front → Reaches name inner inside text →
      Reaches name inner inside (front ++ text)
  | closing {text : List Char} : Reaches name inner false text →
      Reaches name inner false ('\x7d' :: text)
  | within {inside : Bool} {outer : String} {text : List Char} :
      Unmarked outer → isGroup outer = false → Reaches name inner true text →
      Reaches name inner inside ('\x7b' :: (outer.toList ++ ':' :: text))
  | here {inside : Bool} {written text : List Char} :
      Unmarked name → isGroup name = false → Spelled true inner written →
      Reaches name inner inside ('\x7b' :: (name.toList ++ ':' :: (written ++ '\x7d' :: text)))

theorem Reaches.ne_nil {name : String} {inner : Source} {inside : Bool} {text : List Char}
    (reaches : Reaches name inner inside text) : text ≠ [] := by
  induction reaches with
  | past _ _ ih => exact fun empty => ih (List.append_eq_nil_iff.mp empty).2
  | closing | within | here => exact List.cons_ne_nil _ _

/-- A character that is no mark, in front of the rest. -/
theorem Reaches.char {name : String} {inner : Source} {inside : Bool} {c : Char}
    {text : List Char} (noBackslash : c ≠ '\\') (noOpening : c ≠ '\x7b')
    (noClosing : inside = true → c ≠ '\x7d') (reaches : Reaches name inner inside text) :
    Reaches name inner inside (c :: text) := by
  by_cases closes : c = '\x7d'
  · subst closes
    cases inside with
    | false => exact .closing reaches
    | true => exact absurd rfl (noClosing rfl)
  · exact .past (.char noBackslash noOpening (fun _ => closes) .nil) reaches

/-! ## 2. Placeholders of templates -/

/-- `Inside segment t`: the segment stands in the template, at any depth. -/
inductive Inside (segment : Segment) : Template → Prop
  | here {t : Template} : segment ∈ t → Inside segment t
  | within {t : Template} {outer : Segment} : outer ∈ t → Inside segment (innerOf outer) →
      Inside segment t

theorem Inside.placed {segment : Segment} {t : Template} (stands : Inside segment t)
    (front : Template) : Inside segment (front ++ t) := by
  cases stands with
  | here member => exact .here (List.mem_append_right _ member)
  | within member inner => exact .within (List.mem_append_right _ member) inner

theorem nestedSegment_ok_iff {name : String} (noFunction : NoFunction name)
    {inner : Template} {segment : Segment} :
    nestedSegment tables name.toList inner = .ok segment ↔
      ∃ table, tables.find? name = some table ∧ segment = .lookup table inner := by
  cases found : tables.find? name with
  | some table =>
    rw [nestedSegment_lookup noFunction found]
    simp [eq_comm]
  | none =>
    unfold nestedSegment
    cases named : TextFunction.ofText name with
    | ok f => exact absurd named (noFunction f)
    | error e => simp [named, found]

/-- The text is read as the template, inside of a placeholder or as a whole, with enough fuel for
all of it. -/
def ReadAs (tables : LookupTables) (inside : Bool) (whole : List Char) (t : Template) : Prop :=
  ∃ fuel start text offset last, start.isSome = inside ∧ whole.length < fuel ∧
    readBraced tables fuel start text ⟨whole, offset⟩ = .ok (t, last)

theorem readAs_of_ofBraced {text : String} {t : Template} (reads : ofBraced tables text = .ok t) :
    ReadAs tables false text.toList t := by
  obtain ⟨⟨t, last⟩, read, rfl⟩ := map_ok_iff.mp reads
  exact ⟨_, none, [], 0, last, rfl, by omega, read⟩

theorem ReadAs.char {inside : Bool} {c : Char} {rest : List Char} {t : Template}
    (reads : ReadAs tables inside (c :: rest) t) (noBackslash : c ≠ '\\') (noOpening : c ≠ '\x7b')
    (noClosing : inside = true → c ≠ '\x7d') : ReadAs tables inside rest t := by
  obtain ⟨fuel, start, text, offset, last, rfl, enough, read⟩ := reads
  obtain ⟨less, rfl⟩ : ∃ less, fuel = less + 1 := ⟨fuel - 1, by omega⟩
  rw [readBraced_char tables less offset text noBackslash noOpening noClosing] at read
  exact ⟨less, start, _, _, last, rfl, Nat.lt_of_succ_lt_succ enough, read⟩

theorem ReadAs.escaped {inside : Bool} {c : Char} {rest : List Char} {t : Template}
    (reads : ReadAs tables inside ('\\' :: c :: rest) t) : ReadAs tables inside rest t := by
  obtain ⟨fuel, start, text, offset, last, rfl, enough, read⟩ := reads
  obtain ⟨less, rfl⟩ : ∃ less, fuel = less + 1 := ⟨fuel - 1, by omega⟩
  exact ⟨less, start, _, _, last, rfl, by simp at enough; omega, read⟩

/-- A placeholder is read as its segment, and then what stands behind it. -/
theorem ReadAs.placed {inside : Bool} {content rest : List Char} {t : Template}
    {found : Except TemplateError Segment}
    (reads : ReadAs tables inside ('\x7b' :: (content ++ '\x7d' :: rest)) t)
    (placed : ∀ fuel offset, (content ++ '\x7d' :: rest).length < fuel + 1 → ∃ later,
      readPlaceholder tables (fuel + 1) offset ⟨content ++ '\x7d' :: rest, offset + 1⟩ =
        found.map fun segment => (segment, ⟨rest, later⟩)) :
    ∃ segment front more, found = .ok segment ∧ t = front ++ segment :: more ∧
      ReadAs tables inside rest more := by
  obtain ⟨fuel, start, text, offset, last, rfl, enough, read⟩ := reads
  obtain ⟨less, rfl⟩ : ∃ less, fuel = less + 2 := ⟨fuel - 2, by simp at enough; omega⟩
  obtain ⟨later, place⟩ := placed less offset (by simp at enough ⊢; omega)
  rw [readBraced_placeholder, place] at read
  obtain ⟨_, first, read⟩ := bind_ok_iff.mp read
  obtain ⟨segment, resolved, rfl⟩ := map_ok_iff.mp first
  obtain ⟨⟨more, stop⟩, behind, same⟩ := bind_ok_iff.mp read
  cases same
  exact ⟨segment, _, more, resolved, rfl, less + 1, start, [], later, stop, rfl,
    by simp at enough ⊢; omega, behind⟩

/-- In a placeholder that holds a template this is read first. -/
theorem ReadAs.within {inside : Bool} {outer : String} {rest : List Char} {t : Template}
    (unmarked : Unmarked outer) (noGroup : isGroup outer = false)
    (reads : ReadAs tables inside ('\x7b' :: (outer.toList ++ ':' :: rest)) t) :
    ∃ inner segment, ReadAs tables true rest inner ∧ segment ∈ t ∧ innerOf segment = inner := by
  obtain ⟨fuel, start, text, offset, last, rfl, enough, read⟩ := reads
  obtain ⟨less, rfl⟩ : ∃ less, fuel = less + 2 := ⟨fuel - 2, by simp at enough; omega⟩
  rw [readBraced_placeholder, readPlaceholder_nested tables less offset _ unmarked noGroup] at read
  obtain ⟨_, first, read⟩ := bind_ok_iff.mp read
  obtain ⟨⟨inner, after⟩, below, first⟩ := bind_ok_iff.mp first
  obtain ⟨segment, nested, rfl⟩ := map_ok_iff.mp first
  obtain ⟨⟨more, stop⟩, _, same⟩ := bind_ok_iff.mp read
  cases same
  refine ⟨inner, segment, ⟨less, some offset, [], _, after, rfl, ?_, below⟩, by simp,
    (nestedSegment_ok nested).2⟩
  simp at enough
  omega

/-- What stands behind something spelled is read in its turn. -/
theorem Spelled.passes {closed : Bool} {source : Source} {front : List Char}
    (spelled : Spelled closed source front) (closes : closed = true) {inside : Bool}
    {rest : List Char} {t : Template} (reads : ReadAs tables inside (front ++ rest) t) :
    ∃ before t', t = before ++ t' ∧ ReadAs tables inside rest t' := by
  induction spelled generalizing t with
  | nil => exact ⟨[], t, rfl, reads⟩
  | char noBackslash noOpening noClosing _ ih =>
    exact ih closes (reads.char noBackslash noOpening fun _ => noClosing closes)
  | escaped _ ih => exact ih closes reads.escaped
  | last => cases closes
  | @named _ name source written unmarked _ ih =>
    have shape : placeholder name.toList ++ written ++ rest =
        '\x7b' :: (name.toList ++ '\x7d' :: (written ++ rest)) := by simp [placeholder]
    rw [shape] at reads
    obtain ⟨segment, front, more, _, rfl, behind⟩ :=
      reads.placed fun fuel offset _ => readPlaceholder_named tables fuel offset _ unmarked _
    obtain ⟨before, t', rfl, later⟩ := ih closes behind
    exact ⟨front ++ segment :: before, t', by simp, later⟩
  | @group _ name digits source written unmarked group free _ ih =>
    have shape : placeholder (name.toList ++ ':' :: digits.toList) ++ written ++ rest =
        '\x7b' :: ((name.toList ++ ':' :: digits.toList) ++ '\x7d' :: (written ++ rest)) := by
      simp [placeholder]
    rw [shape] at reads
    obtain ⟨segment, front, more, _, rfl, behind⟩ := reads.placed fun fuel offset _ => by
      rw [List.append_assoc, List.cons_append]
      exact readPlaceholder_index tables fuel offset _ unmarked group free _
    obtain ⟨before, t', rfl, later⟩ := ih closes behind
    exact ⟨front ++ segment :: before, t', by simp, later⟩
  | @nested _ name inner source within written unmarked noGroup spelled _ _ ih =>
    have shape : placeholder (name.toList ++ ':' :: within) ++ written ++ rest =
        '\x7b' :: ((name.toList ++ ':' :: within) ++ '\x7d' :: (written ++ rest)) := by
      simp [placeholder]
    rw [shape] at reads
    obtain ⟨segment, front, more, _, rfl, behind⟩ := reads.placed fun fuel offset enough => by
      rw [List.append_assoc, List.cons_append] at enough ⊢
      exact readPlaceholder_filled unmarked noGroup spelled enough
    obtain ⟨before, t', rfl, later⟩ := ih closes behind
    exact ⟨front ++ segment :: before, t', by simp, later⟩

/-- In a text that is read, each placeholder with a name is a lookup in the table of that name, of
what it holds. -/
theorem Reaches.lookup {name : String} {inner : Source} {inside : Bool} {whole : List Char}
    (reaches : Reaches name inner inside whole) (noFunction : NoFunction name) {t : Template}
    (reads : ReadAs tables inside whole t) :
    ∃ table below, tables.find? name = some table ∧ inner.resolve tables [] = .ok below ∧
      Inside (.lookup table below) t := by
  induction reaches generalizing t with
  | past spelled _ ih =>
    obtain ⟨before, t', rfl, later⟩ := spelled.passes rfl reads
    obtain ⟨table, below, found, held, stands⟩ := ih later
    exact ⟨table, below, found, held, stands.placed before⟩
  | closing _ ih => exact ih (reads.char (by decide) (by decide) fun inside => by cases inside)
  | within unmarked noGroup _ ih =>
    obtain ⟨held, segment, read, member, rfl⟩ := reads.within unmarked noGroup
    obtain ⟨table, below, found, resolved, stands⟩ := ih read
    exact ⟨table, below, found, resolved, .within member stands⟩
  | @here _ written text unmarked noGroup spelled =>
    have shape : '\x7b' :: (name.toList ++ ':' :: (written ++ '\x7d' :: text)) =
        '\x7b' :: ((name.toList ++ ':' :: written) ++ '\x7d' :: text) := by simp
    rw [shape] at reads
    obtain ⟨segment, front, more, resolved, rfl, _⟩ := reads.placed fun fuel offset enough => by
      rw [List.append_assoc, List.cons_append] at enough ⊢
      exact readPlaceholder_filled unmarked noGroup spelled enough
    obtain ⟨below, held, nested⟩ := bind_ok_iff.mp resolved
    obtain ⟨table, found, rfl⟩ := (nestedSegment_ok_iff noFunction).mp nested
    exact ⟨table, below, found, held, .here (by simp)⟩

/-! ## 3. Names without a table -/

theorem nestedSegment_error {name : String} {inner : Template} {e : TemplateError}
    (fails : nestedSegment tables name.toList inner = .error e) :
    e = .unknownFunction name ∧ NoFunction name ∧ tables.find? name = none := by
  unfold nestedSegment at fails
  rw [String.ofList_toList] at fails
  dsimp only at fails
  split at fails
  · cases fails
  · next unnamed =>
    split at fails
    · cases fails
    · next unknown =>
      cases fails
      refine ⟨rfl, fun f named => ?_, unknown⟩
      rw [named] at unnamed
      cases unnamed

theorem namedSegment_error {name : List Char} {e : TemplateError}
    (fails : namedSegment name = .error e) : ∃ other, e = .unknownVariable other := by
  unfold namedSegment at fails
  dsimp only at fails
  split at fails
  · cases fails
  · rw [map_error_iff, Variable.ofName] at fails
    split at fails
    · cases fails
    · cases fails
      exact ⟨_, rfl⟩

theorem readIndex_error {name digits : List Char} {e : TemplateError}
    (fails : readIndex name digits = .error e) : ∃ other, e = .invalidReference other := by
  unfold readIndex at fails
  dsimp only at fails
  split at fails
  · cases fails
    exact ⟨_, rfl⟩
  · split at fails
    · cases fails
    · cases fails
      exact ⟨_, rfl⟩

/-- A text, or a template in it, is refused for a name only if reading arrives at a placeholder with
this name, and there is no table of this name. -/
theorem unknown_of_read (name : String) (fuel : Nat) :
    (∀ start text at_, readBraced tables fuel start text at_ = .error (.unknownFunction name) →
      (∃ inner, Reaches name inner start.isSome at_.rest) ∧ NoFunction name ∧
        tables.find? name = none) ∧
    (∀ start at_ inside, readPlaceholder tables fuel start at_ = .error (.unknownFunction name) →
      (∃ inner, Reaches name inner inside ('\x7b' :: at_.rest)) ∧ NoFunction name ∧
        tables.find? name = none) := by
  induction fuel with
  | zero => simp [readBraced, readPlaceholder]
  | succ fuel ih =>
    obtain ⟨reads, places⟩ := ih
    constructor
    · rintro start text ⟨whole, offset⟩ h
      cases begins start whole with
      | nil => cases start <;> cases h
      | last =>
        obtain ⟨⟨inner, reaches⟩, _⟩ := reads _ _ _ h
        exact absurd rfl reaches.ne_nil
      | escaped c rest => exact (reads _ _ _ h).imp_left (.imp fun _ => .past (.escaped .nil))
      | closing rest inside =>
        obtain ⟨start, rfl⟩ := Option.isSome_iff_exists.mp inside
        cases h
      | opening rest =>
        rw [readBraced_placeholder] at h
        rcases bind_error_iff.mp h with placed | ⟨⟨segment, between⟩, placed, h⟩
        · exact places _ _ _ placed
        · rcases bind_error_iff.mp h with read | ⟨_, _, h⟩
          · obtain ⟨content, _, rfl, shape⟩ := (spelled_of_read fuel).2 _ _ _ _ placed
            refine (reads _ _ _ read).imp_left (.imp fun inner reaches => ?_)
            have past := Reaches.past (shape.spelled .nil) reaches
            simpa [placeholder] using past
          · cases h
      | char rest noBackslash noOpening noClosing =>
        rw [readBraced_char tables fuel offset text noBackslash noOpening noClosing] at h
        exact (reads _ _ _ h).imp_left (.imp fun _ => .char noBackslash noOpening noClosing)
    · rintro start ⟨whole, offset⟩ inside h
      cases opened whole with
      | named rest unmarked =>
        obtain ⟨_, read⟩ := readPlaceholder_named tables fuel start offset unmarked rest
        rw [read] at h
        obtain ⟨_, same⟩ := namedSegment_error (map_error_iff.mp h)
        cases same
      | group rest unmarked group free =>
        obtain ⟨_, read⟩ :=
          readPlaceholder_index tables fuel start offset unmarked group free rest
        rw [read] at h
        obtain ⟨_, same⟩ := readIndex_error (map_error_iff.mp (map_error_iff.mp h))
        cases same
      | nested rest unmarked noGroup =>
        rw [readPlaceholder_nested tables fuel start offset unmarked noGroup] at h
        rcases bind_error_iff.mp h with read | ⟨⟨inner, between⟩, read, h⟩
        · exact (reads _ _ _ read).imp_left (.imp fun _ => .within unmarked noGroup)
        · obtain ⟨same, unknown⟩ := nestedSegment_error (map_error_iff.mp h)
          cases same
          obtain ⟨source, written, behind, spelled, split, ends, _⟩ :=
            (spelled_of_read fuel).1 _ _ _ _ _ read
          cases ends with
          | placeholder =>
            obtain rfl : rest = written ++ '\x7d' :: between.rest := split
            exact ⟨⟨source, .here unmarked noGroup spelled⟩, unknown⟩
      | unclosed fails =>
        rw [fails] at h
        cases h

theorem unknown_of_ofBraced {text name : String}
    (fails : ofBraced tables text = .error (.unknownFunction name)) :
    (∃ inner, Reaches name inner false text.toList) ∧ NoFunction name ∧ tables.find? name = none :=
  (unknown_of_read name _).1 _ _ _ (map_error_iff.mp fails)

end Reroute.Template
