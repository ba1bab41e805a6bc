import Reroute.Directive.Words

/-!
# Words and how they are written

A word can be written as it is, if it has neither blanks nor quotes and is not empty, and between
quotes, with a backslash in front of each quote that belongs to it. What cannot be written so is a
word with blanks or quotes that ends in a backslash: the quote behind it would be taken for one of
the word. Other backslashes stand for themselves in both ways.

Results:
1. `scanWords_unquoted`, `scanWords_quoted`: the reader inside a word.
2. `words_spaced`: words that are written one behind the other are read again.
-/

namespace Reroute.Directive

open Reroute.Text

/-! ## 1. One word -/

/-- A word with a backslash in front of each quote. -/
def escapeQuotes (word : List Char) : List Char :=
  word.flatMap fun c => if c = '"' then ['\\', '"'] else [c]

/-- A word between quotes. -/
def quote (word : List Char) : List Char := '"' :: (escapeQuotes word ++ ['"'])

/-- Quoting brings in no characters but quotes and backslashes. -/
theorem mem_quote {word : List Char} {c : Char} (member : c ∈ quote word) :
    c = '"' ∨ c = '\\' ∨ c ∈ word := by
  simp only [quote, escapeQuotes, List.mem_cons, List.mem_append, List.mem_flatMap,
    List.not_mem_nil, or_false] at member
  rcases member with rfl | ⟨d, inside, from_d⟩ | rfl
  · exact .inl rfl
  · split at from_d
    · simp only [List.mem_cons, List.not_mem_nil, or_false] at from_d
      exact from_d.symm.imp id .inl
    · obtain rfl := List.mem_singleton.mp from_d
      exact .inr (.inr inside)
  · exact .inl rfl

/-- The ways to write a word. -/
inductive Spells (word : List Char) : List Char → Prop
  | bare : word ≠ [] → (∀ c ∈ word, isBlank c = false ∧ c ≠ '"') → Spells word word
  | quoted : word.getLast? ≠ some '\\' → Spells word (quote word)

/-- Words that are written one behind the other, with blanks between them, and perhaps some in
front of the first one and behind the last. -/
inductive Spaced : List (List Char) → List Char → Prop
  | done {blanks : List Char} : (∀ c ∈ blanks, isBlank c = true) → Spaced [] blanks
  | word {blanks word text rest : List Char} {words : List (List Char)} :
      (∀ c ∈ blanks, isBlank c = true) → Spells word text →
      (∀ c, rest.head? = some c → isBlank c = true) → Spaced words rest →
      Spaced (word :: words) (blanks ++ (text ++ rest))

variable {word rest : List Char} {started : Bool}

/-- A backslash is a character like any other, unless it stands in front of a quote. -/
theorem scanWords_plain {c : Char} {quoted : Bool} (plain : c = '\\' → rest.head? ≠ some '"') :
    scanWords word started quoted (c :: rest) =
      if c = '"' then scanWords word true (!quoted) rest
      else if isBlank c && !quoted then
        if started then (scanWords [] false quoted rest).map fun words => word.reverse :: words
        else scanWords word started quoted rest
      else scanWords (c :: word) true quoted rest := by
  rw [scanWords]
  rintro more rfl rfl
  exact plain rfl rfl

theorem scanWords_unquoted {c : Char} (filled : isBlank c = false) (noQuote : c ≠ '"') :
    scanWords word started false (c :: rest) = scanWords (c :: word) true false rest := by
  by_cases escape : c = '\\' ∧ rest.head? = some '"'
  · obtain ⟨rfl, first⟩ := escape
    cases rest with
    | nil => cases first
    | cons d more =>
      cases first
      rw [scanWords]
      rfl
  · rw [scanWords_plain fun here first => escape ⟨here, first⟩, if_neg noQuote, filled]
    rfl

theorem scanWords_bare {text : List Char}
    (bare : ∀ c ∈ text, isBlank c = false ∧ c ≠ '"') :
    scanWords word true false (text ++ rest) =
      scanWords (text.reverse ++ word) true false rest := by
  induction text generalizing word with
  | nil => rfl
  | cons c more ih =>
    obtain ⟨⟨filled, noQuote⟩, later⟩ := List.forall_mem_cons.mp bare
    rw [List.cons_append, scanWords_unquoted filled noQuote, ih later]
    simp

/-- Between quotes a word is read up to the quote that ends it. -/
theorem scanWords_quoted {text : List Char} (ends : text.getLast? ≠ some '\\') :
    scanWords word true true (escapeQuotes text ++ '"' :: rest) =
      scanWords (text.reverse ++ word) true false rest := by
  induction text generalizing word with
  | nil =>
    show scanWords word true true ('"' :: rest) = scanWords word true false rest
    rw [scanWords_plain (by simp)]
    rfl
  | cons c more ih =>
    have later : more.getLast? ≠ some '\\' := by
      cases more with
      | nil => simp
      | cons d tail => simpa using ends
    have goesOn : ∀ d, scanWords (d :: word) true true (escapeQuotes more ++ '"' :: rest) =
        scanWords ((d :: more).reverse ++ word) true false rest := by
      intro d
      rw [ih later]
      simp
    by_cases isQuote : c = '"'
    · subst isQuote
      show scanWords word true true ('\\' :: '"' :: (escapeQuotes more ++ '"' :: rest)) = _
      rw [scanWords, if_pos rfl]
      exact goesOn '"'
    · have text : escapeQuotes (c :: more) = c :: escapeQuotes more := by
        simp [escapeQuotes, isQuote]
      -- The word does not end here if this is a backslash, and no quote of it stands bare.
      have plain : c = '\\' → (escapeQuotes more ++ '"' :: rest).head? ≠ some '"' := by
        rintro rfl
        cases more with
        | nil => exact absurd rfl ends
        | cons d tail => by_cases here : d = '"' <;> simp [escapeQuotes, here]
      rw [text, List.cons_append, scanWords_plain plain, if_neg isQuote]
      simpa using goesOn c

/-! ## 2. Lines of words -/

theorem scanWords_blanks {blanks : List Char} (blank : ∀ c ∈ blanks, isBlank c = true) :
    scanWords [] false false (blanks ++ rest) = scanWords [] false false rest := by
  induction blanks with
  | nil => rfl
  | cons c more ih =>
    obtain ⟨here, later⟩ := List.forall_mem_cons.mp blank
    have plain : c ≠ '\\' ∧ c ≠ '"' := by
      constructor <;> rintro rfl <;> exact absurd here (by decide)
    rw [List.cons_append, scanWords_plain fun escape => absurd escape plain.1, if_neg plain.2, here]
    exact ih later

/-- A word ends with its line, or where a blank follows. -/
theorem scanWords_ends (ends : ∀ c, rest.head? = some c → isBlank c = true) :
    scanWords word true false rest =
      (scanWords [] false false rest).map fun words => word.reverse :: words := by
  cases rest with
  | nil => rfl
  | cons c more =>
    have blank : isBlank c = true := ends c rfl
    have plain : c ≠ '\\' ∧ c ≠ '"' := by
      constructor <;> rintro rfl <;> exact absurd blank (by decide)
    have one : ∀ d ∈ [c], isBlank d = true := List.forall_mem_singleton.mpr blank
    have skipped : scanWords [] false false (c :: more) = scanWords [] false false more :=
      scanWords_blanks one
    rw [skipped, scanWords_plain fun escape => absurd escape plain.1, if_neg plain.2, blank]
    rfl

theorem scanWords_spells {text : List Char} (spells : Spells word text) :
    scanWords [] false false (text ++ rest) = scanWords word.reverse true false rest := by
  cases spells with
  | bare filled bare =>
    cases word with
    | nil => exact absurd rfl filled
    | cons c more =>
      obtain ⟨⟨blank, noQuote⟩, later⟩ := List.forall_mem_cons.mp bare
      rw [List.cons_append, scanWords_unquoted blank noQuote, scanWords_bare later]
      simp
  | quoted ends =>
    have text : quote word ++ rest = '"' :: (escapeQuotes word ++ '"' :: rest) := by simp [quote]
    rw [text, scanWords_plain (by simp)]
    show scanWords [] true true (escapeQuotes word ++ '"' :: rest) = _
    rw [scanWords_quoted ends, List.append_nil]

/-- Words that are written one behind the other are read again. -/
theorem scanWords_spaced {words : List (List Char)} {text : List Char}
    (spaced : Spaced words text) : scanWords [] false false text = some words := by
  induction spaced with
  | @done blanks blank =>
    rw [← List.append_nil blanks, scanWords_blanks blank]
    rfl
  | word blank spells ends _ ih =>
    rw [scanWords_blanks blank, scanWords_spells spells, scanWords_ends ends, ih]
    simp

theorem words_spaced {words : List String} {text : String}
    (spaced : Spaced (words.map String.toList) text.toList) : words? text = some words := by
  rw [words?, scanWords_spaced spaced]
  simp

end Reroute.Directive
