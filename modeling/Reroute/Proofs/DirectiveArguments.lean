import Reroute.Proofs.DirectiveFiles
import Reroute.Proofs.DirectiveNames
import Reroute.Proofs.Quoting

/-!
# Arguments of directive lines

The arguments of a line are words, and each can be written as it is or between quotes. However they
are written, the line says the same: its words are what the pattern and the template are made from.
Between quotes only the backslashes in front of quotes are taken away. All others are part of the
pattern or the template.

Results:
1. `spells_unescaped`: what a text between quotes says.
2. `RuleLine.compile_madeOf`, `ConditionLine.compile_madeOf`: what becomes of the words.
3. `written_arguments`: from the written arguments to rules and conditions.
-/

namespace Reroute

open Reroute.Text

namespace Directive

/-! ## 1. Texts between quotes -/

/-- A text without the backslashes in front of its quotes. -/
def unescapeQuotes : List Char → List Char
  | [] => []
  | '\\' :: '"' :: rest => '"' :: unescapeQuotes rest
  | c :: rest => c :: unescapeQuotes rest

/-- A text in which a backslash stands in front of each quote. -/
def QuotesEscaped (raw : List Char) : Prop :=
  ∀ front back, raw = front ++ '"' :: back → front.getLast? = some '\\'

theorem escapeQuotes_cons (c : Char) (word : List Char) :
    escapeQuotes (c :: word) = (if c = '"' then ['\\', '"'] else [c]) ++ escapeQuotes word := rfl

/-- Behind a character that is no backslash, or in front of one that is no quote, the quotes of a
text are escaped still. -/
theorem QuotesEscaped.tail {c : Char} {raw : List Char} (escaped : QuotesEscaped (c :: raw))
    (apart : raw.head? ≠ some '"') : QuotesEscaped raw := by
  intro front back whole
  have behind := escaped (c :: front) back (by rw [whole, List.cons_append])
  cases front with
  | nil =>
    subst whole
    exact absurd rfl apart
  | cons d more => simpa using behind

theorem QuotesEscaped.behind {raw : List Char} (escaped : QuotesEscaped ('\\' :: '"' :: raw)) :
    QuotesEscaped raw := by
  intro front back whole
  have behind := escaped ('\\' :: '"' :: front) back (by rw [whole]; rfl)
  cases front with
  | nil => cases behind
  | cons d more => simpa using behind

theorem escapeQuotes_unescapeQuotes {raw : List Char} (escaped : QuotesEscaped raw) :
    escapeQuotes (unescapeQuotes raw) = raw := by
  fun_induction unescapeQuotes raw with
  | case1 => rfl
  | case2 rest ih =>
    rw [escapeQuotes_cons, if_pos rfl, ih escaped.behind]
    rfl
  | case3 c rest other ih =>
    have noQuote : c ≠ '"' := by
      rintro rfl
      cases escaped [] rest rfl
    have apart : rest.head? ≠ some '"' := by
      intro first
      obtain ⟨back, rfl⟩ := List.head?_eq_some_iff.mp first
      have slash := escaped [c] back rfl
      cases slash
      exact other back rfl rfl
    rw [escapeQuotes_cons, if_neg noQuote, ih (escaped.tail apart)]
    rfl

theorem getLast?_escapeQuotes {word : List Char} (ends : word.getLast? = some '\\') :
    (escapeQuotes word).getLast? = some '\\' := by
  obtain ⟨front, rfl⟩ := List.getLast?_eq_some_iff.mp ends
  rw [escapeQuotes, List.flatMap_append]
  simp

/-- A text in which all quotes are escaped, between quotes, is written for the text without the
backslashes in front of its quotes. -/
theorem spells_unescaped {raw : List Char} (escaped : QuotesEscaped raw)
    (ends : raw.getLast? ≠ some '\\') :
    Spells (unescapeQuotes raw) ('"' :: (raw ++ ['"'])) := by
  have same := escapeQuotes_unescapeQuotes escaped
  have quoted : quote (unescapeQuotes raw) = '"' :: (raw ++ ['"']) := by rw [quote, same]
  rw [← quoted]
  refine .quoted fun slash => ends ?_
  rw [← same]
  exact getLast?_escapeQuotes slash

end Directive

/-! ## 2. Patterns and templates -/

/-- The rule searches for the pattern, less an exclamation mark in front of it, and the urls of its
actions are what the substitution is read as, unless it keeps the url. -/
structure Rule.MadeOf (options : RuleOptions) (rule : Rule) (pattern substitution : String) :
    Prop where
  pattern : ∃ ignoreCase,
    Matcher.regex (Directive.takeNegation pattern).2 ignoreCase (Directive.takeNegation pattern).1
      options.matchTimeout = .ok rule.initialMatch
  substitution : substitution ≠ "-" →
    ∃ url, Template.ofDollar substitution = .ok url ∧ rule.actions.map (·.url) = [url]

/-- The input of the condition is what the first text is read as, and if it searches then for the
pattern, less an exclamation mark in front of it. -/
structure Condition.MadeOf (options : RuleOptions) (c : Condition) (input pattern : String) :
    Prop where
  input : Template.ofDollar input = .ok c.input
  pattern : ∀ regex budget, c.matcher.test = .regex regex budget → ∃ ignoreCase,
    Matcher.regex (Directive.takeNegation pattern).2 ignoreCase (Directive.takeNegation pattern).1
      options.matchTimeout = .ok c.matcher

theorem RuleLine.read_words {words : List String} {r : RuleLine} (reads : read words = .ok r) :
    ∃ flags, words = r.pattern :: r.substitution :: flags := by
  unfold read at reads
  split at reads
  · cases reads
  · cases reads
  · cases reads
    exact ⟨[], rfl⟩
  · next pattern substitution flags rest =>
    obtain ⟨found, _, reads⟩ := bind_ok_iff.mp reads
    split at reads
    · cases reads
      exact ⟨[flags], rfl⟩
    · cases reads

theorem RuleLine.compile_madeOf {r : RuleLine} {conditions : List Condition} {enabled : Bool}
    {options : RuleOptions} {rule : Rule}
    (compiles : r.compile conditions enabled options = .ok rule) :
    rule.MadeOf options r.pattern r.substitution := by
  simp only [RuleLine.compile, bind_ok_iff, mapError_ok_iff, RuleDraft.setMatch, map_ok_iff]
    at compiles
  obtain ⟨_, ⟨matcher, compiled, rfl⟩, url, reads, finished⟩ := compiles
  obtain ⟨initialMatch, found, _, rfl, _⟩ := RuleDraft.build_ok_iff.mp finished
  have texts : r.substitution ≠ "-" → Template.ofDollar r.substitution = .ok url := by
    intro substitutes
    rwa [RuleLine.url, RuleLine.keepsUrl, beq_eq_false_iff_ne.mpr substitutes] at reads
  cases conditions with
  | nil =>
    cases found
    exact ⟨⟨_, compiled⟩, fun substitutes => ⟨url, texts substitutes, rfl⟩⟩
  | cons c rest =>
    rw [if_neg (by simp), Directive.foldl_pushCondition _ _ _ rfl] at found ⊢
    cases found
    exact ⟨⟨_, compiled⟩, fun substitutes => ⟨url, texts substitutes, rfl⟩⟩

theorem ConditionLine.readPattern_regex {text pattern : String} {rest left : List String}
    (reads : readPattern text rest = .ok (.regex pattern, left)) : pattern = text := by
  unfold readPattern at reads
  split at reads
  any_goals cases reads
  dsimp only at reads
  split at reads
  · split at reads
    · split at reads <;> cases reads
    · cases reads
    · cases reads
  · split at reads <;> cases reads
    rfl

theorem ConditionLine.read_words {words : List String} {c : ConditionLine}
    (reads : read words = .ok c) :
    ∃ raw rest left, words = c.input :: raw :: rest ∧
      c.negate = (Directive.takeNegation raw).1 ∧
      readPattern (Directive.takeNegation raw).2 rest = .ok (c.pattern, left) := by
  unfold read at reads
  split at reads
  · cases reads
  · cases reads
  · next input raw rest =>
    obtain ⟨⟨pattern, left⟩, read, reads⟩ := bind_ok_iff.mp reads
    refine ⟨raw, rest, left, ?_⟩
    dsimp only at reads
    split at reads
    · cases reads
      exact ⟨rfl, rfl, read⟩
    · obtain ⟨flags, _, reads⟩ := bind_ok_iff.mp reads
      split at reads
      · cases reads
        exact ⟨rfl, rfl, read⟩
      · cases reads

theorem ConditionLine.compile_madeOf {c : ConditionLine} {raw : String} {rest left : List String}
    (negate : c.negate = (Directive.takeNegation raw).1)
    (reads : readPattern (Directive.takeNegation raw).2 rest = .ok (c.pattern, left))
    {options : RuleOptions} {condition : Condition}
    (compiles : c.compile options = .ok condition) : condition.MadeOf options c.input raw := by
  simp only [ConditionLine.compile, bind_ok_iff, mapError_ok_iff] at compiles
  obtain ⟨input, read, matcher, compiled, same⟩ := compiles
  cases same
  refine ⟨read, fun regex budget isRegex => ⟨c.flags.noCase, ?_⟩⟩
  unfold ConditionLine.matcher at compiled
  dsimp only at compiled isRegex
  cases kind : c.pattern with
  | regex pattern =>
    rw [kind] at compiled reads
    rwa [← readPattern_regex reads, ← negate]
  | exact | compare | isFile | isDirectory =>
    -- These conditions do not search.
    rw [kind] at compiled
    cases compiled
    cases isRegex

/-! ## 3. Written arguments -/

namespace Directive

/-- However the arguments of a line are written, bare or between quotes, the words of the line are
these arguments. A rule line and a condition line are read from them, and what they compile to has
its pattern and its template from the arguments as they are. In a text between quotes only the
backslashes in front of quotes are taken away. -/
theorem written_arguments {words : List String} {text : String}
    (spaced : Spaced (words.map String.toList) text.toList) :
    words? text = some words ∧
    (∀ line, Calls ruleNames line text →
      read line = ((RuleLine.read words).map .rule).mapError .rule ∧
      ∀ r, read line = .ok (.rule r) → ∃ pattern substitution flags,
        words = pattern :: substitution :: flags ∧
        ∀ conditions enabled options rule, r.compile conditions enabled options = .ok rule →
          rule.MadeOf options pattern substitution) ∧
    (∀ line, Calls conditionNames line text →
      read line = ((ConditionLine.read words).map .condition).mapError .condition ∧
      ∀ c, read line = .ok (.condition c) → ∃ input pattern rest,
        words = input :: pattern :: rest ∧
        ∀ options condition, c.compile options = .ok condition →
          condition.MadeOf options input pattern) ∧
    ∀ raw, QuotesEscaped raw → raw.getLast? ≠ some '\\' →
      words? (String.ofList ('"' :: (raw ++ ['"']))) =
        some [String.ofList (unescapeQuotes raw)] := by
  have reads : words? text = some words := words_spaced spaced
  refine ⟨reads, fun line calls => ?_, fun line calls => ?_, fun raw escaped ends => ?_⟩
  · have said := read_rule calls reads
    refine ⟨said, fun r isRule => ?_⟩
    rw [said, mapError_ok_iff, map_ok_iff] at isRule
    obtain ⟨_, readsRule, same⟩ := isRule
    cases same
    obtain ⟨flags, whole⟩ := RuleLine.read_words readsRule
    exact ⟨_, _, flags, whole, fun _ _ _ _ => RuleLine.compile_madeOf⟩
  · have said := read_condition calls reads
    refine ⟨said, fun c isCondition => ?_⟩
    rw [said, mapError_ok_iff, map_ok_iff] at isCondition
    obtain ⟨_, readsCondition, same⟩ := isCondition
    cases same
    obtain ⟨raw, rest, left, whole, negate, pattern⟩ := ConditionLine.read_words readsCondition
    exact ⟨_, raw, rest, whole, fun _ _ => ConditionLine.compile_madeOf negate pattern⟩
  · refine words_spaced ?_
    have alone : Spaced [] [] := .done (by simp)
    have unblanked : ∀ c ∈ ([] : List Char), isBlank c = true := by simp
    have single := Spaced.word unblanked (spells_unescaped escaped ends) (by simp) alone
    simpa using single

/-- A pattern with a quotation and a backslash behind its quote, and a substitution with a backslash
of its own. -/
theorem written_arguments_quotation :
    Spaced (["^/say \"\\w\"$", "/c\\$1"].map String.toList)
      "  \"^/say \\\"\\w\\\"$\"\t/c\\$1 ".toList ∧
    words? "  \"^/say \\\"\\w\\\"$\"\t/c\\$1 " = some ["^/say \"\\w\"$", "/c\\$1"] := by
  have substitution : Spells "/c\\$1".toList "/c\\$1".toList :=
    .bare (by decide) (by simp; decide)
  have pattern : Spells "^/say \"\\w\"$".toList (quote "^/say \"\\w\"$".toList) :=
    .quoted (by decide)
  have blanks : ∀ c ∈ [' ', ' '], isBlank c = true := by simp; decide
  have tab : ∀ c ∈ ['\t'], isBlank c = true := by simp; decide
  have last : ∀ c ∈ [' '], isBlank c = true := by simp; decide
  have second : Spaced ["/c\\$1".toList] ('\t' :: ("/c\\$1".toList ++ [' '])) :=
    .word tab substitution (by simp; decide) (.done last)
  have spaced : Spaced (["^/say \"\\w\"$", "/c\\$1"].map String.toList)
      "  \"^/say \\\"\\w\\\"$\"\t/c\\$1 ".toList :=
    .word blanks pattern (by simp; decide) second
  exact ⟨spaced, (written_arguments spaced).1⟩

end Directive

end Reroute
