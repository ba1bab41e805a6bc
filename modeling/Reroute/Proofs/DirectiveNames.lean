import Reroute.Directive.File
import Reroute.Proofs.Loading
import Reroute.Proofs.UrlParts

/-!
# Names of directives

A directive line begins with the name of its directive, in any case, and its arguments stand behind
the blank that ends the name. What a line means is told here by its name (`Means`). A line is read
exactly if it means something. No name is that of two directives, so the name alone tells what a
line that is read has been read as.

Results:
1. `Calls.parts`, `Calls.shared`: a line has one name.
2. `read_rule`, `read_condition`, `read_engine`: a line is read by its name.
3. `read_ok_iff`: what a line means is what it is read as.
4. `Means.calls_iff`: the names that a line can have.
-/

namespace Reroute.Directive

open Reroute.Text

/-! ## 1. Names -/

/-- The names of rule lines, in lower case. -/
def ruleNames : List String := ["rule", "rewrite", "rewriterule"]

/-- The names of condition lines, in lower case. -/
def conditionNames : List String := ["cond", "condition", "rewritecond"]

/-- The names of engine lines, in lower case. -/
def engineNames : List String := ["state", "engine", "rewriteengine"]

/-- The names of all directives, one list for each kind. -/
def kinds : List (List String) := [ruleNames, conditionNames, engineNames]

/-- No name is empty or begins a comment. -/
theorem kinds_plain : ∀ listed ∈ kinds, ∀ name ∈ listed, name ≠ "" ∧ '#' ∉ name.toList := by
  decide

/-- Two kinds share no name. -/
theorem kinds_apart :
    ∀ listed ∈ kinds, ∀ others ∈ kinds, ∀ name ∈ listed, name ∈ others → listed = others := by
  decide

/-- The line is one of the names, in any case, and behind a blank the text. -/
def Calls (names : List String) (line text : String) : Prop :=
  ∃ name blank, line.toList = name ++ blank :: text.toList ∧ (∀ c ∈ name, isBlank c = false) ∧
    isBlank blank = true ∧ lower (String.ofList name) ∈ names

variable {listed others words : List String} {line text other : String}

theorem Calls.parts (calls : Calls listed line text) :
    ∃ name, splitFirst? isBlank line.toList = some (name, text.toList) ∧
      lower (String.ofList name) ∈ listed := by
  obtain ⟨name, blank, whole, solid, isBlank, known⟩ := calls
  exact ⟨name, whole ▸ splitFirst_of_free solid isBlank _, known⟩

theorem calls_of_split {name rest : List Char}
    (splits : splitFirst? isBlank line.toList = some (name, rest))
    (known : lower (String.ofList name) ∈ listed) : Calls listed line (String.ofList rest) := by
  obtain ⟨blank, blanks, whole⟩ := splitFirst?_append splits
  refine ⟨name, blank, ?_, fun c => splitFirst_before splits, blanks, known⟩
  rw [String.toList_ofList, whole]

/-- A line has only one name, so two lists that both have it share it. -/
theorem Calls.shared (calls : Calls listed line text) (callsOther : Calls others line other) :
    text = other ∧ ∃ name ∈ listed, name ∈ others := by
  obtain ⟨name, splits, known⟩ := calls.parts
  obtain ⟨_, splitsOther, knownOther⟩ := callsOther.parts
  rw [splits] at splitsOther
  obtain ⟨rfl, same⟩ := Prod.mk.inj (Option.some.inj splitsOther)
  exact ⟨String.toList_inj.mp same, _, known, knownOther⟩

/-- A line with a name of a directive is no comment. -/
theorem Calls.not_silent (calls : Calls listed line text) (kind : listed ∈ kinds) :
    isSilent line = false := by
  obtain ⟨name, blank, whole, _, _, known⟩ := calls
  obtain ⟨filled, free⟩ := kinds_plain listed kind _ known
  have noComment : line.toList.head? ≠ some '#' := by
    rw [whole]
    cases name with
    | nil => exact absurd rfl filled
    | cons c rest =>
      rintro ⟨⟩
      rw [lower, String.toList_ofList, String.toList_ofList] at free
      exact free (mem_lowerAfter (by decide) (by decide) List.mem_cons_self)
  have noEmpty : line.isEmpty = false := by
    rw [Bool.eq_false_iff]
    intro empty
    rw [String.isEmpty_iff.mp empty] at whole
    simp at whole
  simp [isSilent, noEmpty, noComment]

/-! ## 2. Lines with a name -/

/-- A rule line is read from its words. -/
theorem read_rule (calls : Calls ruleNames line text) (reads : words? text = some words) :
    read line = ((RuleLine.read words).map .rule).mapError .rule := by
  obtain ⟨name, parts, known⟩ := calls.parts
  simp only [ruleNames, List.mem_cons, List.not_mem_nil, or_false] at known
  unfold read
  rw [parts]
  dsimp only
  rw [String.ofList_toList, reads]
  rcases known with named | named | named
  all_goals
    rw [named]
    rfl

/-- A condition line is read from its words. -/
theorem read_condition (calls : Calls conditionNames line text) (reads : words? text = some words) :
    read line = ((ConditionLine.read words).map .condition).mapError .condition := by
  obtain ⟨name, parts, known⟩ := calls.parts
  simp only [conditionNames, List.mem_cons, List.not_mem_nil, or_false] at known
  unfold read
  rw [parts]
  dsimp only
  rw [String.ofList_toList, reads]
  rcases known with named | named | named
  all_goals
    rw [named]
    rfl

/-- The value of an engine line, in lower case. -/
def switchText (on : Bool) : String := if on then "on" else "off"

/-- An engine line is read from its whole text. -/
theorem read_engine (calls : Calls engineNames line text) (reads : words? text = some words)
    {on : Bool} (value : lower (trim text) = switchText on) : read line = .ok (.engine on) := by
  obtain ⟨name, parts, known⟩ := calls.parts
  simp only [engineNames, List.mem_cons, List.not_mem_nil, or_false] at known
  unfold read
  rw [parts]
  dsimp only
  rw [String.ofList_toList, reads, value]
  rcases known with named | named | named
  all_goals
    rw [named]
    cases on <;> rfl

/-! ## 3. What a line means -/

/-- What a line means by the name that it begins with. -/
inductive Means (line : String) : Directive → Prop
  | rule {text : String} {words : List String} {r : RuleLine} :
      Calls ruleNames line text → words? text = some words → RuleLine.read words = .ok r →
      Means line (.rule r)
  | condition {text : String} {words : List String} {c : ConditionLine} :
      Calls conditionNames line text → words? text = some words →
      ConditionLine.read words = .ok c → Means line (.condition c)
  | engine {text : String} {words : List String} {on : Bool} :
      Calls engineNames line text → words? text = some words →
      lower (trim text) = switchText on → Means line (.engine on)

theorem means_of_read {d : Directive} (reads : read line = .ok d) : Means line d := by
  unfold read at reads
  split at reads
  · cases reads
  next name rest splits =>
  dsimp only at reads
  split at reads
  · cases reads
  next words isWords =>
  split at reads
  case h_1 named | h_2 named | h_3 named =>
    have known : lower (String.ofList name) ∈ ruleNames := by simp [named, ruleNames]
    have calls := calls_of_split splits known
    obtain ⟨r, readsRule, rfl⟩ := map_ok_iff.mp (mapError_ok_iff.mp reads)
    exact .rule calls isWords readsRule
  case h_4 named | h_5 named | h_6 named =>
    have known : lower (String.ofList name) ∈ conditionNames := by simp [named, conditionNames]
    have calls := calls_of_split splits known
    obtain ⟨c, readsCondition, rfl⟩ := map_ok_iff.mp (mapError_ok_iff.mp reads)
    exact .condition calls isWords readsCondition
  case h_7 named | h_8 named | h_9 named =>
    have known : lower (String.ofList name) ∈ engineNames := by simp [named, engineNames]
    have calls := calls_of_split splits known
    split at reads
    case h_1 value =>
      cases reads
      exact .engine calls isWords value
    case h_2 value =>
      cases reads
      exact .engine calls isWords value
    case h_3 => cases reads
  case h_10 => cases reads

/-- A line is read as what it means, and only if it means something. -/
theorem read_ok_iff {d : Directive} : read line = .ok d ↔ Means line d := by
  constructor
  · exact means_of_read
  · rintro (⟨calls, words, reads⟩ | ⟨calls, words, reads⟩ | ⟨calls, words, value⟩)
    · rw [read_rule calls words, reads]
      rfl
    · rw [read_condition calls words, reads]
      rfl
    · exact read_engine calls words value

/-! ## 4. Names and what they mean -/

/-- The names of the lines that mean a directive of this kind. -/
def names : Directive → List String
  | .rule _ => ruleNames
  | .condition _ => conditionNames
  | .engine _ => engineNames

theorem names_mem (d : Directive) : d.names ∈ kinds := by cases d <;> simp [names, kinds]

namespace Means

variable {d : Directive}

theorem calls (means : Means line d) : ∃ text, Calls d.names line text := by
  cases means with
  | rule calls | condition calls | engine calls => exact ⟨_, calls⟩

theorem not_silent (means : Means line d) : isSilent line = false := by
  obtain ⟨_, calls⟩ := means.calls
  exact calls.not_silent d.names_mem

/-- A line that means something has a name of its own kind, and none of another kind. -/
theorem calls_iff (means : Means line d) (kind : listed ∈ kinds) :
    (∃ text, Calls listed line text) ↔ listed = d.names := by
  obtain ⟨text, calls⟩ := means.calls
  constructor
  · rintro ⟨_, callsOther⟩
    obtain ⟨-, name, there, here⟩ := callsOther.shared calls
    exact kinds_apart _ kind _ d.names_mem name there here
  · rintro rfl
    exact ⟨text, calls⟩

end Means

end Reroute.Directive
