import Mathlib.Data.List.DropRight
import Mathlib.Data.List.Forall2
import Reroute.Directive.File
import Reroute.Proofs.ConditionGroups
import Reroute.Proofs.DirectiveNames
import Reroute.Proofs.Loading

/-!
# Texts of directive lines

Each line of a text is looked at together with the lines before it (`Spot`). What a rule line
stands for depends on these alone: its conditions are the condition lines behind the rule line
before it (`openConditions`), and it is enabled unless the last engine line says otherwise
(`engineAfter`). A line is good or bad for itself, and the reader keeps no more than what the lines
before have left open (`PendingAfter`). Which lines are rule lines, condition lines and engine lines
is up to the names at their front (`Spot.Named`).

Results:
1. `lines_isLines`: the lines of a text.
2. `openConditions_concat`, `engineAfter_concat`: what one more line changes.
3. `compile_keeps`: a rule has the conditions and the switch that its line was given.
4. `readLines_good`, `readLines_bad`: what the reader does at one line, and what it keeps.
5. `said_some_iff`, `Spot.named`: what lines say, and what they count as, goes by their names.
6. `readRules_outcome`: the rules of a text, and the line of its first fault.
-/

namespace Reroute.Directive

open Reroute.Text

/-! ## 1. Lines -/

/-- The lines of a text hold no line breaks, and stand in it with a break behind each. Behind the
last one the break may be missing, unless that line is empty. -/
structure IsLines (text : String) (parts : List String) : Prop where
  unbroken : ∀ line ∈ parts, '\n' ∉ line.toList
  whole :
    text.toList = parts.flatMap (fun line => line.toList ++ ['\n']) ∨
    text.toList ++ ['\n'] = parts.flatMap (fun line => line.toList ++ ['\n']) ∧
      parts.getLast? ≠ some ""

theorem splitAll_pieces (separator : Char) (cs : List Char) :
    splitAll separator cs ≠ [] ∧ (∀ piece ∈ splitAll separator cs, separator ∉ piece) ∧
      (splitAll separator cs).flatMap (· ++ [separator]) = cs ++ [separator] := by
  induction cs with
  | nil => simp [splitAll]
  | cons c rest ih =>
    obtain ⟨filled, free, whole⟩ := ih
    rw [splitAll]
    by_cases here : c = separator
    · rw [if_pos here]
      refine ⟨by simp, List.forall_mem_cons.mpr ⟨by simp, free⟩, ?_⟩
      rw [List.flatMap_cons, whole, here]
      rfl
    · rw [if_neg here]
      cases pieces : splitAll separator rest with
      | nil => exact absurd pieces filled
      | cons piece more =>
        rw [pieces] at free whole
        obtain ⟨first, others⟩ := List.forall_mem_cons.mp free
        refine ⟨by simp, List.forall_mem_cons.mpr ⟨?_, others⟩, ?_⟩
        · simpa [first] using fun same => here same.symm
        · rw [List.cons_append, ← whole]
          rfl

theorem lines_isLines (text : String) : IsLines text (lines text) := by
  obtain ⟨filled, free, whole⟩ := splitAll_pieces '\n' text.toList
  have pieces : ((splitAll '\n' text.toList).map String.ofList).flatMap
      (fun line => line.toList ++ ['\n']) = text.toList ++ ['\n'] := by
    rw [List.flatMap_map, ← whole]
    simp
  have unbroken : ∀ line ∈ (splitAll '\n' text.toList).map String.ofList,
      '\n' ∉ line.toList := by
    simpa using free
  unfold lines
  dsimp only
  generalize (splitAll '\n' text.toList).map String.ofList = parts at pieces unbroken
  split
  · next last =>
    -- The empty piece behind the last break is none of the lines.
    obtain ⟨front, rfl⟩ := List.getLast?_eq_some_iff.mp last
    rw [List.dropLast_concat]
    refine ⟨fun line member => unbroken line (List.mem_append_left _ member), .inl ?_⟩
    simpa using pieces.symm
  · next last => exact ⟨unbroken, .inr ⟨pieces.symm, last⟩⟩

/-! ## 2. Lines and the lines before them -/

/-- What a line says: nothing, a directive, or something that is no directive. -/
def said (raw : String) : Except DirectiveError (Option Directive) :=
  if isSilent (trim raw) then .ok none else (read (trim raw)).map some

/-- A line of a text, with the lines before it. -/
structure Spot where
  before : List String
  raw : String

namespace Spot

/-- The number of the line, counted from 1. -/
def number (s : Spot) : Nat := s.before.length + 1

def isRule (s : Spot) : Bool :=
  match said s.raw with
  | .ok (some (.rule _)) => true
  | _ => false

def isCondition (s : Spot) : Bool :=
  match said s.raw with
  | .ok (some (.condition _)) => true
  | _ => false

/-- The value of an engine line. -/
def engine? (s : Spot) : Option Bool :=
  match said s.raw with
  | .ok (some (.engine on)) => some on
  | _ => none

end Spot

/-- The lines that follow some others. -/
def spotsFrom (before : List String) : List String → List Spot
  | [] => []
  | raw :: rest => ⟨before, raw⟩ :: spotsFrom (before ++ [raw]) rest

/-- All lines of a text. -/
def spots (parts : List String) : List Spot := spotsFrom [] parts

/-- The condition lines behind the last rule line. -/
def openConditions (parts : List String) : List Spot :=
  ((spots parts).rtakeWhile fun s => !s.isRule).filter Spot.isCondition

/-- The value of the last engine line; without one the engine is on. -/
def engineAfter (parts : List String) : Bool :=
  ((spots parts).filterMap Spot.engine?).getLast?.getD true

theorem spotsFrom_append (before first second : List String) :
    spotsFrom before (first ++ second) =
      spotsFrom before first ++ spotsFrom (before ++ first) second := by
  induction first generalizing before with
  | nil => simp [spotsFrom]
  | cons raw rest ih => simp [spotsFrom, ih]

theorem spots_concat (parts : List String) (raw : String) :
    spots (parts ++ [raw]) = spots parts ++ [⟨parts, raw⟩] :=
  spotsFrom_append [] parts [raw]

theorem openConditions_concat (parts : List String) (raw : String) :
    openConditions (parts ++ [raw]) =
      if Spot.isRule ⟨parts, raw⟩ then []
      else openConditions parts ++
        if Spot.isCondition ⟨parts, raw⟩ then [⟨parts, raw⟩] else [] := by
  rw [openConditions, spots_concat, List.rtakeWhile_concat]
  cases Spot.isRule ⟨parts, raw⟩ with
  | true => rfl
  | false =>
    rw [if_pos (by rfl), if_neg Bool.false_ne_true, List.filter_append, openConditions]
    cases condition : Spot.isCondition ⟨parts, raw⟩ <;> simp [condition]

theorem engineAfter_concat (parts : List String) (raw : String) :
    engineAfter (parts ++ [raw]) = (Spot.engine? ⟨parts, raw⟩).getD (engineAfter parts) := by
  rw [engineAfter, spots_concat, List.filterMap_append]
  cases value : Spot.engine? ⟨parts, raw⟩ <;> simp [value, engineAfter]

/-! ## 3. Good and bad lines -/

theorem foldl_pushCondition (conditions : List Condition) (d : RuleDraft) (held : Conditions)
    (holds : d.conditions = some held) :
    conditions.foldl RuleDraft.pushCondition d =
      { d with conditions := some { held with items := held.items ++ conditions } } := by
  induction conditions generalizing d held with
  | nil => simp [← holds]
  | cons c rest ih =>
    have pushed : (d.pushCondition c).conditions = some (held.push c) := by
      simp [RuleDraft.pushCondition, holds]
    rw [List.foldl_cons, ih (d.pushCondition c) (held.push c) pushed]
    simp [RuleDraft.pushCondition, Conditions.push]

/-- A rule has the conditions and the switch that its line was given. -/
theorem compile_keeps {line : RuleLine} {conditions : List Condition} {enabled : Bool}
    {options : RuleOptions} {rule : Rule}
    (compiles : line.compile conditions enabled options = .ok rule) :
    rule.items = conditions ∧ rule.enabled = enabled := by
  simp only [RuleLine.compile, bind_ok_iff, mapError_ok_iff, RuleDraft.setMatch, map_ok_iff]
    at compiles
  obtain ⟨_, ⟨matcher, _, rfl⟩, url, _, finished⟩ := compiles
  obtain ⟨_, _, _, rfl, _⟩ := RuleDraft.build_ok_iff.mp finished
  cases conditions with
  | nil => exact ⟨rfl, rfl⟩
  | cons c rest =>
    rw [if_neg (by simp), foldl_pushCondition _ _ _ rfl]
    exact ⟨rfl, rfl⟩

namespace Spot

variable (options : RuleOptions)

/-- The line says a condition, and this is the condition it stands for. -/
def Guards (s : Spot) (condition : Condition) : Prop :=
  ∃ line, said s.raw = .ok (some (.condition line)) ∧ line.compile options = .ok condition

/-- The line says a rule, and this is the rule it stands for: guarded by the conditions of the
lines behind the rule line before it, and enabled as the last engine line says. -/
def Makes (s : Spot) (rule : Rule) : Prop :=
  ∃ line, said s.raw = .ok (some (.rule line)) ∧
    List.Forall₂ (Guards options) (openConditions s.before) rule.items ∧
    rule.enabled = engineAfter s.before ∧
    line.compile rule.items rule.enabled options = .ok rule

/-- The line says nothing, or a directive that compiles. -/
inductive Good (s : Spot) : Prop
  | silent : said s.raw = .ok none → Good s
  | engine {on : Bool} : said s.raw = .ok (some (.engine on)) → Good s
  | condition {condition : Condition} : s.Guards options condition → Good s
  | rule {rule : Rule} : s.Makes options rule → Good s

/-- The line says no directive, or one that does not compile. -/
inductive Bad (s : Spot) : DirectiveError → Prop
  | unread {cause : DirectiveError} : said s.raw = .error cause → Bad s cause
  | condition {line : ConditionLine} {cause : DirectiveError} :
      said s.raw = .ok (some (.condition line)) → line.compile options = .error cause →
      Bad s cause
  | rule {line : RuleLine} {conditions : List Condition} {cause : DirectiveError} :
      said s.raw = .ok (some (.rule line)) →
      List.Forall₂ (Guards options) (openConditions s.before) conditions →
      line.compile conditions (engineAfter s.before) options = .error cause → Bad s cause

end Spot

/-- The rule lines of a text. -/
def ruleSpots (parts : List String) : List Spot := (spots parts).filter Spot.isRule

/-! ## 4. One line -/

variable {options : RuleOptions}

/-- What the reader keeps is what the lines before have left open. -/
structure PendingAfter (options : RuleOptions) (before : List String) (pending : Pending) :
    Prop where
  enabled : pending.enabled = engineAfter before
  conditions : List.Forall₂ (Spot.Guards options) (openConditions before) pending.conditions
  line : ∀ s, (openConditions before).getLast? = some s → pending.line = s.number

theorem pendingAfter_nil : PendingAfter options [] {} := ⟨rfl, .nil, fun _ last => by cases last⟩

theorem readLines_nil (number : Nat) (pending : Pending) :
    readLines options number pending [] =
      if pending.conditions.isEmpty then .ok [] else .error ⟨pending.line, .danglingCondition⟩ :=
  rfl

/-- The reader at one line. -/
theorem readLines_cons (number : Nat) (pending : Pending) (raw : String) (rest : List String) :
    readLines options number pending (raw :: rest) =
      match said raw with
      | .error e => .error ⟨number, e⟩
      | .ok none => readLines options (number + 1) pending rest
      | .ok (some (.engine on)) =>
        readLines options (number + 1) { pending with enabled := on } rest
      | .ok (some (.condition c)) =>
        match c.compile options with
        | .error e => .error ⟨number, e⟩
        | .ok guarding =>
          readLines options (number + 1)
            { pending with conditions := pending.conditions ++ [guarding], line := number } rest
      | .ok (some (.rule r)) =>
        match r.compile pending.conditions pending.enabled options with
        | .error e => .error ⟨number, e⟩
        | .ok compiled =>
          (readLines options (number + 1) { pending with conditions := [] } rest).map
            fun rules => compiled :: rules := by
  conv_lhs => unfold readLines
  unfold said
  dsimp only
  split
  · rfl
  · cases read (trim raw) with
    | error e => rfl
    | ok d => cases d <;> rfl

theorem Spot.good_or_bad {before : List String} {pending : Pending}
    (after : PendingAfter options before pending) (raw : String) :
    Spot.Good options ⟨before, raw⟩ ∨ ∃ cause, Spot.Bad options ⟨before, raw⟩ cause := by
  cases reads : said raw with
  | error cause => exact .inr ⟨cause, .unread reads⟩
  | ok directive =>
    rcases directive with _ | (c | r | on)
    · exact .inl (.silent reads)
    · cases compiles : c.compile options with
      | error cause => exact .inr ⟨cause, .condition reads compiles⟩
      | ok condition => exact .inl (.condition ⟨c, reads, compiles⟩)
    · cases compiles : r.compile pending.conditions (engineAfter before) options with
      | error cause => exact .inr ⟨cause, .rule reads after.conditions compiles⟩
      | ok rule =>
        obtain ⟨items, enabled⟩ := compile_keeps compiles
        exact .inl (.rule ⟨r, reads, items ▸ after.conditions, enabled,
          by rw [items, enabled, compiles]⟩)
    · exact .inl (.engine reads)

theorem Spot.guards_unique : Relator.RightUnique (Spot.Guards options) := by
  rintro s first second ⟨line, reads, compiles⟩ ⟨_, readsAgain, compilesAgain⟩
  rw [reads] at readsAgain
  cases readsAgain
  rw [compiles] at compilesAgain
  exact Except.ok.inj compilesAgain

theorem PendingAfter.conditions_eq {before : List String} {pending : Pending}
    (after : PendingAfter options before pending) {conditions : List Condition}
    (guards : List.Forall₂ (Spot.Guards options) (openConditions before) conditions) :
    conditions = pending.conditions :=
  List.right_unique_forall₂' Spot.guards_unique guards after.conditions

/-- A bad line is what the reader fails for. -/
theorem readLines_bad {before : List String} {pending : Pending}
    (after : PendingAfter options before pending) {raw : String} {cause : DirectiveError}
    (bad : Spot.Bad options ⟨before, raw⟩ cause) (rest : List String) :
    readLines options (before.length + 1) pending (raw :: rest) =
      .error ⟨before.length + 1, cause⟩ := by
  rw [readLines_cons]
  cases bad with
  | unread reads => rw [reads]
  | condition reads compiles =>
    rw [reads]
    simp only [compiles]
  | rule reads guards compiles =>
    rw [reads]
    simp only [after.conditions_eq guards, after.enabled] at compiles ⊢
    simp only [compiles]

namespace PendingAfter

variable {before : List String} {pending : Pending} {raw : String}

theorem silent (after : PendingAfter options before pending) (reads : said raw = .ok none) :
    PendingAfter options (before ++ [raw]) pending := by
  have same : openConditions (before ++ [raw]) = openConditions before := by
    simp [openConditions_concat, Spot.isRule, Spot.isCondition, reads]
  refine ⟨?_, same ▸ after.conditions, same ▸ after.line⟩
  simpa [engineAfter_concat, Spot.engine?, reads] using after.enabled

theorem engine (after : PendingAfter options before pending) {on : Bool}
    (reads : said raw = .ok (some (.engine on))) :
    PendingAfter options (before ++ [raw]) { pending with enabled := on } := by
  have same : openConditions (before ++ [raw]) = openConditions before := by
    simp [openConditions_concat, Spot.isRule, Spot.isCondition, reads]
  refine ⟨?_, same ▸ after.conditions, same ▸ after.line⟩
  simp [engineAfter_concat, Spot.engine?, reads]

theorem condition (after : PendingAfter options before pending) {line : ConditionLine}
    (reads : said raw = .ok (some (.condition line))) {guarding : Condition}
    (compiles : line.compile options = .ok guarding) :
    PendingAfter options (before ++ [raw])
      { pending with
        conditions := pending.conditions ++ [guarding], line := before.length + 1 } := by
  have more : openConditions (before ++ [raw]) = openConditions before ++ [⟨before, raw⟩] := by
    simp [openConditions_concat, Spot.isRule, Spot.isCondition, reads]
  refine ⟨?_, ?_, ?_⟩
  · simpa [engineAfter_concat, Spot.engine?, reads] using after.enabled
  · rw [more]
    exact List.rel_append after.conditions (.cons ⟨line, reads, compiles⟩ .nil)
  · simp [more, Spot.number]

theorem rule (after : PendingAfter options before pending) {line : RuleLine}
    (reads : said raw = .ok (some (.rule line))) :
    PendingAfter options (before ++ [raw]) { pending with conditions := [] } := by
  have closed : openConditions (before ++ [raw]) = [] := by
    simp [openConditions_concat, Spot.isRule, reads]
  refine ⟨?_, by simp [closed], by simp [closed]⟩
  simpa [engineAfter_concat, Spot.engine?, reads] using after.enabled

end PendingAfter

/-- A good line leaves what it has open, and makes one rule if it is a rule line. -/
theorem readLines_good {before : List String} {pending : Pending}
    (after : PendingAfter options before pending) {raw : String}
    (good : Spot.Good options ⟨before, raw⟩) (rest : List String) :
    ∃ made next, PendingAfter options (before ++ [raw]) next ∧
      List.Forall₂ (Spot.Makes options) ([⟨before, raw⟩].filter Spot.isRule) made ∧
      readLines options (before.length + 1) pending (raw :: rest) =
        (readLines options (before.length + 1 + 1) next rest).map (made ++ ·) := by
  have unchanged : ∀ x : Except LineError (List Rule), x = x.map ([] ++ ·) := by
    intro x
    cases x <;> rfl
  cases good with
  | silent reads =>
    refine ⟨[], _, after.silent reads, by simp [Spot.isRule, reads], ?_⟩
    rw [readLines_cons, reads]
    exact unchanged _
  | engine reads =>
    refine ⟨[], _, after.engine reads, by simp [Spot.isRule, reads], ?_⟩
    rw [readLines_cons, reads]
    exact unchanged _
  | condition guards =>
    obtain ⟨line, reads, compiles⟩ := guards
    refine ⟨[], _, after.condition reads compiles, by simp [Spot.isRule, reads], ?_⟩
    rw [readLines_cons, reads]
    simp only [compiles]
    exact unchanged _
  | @rule made makes =>
    obtain ⟨line, reads, guards, enabled, compiles⟩ := makes
    have makes : Spot.Makes options ⟨before, raw⟩ made := ⟨line, reads, guards, enabled, compiles⟩
    refine ⟨[made], _, after.rule reads, by simpa [Spot.isRule, reads] using makes, ?_⟩
    rw [after.conditions_eq guards, enabled, ← after.enabled] at compiles
    rw [readLines_cons, reads]
    simp only [compiles]
    rfl

/-! ## 5. Lines and their names -/

theorem said_none_iff {raw : String} : said raw = .ok none ↔ isSilent (trim raw) = true := by
  unfold said
  cases silent : isSilent (trim raw) with
  | true => simp
  | false =>
    rw [if_neg Bool.false_ne_true, map_ok_iff]
    simp

/-- A line says what the name at its front makes it mean. -/
theorem said_some_iff {raw : String} {d : Directive} :
    said raw = .ok (some d) ↔ Means (trim raw) d := by
  unfold said
  cases silent : isSilent (trim raw) with
  | true =>
    rw [if_pos rfl]
    constructor
    · rintro ⟨⟩
    · intro means
      rw [means.not_silent] at silent
      cases silent
  | false =>
    rw [if_neg Bool.false_ne_true, map_ok_iff, ← read_ok_iff]
    simp

namespace Spot

/-- What a line counts as goes by the name at its front. A name alone does not make a line good,
but a good line counts as what its name says. -/
structure Named (options : RuleOptions) (s : Spot) : Prop where
  means : ∀ d, said s.raw = .ok (some d) ↔ Means (trim s.raw) d
  rule : s.Good options → (s.isRule = true ↔ ∃ text, Calls ruleNames (trim s.raw) text)
  condition :
    s.Good options → (s.isCondition = true ↔ ∃ text, Calls conditionNames (trim s.raw) text)
  engine : s.Good options → ∀ on, s.engine? = some on ↔
    ∃ text, Calls engineNames (trim s.raw) text ∧ lower (trim text) = switchText on

variable {s : Spot}

theorem Good.said (good : s.Good options) : ∃ d?, said s.raw = .ok d? := by
  cases good with
  | silent reads | engine reads => exact ⟨_, reads⟩
  | condition guards =>
    obtain ⟨_, reads, _⟩ := guards
    exact ⟨_, reads⟩
  | rule makes =>
    obtain ⟨_, reads, _⟩ := makes
    exact ⟨_, reads⟩

/-- A line that says something has a name of its kind, and one that says nothing has no name. -/
theorem calls_iff {d? : Option Directive} (reads : Directive.said s.raw = .ok d?)
    {listed : List String} (kind : listed ∈ kinds) :
    (∃ text, Calls listed (trim s.raw) text) ↔ ∃ d ∈ d?, listed = d.names := by
  cases d? with
  | none =>
    have silent := said_none_iff.mp reads
    constructor
    · rintro ⟨text, calls⟩
      rw [calls.not_silent kind] at silent
      cases silent
    · rintro ⟨d, ⟨⟩, _⟩
  | some d =>
    rw [(said_some_iff.mp reads).calls_iff kind]
    simp

theorem isRule_iff (good : s.Good options) :
    s.isRule = true ↔ ∃ text, Calls ruleNames (trim s.raw) text := by
  obtain ⟨d?, reads⟩ := good.said
  rw [calls_iff reads (by decide), isRule, reads]
  rcases d? with _ | (_ | _ | _) <;> simp [names, ruleNames, conditionNames, engineNames]

theorem isCondition_iff (good : s.Good options) :
    s.isCondition = true ↔ ∃ text, Calls conditionNames (trim s.raw) text := by
  obtain ⟨d?, reads⟩ := good.said
  rw [calls_iff reads (by decide), isCondition, reads]
  rcases d? with _ | (_ | _ | _) <;> simp [names, ruleNames, conditionNames, engineNames]

theorem engine_eq_iff {on : Bool} :
    s.engine? = some on ↔ said s.raw = .ok (some (.engine on)) := by
  unfold engine?
  split
  · next reads => simp [reads]
  · next other =>
    constructor
    · rintro ⟨⟩
    · intro reads
      exact absurd reads (other on)

theorem engine_iff (good : s.Good options) (on : Bool) :
    s.engine? = some on ↔
      ∃ text, Calls engineNames (trim s.raw) text ∧ lower (trim text) = switchText on := by
  rw [engine_eq_iff]
  constructor
  · intro reads
    cases said_some_iff.mp reads with
    | engine calls _ value => exact ⟨_, calls, value⟩
  · rintro ⟨text, calls, value⟩
    obtain ⟨d?, reads⟩ := good.said
    obtain ⟨d, isSome, kind⟩ := (calls_iff reads (by decide)).mp ⟨text, calls⟩
    cases isSome
    cases said_some_iff.mp reads with
    | rule | condition => simp [names, ruleNames, conditionNames, engineNames] at kind
    | @engine _ _ there callsThere _ valueThere =>
      -- The line has one name, so the text behind it is the one that was read.
      obtain ⟨rfl, _⟩ := calls.shared callsThere
      have same : switchText on = switchText there := value.symm.trans valueThere
      have value : on = there := by
        revert same
        cases on <;> cases there <;> decide
      rw [value, reads]

theorem named (options : RuleOptions) (s : Spot) : s.Named options :=
  ⟨fun _ => said_some_iff, isRule_iff, isCondition_iff, engine_iff⟩

end Spot

/-! ## 6. All lines -/

/-- Good lines in front of others leave their rules and what they have open. -/
theorem readLines_append {before : List String} {pending : Pending}
    (after : PendingAfter options before pending) (front rest : List String)
    (good : ∀ s ∈ spotsFrom before front, s.Good options) :
    ∃ made next, PendingAfter options (before ++ front) next ∧
      List.Forall₂ (Spot.Makes options) ((spotsFrom before front).filter Spot.isRule) made ∧
      readLines options (before.length + 1) pending (front ++ rest) =
        (readLines options ((before ++ front).length + 1) next rest).map (made ++ ·) := by
  induction front generalizing before pending with
  | nil =>
    refine ⟨[], pending, by simpa using after, .nil, ?_⟩
    rw [List.nil_append, List.append_nil]
    cases readLines options (before.length + 1) pending rest <;> rfl
  | cons raw front ih =>
    obtain ⟨here, others⟩ := List.forall_mem_cons.mp good
    obtain ⟨made, next, goesOn, makes, step⟩ := readLines_good after here (front ++ rest)
    obtain ⟨more, last, ends, makesMore, run⟩ := ih goesOn others
    rw [List.length_append, List.length_singleton] at run
    refine ⟨made ++ more, last, by simpa using ends, ?_, ?_⟩
    · rw [spotsFrom, ← List.singleton_append, List.filter_append]
      exact List.rel_append makes makesMore
    · rw [List.cons_append, step, run, List.append_assoc, List.singleton_append]
      cases readLines options ((before ++ raw :: front).length + 1) last rest <;>
        simp [Except.map]

/-- A line stands behind the lines before it. -/
theorem spotsFrom_split {before parts : List String} {front back : List Spot} {s : Spot}
    (whole : spotsFrom before parts = front ++ s :: back) :
    ∃ first rest, parts = first ++ s.raw :: rest ∧ s.before = before ++ first ∧
      front = spotsFrom before first := by
  induction parts generalizing before front with
  | nil => simp [spotsFrom] at whole
  | cons raw parts ih =>
    rw [spotsFrom] at whole
    cases front with
    | nil =>
      cases whole
      exact ⟨[], parts, rfl, (List.append_nil _).symm, rfl⟩
    | cons here front =>
      obtain ⟨rfl, later⟩ := List.cons.inj whole
      obtain ⟨first, rest, rfl, place, rfl⟩ := ih later
      exact ⟨raw :: first, rest, rfl, by simpa using place, rfl⟩

/-- The line is bad, and all lines before it are good. -/
def FirstBad (options : RuleOptions) (all : List Spot) (s : Spot) (cause : DirectiveError) :
    Prop :=
  ∃ front back, all = front ++ s :: back ∧ (∀ t ∈ front, t.Good options) ∧ s.Bad options cause

theorem good_or_firstBad (options : RuleOptions) (parts : List String) :
    (∀ s ∈ spots parts, s.Good options) ∨
      ∃ s cause, FirstBad options (spots parts) s cause := by
  induction parts using List.reverseRecOn with
  | nil => exact .inl (by simp [spots, spotsFrom])
  | append_singleton parts raw ih =>
    rw [spots_concat]
    rcases ih with good | ⟨s, cause, front, back, whole, before, bad⟩
    · obtain ⟨_, _, after, _⟩ := readLines_append pendingAfter_nil parts [] good
      rcases Spot.good_or_bad after raw with here | ⟨cause, bad⟩
      · exact .inl (List.forall_mem_append.mpr ⟨good, List.forall_mem_singleton.mpr here⟩)
      · exact .inr ⟨_, cause, spots parts, [], rfl, good, bad⟩
    · exact .inr ⟨s, cause, front, back ++ [⟨parts, raw⟩], by simp [whole], before, bad⟩

theorem readLines_firstBad {parts : List String} {s : Spot} {cause : DirectiveError}
    (first : FirstBad options (spots parts) s cause) :
    readLines options 1 {} parts = .error ⟨s.number, cause⟩ := by
  obtain ⟨front, back, whole, good, bad⟩ := first
  obtain ⟨before, rest, rfl, place, rfl⟩ := spotsFrom_split whole
  obtain ⟨made, next, after, _, run⟩ :=
    readLines_append pendingAfter_nil before (s.raw :: rest) good
  obtain ⟨_, raw⟩ := s
  cases place
  rw [show 1 = ([] : List String).length + 1 from rfl, run, readLines_bad after bad]
  rfl

theorem readLines_allGood {parts : List String} (good : ∀ s ∈ spots parts, s.Good options) :
    ∃ rules, List.Forall₂ (Spot.Makes options) (ruleSpots parts) rules ∧
      readLines options 1 {} parts =
        match (openConditions parts).getLast? with
        | none => .ok rules
        | some s => .error ⟨s.number, .danglingCondition⟩ := by
  obtain ⟨rules, next, after, makes, run⟩ := readLines_append pendingAfter_nil parts [] good
  refine ⟨rules, makes, ?_⟩
  rw [List.append_nil] at run
  rw [show 1 = ([] : List String).length + 1 from rfl, run, readLines_nil]
  cases last : (openConditions parts).getLast? with
  | none =>
    have closed : next.conditions = [] := by
      have none_open := List.getLast?_eq_none_iff.mp last
      simpa [none_open] using after.conditions
    simp [closed, Except.map]
  | some s =>
    have left : next.conditions ≠ [] := by
      intro closed
      have guards := after.conditions
      simp only [List.nil_append, closed, List.forall₂_nil_right_iff] at guards
      simp [guards] at last
    have line := after.line s last
    simp [left, line, Except.map]

theorem readLines_ok {parts : List String} {rules : List Rule}
    (reads : readLines options 1 {} parts = .ok rules) :
    (∀ s ∈ spots parts, s.Good options) ∧ openConditions parts = [] ∧
      List.Forall₂ (Spot.Makes options) (ruleSpots parts) rules := by
  rcases good_or_firstBad options parts with good | ⟨s, cause, first⟩
  · obtain ⟨made, makes, run⟩ := readLines_allGood good
    rw [reads] at run
    cases last : (openConditions parts).getLast? with
    | none =>
      rw [last] at run
      cases run
      exact ⟨good, List.getLast?_eq_none_iff.mp last, makes⟩
    | some s =>
      rw [last] at run
      cases run
  · rw [readLines_firstBad first] at reads
    cases reads

theorem readLines_error {parts : List String} {e : LineError}
    (reads : readLines options 1 {} parts = .error e) :
    (∃ s cause, FirstBad options (spots parts) s cause ∧ e = ⟨s.number, cause⟩) ∨
      (∀ s ∈ spots parts, s.Good options) ∧
        ∃ s, (openConditions parts).getLast? = some s ∧ e = ⟨s.number, .danglingCondition⟩ := by
  rcases good_or_firstBad options parts with good | ⟨s, cause, first⟩
  · obtain ⟨_, _, run⟩ := readLines_allGood good
    rw [reads] at run
    cases last : (openConditions parts).getLast? with
    | none =>
      rw [last] at run
      cases run
    | some s =>
      rw [last] at run
      exact .inr ⟨good, s, rfl, Except.error.inj run⟩
  · rw [readLines_firstBad first] at reads
    exact .inl ⟨s, cause, first, (Except.error.inj reads).symm⟩

/-- A text of directive lines has rules exactly if all its lines are good and no condition stands
behind the last rule line. Each rule line then makes one rule, in order. A text that is refused
is so for its first bad line or, if all lines are good, for the last condition that guards no
rule. What the lines count as goes by the names at their front. -/
theorem readRules_outcome (text : String) (options : RuleOptions) :
    IsLines text (lines text) ∧
    ((∃ rules, readRules text options = .ok rules) ↔
      (∀ s ∈ spots (lines text), s.Good options) ∧ openConditions (lines text) = []) ∧
    (∀ rules, readRules text options = .ok rules →
      List.Forall₂ (Spot.Makes options) (ruleSpots (lines text)) rules) ∧
    (∀ e, readRules text options = .error e ↔
      (∃ s cause, FirstBad options (spots (lines text)) s cause ∧ e = ⟨s.number, cause⟩) ∨
      (∀ s ∈ spots (lines text), s.Good options) ∧
        ∃ s, (openConditions (lines text)).getLast? = some s ∧
          e = ⟨s.number, .danglingCondition⟩) ∧
    ∀ s ∈ spots (lines text), s.Named options := by
  refine ⟨lines_isLines text, ⟨?_, ?_⟩, fun rules reads => (readLines_ok reads).2.2, fun e =>
    ⟨readLines_error, ?_⟩, fun s _ => s.named options⟩
  · rintro ⟨rules, reads⟩
    exact ⟨(readLines_ok reads).1, (readLines_ok reads).2.1⟩
  · rintro ⟨good, closed⟩
    obtain ⟨rules, _, run⟩ := readLines_allGood good
    rw [closed] at run
    exact ⟨rules, run⟩
  · rintro (⟨s, cause, first, rfl⟩ | ⟨good, s, last, rfl⟩)
    · exact readLines_firstBad first
    · obtain ⟨_, _, run⟩ := readLines_allGood good
      rw [last] at run
      exact run

/-- Two conditions with an engine line and a comment between them, and a rule that both guard. -/
def exGuarded : String := "cond a =a\nengine off\n#\ncond b =b\nrule x -\n\n"

/-- The rule has both conditions and is switched off. A condition behind it guards no rule. -/
theorem readRules_outcome_guarded :
    (∃ rule, readRules exGuarded {} = .ok [rule] ∧ rule.items.length = 2 ∧
      rule.enabled = false) ∧
    readRules (exGuarded ++ "cond c =c") {} = .error ⟨7, .danglingCondition⟩ := by
  have succeeds : (readRules exGuarded {}).isOk = true := by decide +kernel
  obtain ⟨rules, reads⟩ : ∃ rules, readRules exGuarded {} = .ok rules := by
    cases reads : readRules exGuarded {} with
    | ok rules => exact ⟨rules, rfl⟩
    | error e =>
      rw [reads] at succeeds
      cases succeeds
  obtain ⟨_, isRead, made, _⟩ := readRules_outcome exGuarded {}
  constructor
  · have before : (ruleSpots (lines exGuarded)).map
        (fun s => ((openConditions s.before).map Spot.number, engineAfter s.before)) =
          [([1, 4], false)] := by decide +kernel
    obtain ⟨s, single, before⟩ := List.map_eq_singleton_iff.mp before
    obtain ⟨numbers, engine⟩ := Prod.mk.inj before
    have makes := made rules reads
    rw [single, List.forall₂_cons_left_iff] at makes
    obtain ⟨rule, _, ⟨_, _, guards, enabled, _⟩, others, rfl⟩ := makes
    cases others
    refine ⟨rule, reads, ?_, enabled.trans engine⟩
    rw [← guards.length_eq, ← List.length_map Spot.number, numbers]
    rfl
  · have more : lines (exGuarded ++ "cond c =c") = lines exGuarded ++ ["cond c =c"] := by
      decide +kernel
    have line : (lines exGuarded).length = 6 := by decide +kernel
    have noRule : Spot.isRule ⟨lines exGuarded, "cond c =c"⟩ = false := by decide +kernel
    have isCondition : Spot.isCondition ⟨lines exGuarded, "cond c =c"⟩ = true := by
      decide +kernel
    obtain ⟨good, closed⟩ := isRead.mp ⟨rules, reads⟩
    obtain ⟨_, _, _, fails, _⟩ := readRules_outcome (exGuarded ++ "cond c =c") {}
    refine (fails _).mpr (.inr ⟨?_, ⟨lines exGuarded, "cond c =c"⟩, ?_, ?_⟩)
    · rw [more, spots_concat]
      refine List.forall_mem_append.mpr ⟨good, List.forall_mem_singleton.mpr ?_⟩
      exact .condition ⟨⟨"c", .exact "c", false, {}⟩, by decide +kernel, rfl⟩
    · rw [more, openConditions_concat, noRule, isCondition, closed]
      rfl
    · rw [Spot.number, line]

end Reroute.Directive
