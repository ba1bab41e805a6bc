import Reroute.Proofs.Loading

/-!
# Where a rule element is at fault

A rule element is read together with its match, its conditions and its action. Whatever is wrong
with it is reported at the one of these that is at fault, and each of them has faults of its own:
settings whose values are not allowed (`PartKind.settings`), and things that are missing or that do
not compile (`Offends`).

Results:
1. `switch_offends`, `choice_offends`: a setting is refused at its own element.
2. `addCondition_offends`, `addConditions_offends`, `action_offends`: the faults of conditions and
   of actions.
3. `enabledRule_offends`: the faults of a rule element.
-/

namespace Reroute.RewriteSection

open Reroute.Markup

/-! ## 1. Faults of an element -/

/-- The elements that a rule is read from. -/
inductive PartKind
  | rule
  | matching
  | conditions
  | condition
  | action

/-- The elements that the rule of an element is read from. -/
inductive Part (e : Element) : PartKind → Element → Prop
  | rule : Part e .rule e
  | matching {x : Element} : e.child? "match" = some x → Part e .matching x
  | conditions {x : Element} : e.child? "conditions" = some x → Part e .conditions x
  | condition {list x : Element} : e.child? "conditions" = some list →
      x ∈ list.childrenNamed "add" → Part e .condition x
  | action {x : Element} : e.child? "action" = some x → Part e .action x

/-- The words of a switch. -/
def isSwitch (word : String) : Bool :=
  Text.sameAsciiCase word "true" || Text.sameAsciiCase word "false"

/-- The words of a choice. -/
def isOne {α ε : Type} (ofText : String → Except ε α) (word : String) : Bool :=
  (ofText word).toOption.isSome

/-- The words for a status of a custom response. -/
def isStatus (word : String) : Bool :=
  match Text.readNat 65535 word with
  | .ok status => 100 ≤ status && status < 600
  | .error _ => false

/-- The attributes of an element that allow some words only. -/
def PartKind.settings : PartKind → List (String × (String → Bool))
  | .rule =>
    [("enabled", isSwitch), ("patternSyntax", isOne PatternSyntax.ofText),
      ("stopProcessing", isSwitch)]
  | .matching => [("ignoreCase", isSwitch), ("negate", isSwitch)]
  | .conditions => [("logicalGrouping", isOne Grouping.ofText), ("trackAllCaptures", isSwitch)]
  | .condition =>
    [("ignoreCase", isSwitch), ("negate", isSwitch), ("matchType", isOne MatchType.ofText)]
  | .action =>
    [("type", isOne ActionType.ofText), ("redirectType", isOne RedirectType.ofText),
      ("appendQueryString", isSwitch), ("statusCode", isStatus)]

/-- What an element can be refused for, with the reason. -/
inductive Offends (tables : LookupTables) (options : RuleOptions) :
    PartKind → Element → SectionFault → Prop
  | unrecognized {kind : PartKind} {x : Element} {key value : String} {allows : String → Bool} :
      (key, allows) ∈ kind.settings → x.attribute? key = some value →
      allows (Text.trim value) = false → Offends tables options kind x (.unrecognized key value)
  | noMatch {x : Element} : x.child? "match" = none →
      Offends tables options .rule x .ruleWithoutMatch
  | noAction {x : Element} : x.child? "action" = none →
      Offends tables options .rule x .ruleWithoutAction
  | noUrl {x : Element} : x.attribute? "url" = none →
      Offends tables options .matching x .matchWithoutUrl
  | noInput {x : Element} : x.attribute? "input" = none →
      Offends tables options .condition x .conditionWithoutInput
  | emptyUrl {x : Element} : x.attribute? "url" = some "" →
      Offends tables options .action x .emptyUrl
  | noStatus {x : Element} : x.attribute? "statusCode" = none →
      Offends tables options .action x .missingStatus
  | input {x : Element} {text : String} {cause : TemplateError} :
      x.attribute? "input" = some text → Template.ofBraced tables text = .error cause →
      Offends tables options .condition x (.template cause)
  | url {x : Element} {cause : TemplateError} :
      Template.ofBraced tables ((x.attribute? "url").getD "") = .error cause →
      Offends tables options .action x (.template cause)
  | pattern {x : Element} {d : RuleDraft} {text : String} {ignoreCase negate : Bool}
      {style : PatternSyntax} {cause : BuildError} :
      d.options = options → x.attribute? "url" = some text →
      d.setMatch text ignoreCase negate style = .error cause →
      Offends tables options .matching x (.build cause)
  | test {x : Element} {style : PatternSyntax} {type : MatchType} {ignoreCase negate : Bool}
      {cause : BuildError} :
      RuleDraft.conditionMatcher options (x.attribute? "pattern") style type ignoreCase negate =
        .error cause →
      Offends tables options .condition x (.build cause)
  | draft {x : Element} {d : RuleDraft} {isGlobal : Bool} {cause : BuildError} :
      d.options = options → d.build isGlobal = .error cause →
      Offends tables options .rule x (.build cause)

variable {tables : LookupTables} {options : RuleOptions} {e x : Element} {fault : SectionFault}

theorem Part.offends {kind : PartKind} {y : Element} (part : Part e kind y)
    (found : x = y ∧ Offends tables options kind y fault) :
    ∃ kind, Part e kind x ∧ Offends tables options kind x fault := by
  obtain ⟨rfl, offends⟩ := found
  exact ⟨kind, part, offends⟩

theorem switch_offends (kind : PartKind) {key : String} {standard : Bool}
    (fails : switch e key standard = .error (x, fault))
    (listed : (key, isSwitch) ∈ kind.settings) :
    x = e ∧ Offends tables options kind e fault := by
  unfold switch at fails
  split at fails
  · cases fails
  · next value given =>
    dsimp only at fails
    split at fails
    · cases fails
    · next noTrue =>
      split at fails
      · cases fails
      · next noFalse =>
        cases fails
        exact ⟨rfl, .unrecognized listed given (by simp [isSwitch, noTrue, noFalse])⟩

theorem choice_offends {α ε : Type} {ofText : String → Except ε α} (kind : PartKind)
    {key : String} {standard : α} (fails : choice ofText e key standard = .error (x, fault))
    (listed : (key, isOne ofText) ∈ kind.settings) :
    x = e ∧ Offends tables options kind e fault := by
  unfold choice at fails
  split at fails
  · cases fails
  · next value given =>
    split at fails
    · cases fails
    · next unknown =>
      cases fails
      exact ⟨rfl, .unrecognized listed given (by rw [isOne, unknown]; rfl)⟩

theorem required_offends (kind : PartKind) {key : String} {missing : SectionFault}
    (fails : required e key missing = .error (x, fault))
    (absent : e.attribute? key = none → Offends tables options kind e missing) :
    x = e ∧ Offends tables options kind e fault := by
  unfold required at fails
  split at fails
  · cases fails
  · next given =>
    cases fails
    exact ⟨rfl, absent given⟩

theorem required_ok {key value : String} {missing : SectionFault}
    (reads : required e key missing = .ok value) : e.attribute? key = some value := by
  unfold required at reads
  split at reads
  · cases reads
    assumption
  · cases reads

/-! ## 2. Conditions and actions -/

theorem readTemplate_error {text : String}
    (fails : readTemplate tables e text = .error (x, fault)) :
    x = e ∧ ∃ cause, Template.ofBraced tables text = .error cause ∧ fault = .template cause := by
  obtain ⟨cause, refused, same⟩ := mapError_error_iff.mp fails
  cases same
  exact ⟨rfl, cause, refused, rfl⟩

theorem addCondition_offends {style : PatternSyntax} {d : RuleDraft} (set : d.options = options)
    (fails : addCondition tables style d e = .error (x, fault)) :
    x = e ∧ Offends tables options .condition e fault := by
  simp only [addCondition, bind_error_iff] at fails
  rcases fails with fails | ⟨ignoreCase, _, fails | ⟨negate, _, fails | ⟨type, _, fails |
    ⟨written, given, fails | ⟨input, _, fails⟩⟩⟩⟩⟩
  · exact switch_offends .condition fails (by simp [PartKind.settings])
  · exact switch_offends .condition fails (by simp [PartKind.settings])
  · exact choice_offends .condition fails (by simp [PartKind.settings])
  · exact required_offends .condition fails .noInput
  · obtain ⟨rfl, cause, refused, rfl⟩ := readTemplate_error fails
    exact ⟨rfl, .input (required_ok given) refused⟩
  · obtain ⟨cause, refused, same⟩ := mapError_error_iff.mp fails
    cases same
    rw [RuleDraft.addCondition, map_error_iff, set] at refused
    exact ⟨rfl, .test refused⟩

/-- Reading a condition changes the conditions of a draft and nothing else. -/
theorem addCondition_ok {style : PatternSyntax} {d made : RuleDraft}
    (reads : addCondition tables style d e = .ok made) :
    ∃ conditions, made = { d with conditions } := by
  simp only [addCondition, bind_ok_iff, mapError_ok_iff, RuleDraft.addCondition, map_ok_iff]
    at reads
  obtain ⟨_, _, _, _, _, _, _, _, _, _, _, _, rfl⟩ := reads
  exact ⟨_, rfl⟩

theorem foldlM_ok {style : PatternSyntax} {elements : List Element} {d made : RuleDraft}
    (reads : elements.foldlM (addCondition tables style) d = .ok made) :
    ∃ conditions, made = { d with conditions } := by
  induction elements generalizing d with
  | nil =>
    cases reads
    exact ⟨_, rfl⟩
  | cons first rest ih =>
    rw [List.foldlM_cons, bind_ok_iff] at reads
    obtain ⟨next, step, reads⟩ := reads
    obtain ⟨_, rfl⟩ := addCondition_ok step
    obtain ⟨conditions, rfl⟩ := ih reads
    exact ⟨conditions, rfl⟩

theorem foldlM_offends {style : PatternSyntax} {elements : List Element} {d : RuleDraft}
    (set : d.options = options)
    (fails : elements.foldlM (addCondition tables style) d = .error (x, fault)) :
    x ∈ elements ∧ Offends tables options .condition x fault := by
  induction elements generalizing d with
  | nil => cases fails
  | cons first rest ih =>
    rw [List.foldlM_cons, bind_error_iff] at fails
    rcases fails with fails | ⟨next, step, fails⟩
    · obtain ⟨rfl, offends⟩ := addCondition_offends set fails
      exact ⟨List.mem_cons_self, offends⟩
    · obtain ⟨_, rfl⟩ := addCondition_ok step
      obtain ⟨later, offends⟩ := ih (by exact set) fails
      exact ⟨List.mem_cons_of_mem _ later, offends⟩

theorem addConditions_offends {style : PatternSyntax} {d : RuleDraft} {list : Element}
    (set : d.options = options) (here : e.child? "conditions" = some list)
    (fails : addConditions tables style d list = .error (x, fault)) :
    ∃ kind, Part e kind x ∧ Offends tables options kind x fault := by
  simp only [addConditions, bind_error_iff] at fails
  rcases fails with fails | ⟨grouping, _, fails | ⟨trackAll, _, fails⟩⟩
  · exact (Part.conditions here).offends
      (choice_offends .conditions fails (by simp [PartKind.settings]))
  · exact (Part.conditions here).offends
      (switch_offends .conditions fails (by simp [PartKind.settings]))
  · obtain ⟨member, offends⟩ := foldlM_offends (by exact set) fails
    exact ⟨_, .condition here member, offends⟩

theorem addConditions_ok {style : PatternSyntax} {d made : RuleDraft}
    (reads : addConditions tables style d e = .ok made) :
    ∃ conditions, made = { d with conditions } := by
  simp only [addConditions, bind_ok_iff] at reads
  obtain ⟨_, _, _, _, reads⟩ := reads
  obtain ⟨conditions, rfl⟩ := foldlM_ok reads
  exact ⟨conditions, rfl⟩

theorem customStatus_offends (fails : customStatus e = .error (x, fault)) :
    x = e ∧ Offends tables options .action e fault := by
  rw [customStatus, bind_error_iff] at fails
  rcases fails with fails | ⟨written, given, fails⟩
  · exact required_offends .action fails .noStatus
  · have listed : ("statusCode", isStatus) ∈ PartKind.action.settings := by
      simp [PartKind.settings]
    cases number : Text.readNat 65535 (Text.trim written) with
    | error _ =>
      simp only [number, Except.error.injEq, Prod.mk.injEq] at fails
      obtain ⟨rfl, rfl⟩ := fails
      exact ⟨rfl, .unrecognized listed (required_ok given) (by simp [isStatus, number])⟩
    | ok status =>
      simp only [number] at fails
      by_cases inside : 100 ≤ status ∧ status < 600
      · rw [if_pos inside] at fails
        cases fails
      · rw [if_neg inside] at fails
        cases fails
        exact ⟨rfl, .unrecognized listed (required_ok given)
          (by simpa [isStatus, number] using inside)⟩

theorem actionKind_offends {type : ActionType} {redirect : RedirectType}
    (fails : actionKind e type redirect = .error (x, fault)) :
    x = e ∧ Offends tables options .action e fault := by
  cases type with
  | keep | rewrite | redirect | abortRequest => cases fails
  | customResponse => exact customStatus_offends (map_error_iff.mp fails)

theorem action_offends {stop : Bool} (fails : action tables e stop = .error (x, fault)) :
    x = e ∧ Offends tables options .action e fault := by
  simp only [action, bind_error_iff] at fails
  rcases fails with fails | ⟨type, _, fails | ⟨redirect, _, fails | ⟨append, _, fails⟩⟩⟩
  · exact choice_offends .action fails (by simp [PartKind.settings])
  · exact choice_offends .action fails (by simp [PartKind.settings])
  · exact switch_offends .action fails (by simp [PartKind.settings])
  · split at fails
    · next empty =>
      cases fails
      exact ⟨rfl, .emptyUrl empty⟩
    · simp only [bind_error_iff] at fails
      rcases fails with fails | ⟨url, _, fails | ⟨kind, _, fails⟩⟩
      · obtain ⟨rfl, cause, refused, rfl⟩ := readTemplate_error fails
        exact ⟨rfl, .url refused⟩
      · exact actionKind_offends fails
      · cases fails

/-! ## 3. Rules -/

theorem requiredChild_error {name : String} {missing : SectionFault}
    (fails : requiredChild e name missing = .error (x, fault)) :
    x = e ∧ e.child? name = none ∧ fault = missing := by
  unfold requiredChild at fails
  split at fails
  · cases fails
  · next absent =>
    cases fails
    exact ⟨rfl, absent, rfl⟩

theorem requiredChild_ok {name : String} {missing : SectionFault} {child : Element}
    (reads : requiredChild e name missing = .ok child) : e.child? name = some child := by
  unfold requiredChild at reads
  split at reads
  · cases reads
    assumption
  · cases reads

theorem setMatch_ok {d made : RuleDraft} {text : String} {ignoreCase negate : Bool}
    {style : PatternSyntax} (reads : d.setMatch text ignoreCase negate style = .ok made) :
    ∃ initialMatch, made = { d with initialMatch := some initialMatch } := by
  cases style with
  | ecmaScript =>
    obtain ⟨matcher, _, rfl⟩ := map_ok_iff.mp reads
    exact ⟨matcher, rfl⟩
  | exactMatch =>
    cases reads
    exact ⟨_, rfl⟩
  | wildcard => cases reads

/-- A rule element that fails does so at one of the elements it is read from, for a reason of that
element. -/
theorem enabledRule_offends {isGlobal : Bool}
    (fails : enabledRule tables options isGlobal e = .error (x, fault)) :
    ∃ kind, Part e kind x ∧ Offends tables options kind x fault := by
  simp only [enabledRule, bind_error_iff] at fails
  rcases fails with fails | ⟨style, _, fails | ⟨stop, _, fails | ⟨matching, hasMatch, fails |
    ⟨acting, hasAction, fails | ⟨url, given, fails | ⟨ignoreCase, _, fails | ⟨negate, _, fails |
    ⟨d, drafts, fails⟩⟩⟩⟩⟩⟩⟩⟩
  · exact Part.rule.offends (choice_offends .rule fails (by simp [PartKind.settings]))
  · exact Part.rule.offends (switch_offends .rule fails (by simp [PartKind.settings]))
  · obtain ⟨rfl, absent, rfl⟩ := requiredChild_error fails
    exact ⟨_, .rule, .noMatch absent⟩
  · obtain ⟨rfl, absent, rfl⟩ := requiredChild_error fails
    exact ⟨_, .rule, .noAction absent⟩
  · exact (Part.matching (requiredChild_ok hasMatch)).offends
      (required_offends .matching fails .noUrl)
  · exact (Part.matching (requiredChild_ok hasMatch)).offends
      (switch_offends .matching fails (by simp [PartKind.settings]))
  · exact (Part.matching (requiredChild_ok hasMatch)).offends
      (switch_offends .matching fails (by simp [PartKind.settings]))
  · obtain ⟨cause, refused, same⟩ := mapError_error_iff.mp fails
    cases same
    exact ⟨_, .matching (requiredChild_ok hasMatch), .pattern rfl (required_ok given) refused⟩
  · obtain ⟨_, rfl⟩ := setMatch_ok (mapError_ok_iff.mp drafts)
    have finishes : ∀ d : RuleDraft, d.options = options →
        (action tables acting stop >>= fun taken =>
          ((d.addAction taken).build isGlobal).mapError fun cause => (e, .build cause)) =
            .error (x, fault) →
        ∃ kind, Part e kind x ∧ Offends tables options kind x fault := by
      intro d set fails
      rcases bind_error_iff.mp fails with fails | ⟨taken, _, fails⟩
      · exact (Part.action (requiredChild_ok hasAction)).offends (action_offends fails)
      · obtain ⟨cause, refused, same⟩ := mapError_error_iff.mp fails
        cases same
        exact ⟨_, .rule, .draft (by exact set) refused⟩
    cases guards : e.child? "conditions" with
    | none =>
      simp only [guards] at fails
      exact finishes _ rfl fails
    | some list =>
      simp only [guards] at fails
      rcases bind_error_iff.mp fails with fails | ⟨guarded, adds, fails⟩
      · exact addConditions_offends rfl guards fails
      · obtain ⟨_, rfl⟩ := addConditions_ok adds
        exact finishes _ rfl fails

end Reroute.RewriteSection
