import Reroute.Proofs.CaptureBounds
import Reroute.Proofs.Loading

/-!
# Groups of the match

A rule may refer to the groups of its match and to those of its conditions. The first are safe. A
finished rule mentions only numbers below those that its pattern answers for, a match has at least
as many groups, also where some of them took no part, and nothing that follows the match touches
them. Patterns that are negated and tests that are no patterns answer for none. So a finished rule
can only ever lack a group of a condition.

Results:
1. `expand_error`: a template fails for a group that it mentions.
2. `built_offered`: every group that a finished rule mentions anywhere is offered.
3. `rule_group_resolves`, `lacks_condition`: what is there, and what may be lacking.
4. `match_groups_resolve`: all templates and all errors of a rule.
-/

namespace Reroute

/-! ## 1. Templates that fail -/

namespace Template

theorem resolveAll_error {c : Captures} {references : List Reference} {e : OutOfRange}
    (fails : resolveAll c references = .error e) :
    ∃ reference ∈ references, reference.resolve c = .error e := by
  induction references with
  | nil => cases fails
  | cons reference rest ih =>
    rw [resolveAll] at fails
    cases resolved : reference.resolve c with
    | ok group =>
      rw [resolved] at fails
      obtain ⟨other, member, lacks⟩ := ih fails
      exact ⟨other, List.mem_cons_of_mem _ member, lacks⟩
    | error first =>
      rw [resolved] at fails
      cases fails
      exact ⟨reference, List.mem_cons_self, resolved⟩

theorem check_error {t : Template} {c : Captures} {e : OutOfRange} (fails : check t c = .error e) :
    ∃ reference, Mentions reference t ∧ reference.resolve c = .error e := by
  obtain ⟨reference, member, lacks⟩ := resolveAll_error fails
  exact ⟨reference, mem_references.mp member, lacks⟩

theorem expand_error {s : Scene} {t : Template} {e : OutOfRange} (fails : expand s t = .error e) :
    ∃ reference, Mentions reference t ∧ reference.resolve s.captures = .error e := by
  refine check_error ?_
  rw [← expand_outline, fails]
  rfl

end Template

theorem Condition.run_error {c : Condition} {request : Request} {captures : Captures}
    {isGlobal : Bool} {e : OutOfRange} (fails : c.run request captures isGlobal = .error e) :
    Template.expand ⟨request, captures, isGlobal, false⟩ c.input = .error e := by
  unfold Condition.run at fails
  cases expanded : Template.expand ⟨request, captures, isGlobal, false⟩ c.input with
  | error other => simpa [expanded, Except.map] using fails
  | ok candidate => simp [expanded, Except.map] at fails

theorem Action.apply_error {a : Action} {request : Request} {captures : Captures}
    {isGlobal : Bool} {e : OutOfRange} (fails : a.apply request captures isGlobal = .error e) :
    a.expandUrl request captures isGlobal = .error e := by
  unfold Action.apply at fails
  cases kind : a.kind with
  | rewrite | redirect status =>
    simp only [kind] at fails
    cases expanded : a.expandUrl request captures isGlobal with
    | error other => simpa [expanded, Except.map] using fails
    | ok url => simp [expanded, Except.map] at fails
  | keep | forbidden | gone | respond | abort => simp [kind] at fails

namespace Rule

/-! ## 2. What a finished rule mentions -/

/-- The inputs of the conditions and the urls of the actions. -/
def templates (rule : Rule) : List Template :=
  rule.items.map (·.input) ++ rule.actions.map (·.url)

theorem built_offered {rule : Rule} (built : rule.Built) {t : Template}
    (member : t ∈ rule.templates) {reference : Reference}
    (mentioned : Template.Mentions reference t) : RuleDraft.Offered rule reference := by
  obtain ⟨d, isGlobal, finished⟩ := built
  obtain ⟨initialMatch, _, _, rfl, offered⟩ := RuleDraft.build_ok_iff.mp finished
  refine offered reference ?_
  have listed := Template.mem_references.mpr mentioned
  rcases List.mem_append.mp member with input | url
  · obtain ⟨c, guards, rfl⟩ := List.mem_map.mp input
    exact List.mem_append_left _ (List.mem_flatMap.mpr ⟨c, guards, listed⟩)
  · obtain ⟨a, taken, rfl⟩ := List.mem_map.mp url
    exact List.mem_append_right _ (List.mem_flatMap.mpr ⟨a, taken, listed⟩)

/-! ## 3. What is there -/

theorem rule_group_resolves {rule : Rule} (built : rule.Built) {request : Request}
    (matched : (rule.firstMatch request).success = true) {now : Captures}
    (carries : rule.Carries request now) {t : Template} (member : t ∈ rule.templates) {n : Nat}
    (mentioned : Template.Mentions (.rule n) t) :
    ∃ text, (Reference.rule n).resolve now = .ok text := by
  rw [Reference.resolve_ok_iff]
  refine Nat.not_le.mpr ?_
  rw [carries.length_rule matched]
  exact Nat.lt_of_lt_of_le (built_offered built member mentioned)
    rule.initialMatch.captureCount_le

/-- What a template of a finished rule lacks is a group of a condition. -/
theorem lacks_condition {rule : Rule} (built : rule.Built) {request : Request}
    (matched : (rule.firstMatch request).success = true) {now : Captures}
    (carries : rule.Carries request now) {t : Template} (member : t ∈ rule.templates)
    {e : OutOfRange} (lacks : ∃ reference, Template.Mentions reference t ∧
      reference.resolve now = .error e) :
    ∃ n, Template.Mentions (.condition n) t ∧ (Reference.condition n).resolve now = .error e := by
  obtain ⟨reference, mentioned, fails⟩ := lacks
  cases reference with
  | condition n => exact ⟨n, mentioned, fails⟩
  | rule n =>
    obtain ⟨text, resolves⟩ := rule_group_resolves built matched carries member mentioned
    rw [resolves] at fails
    cases fails

/-- The conditions of a rule fail at one of them that lacks a group. -/
theorem guarded_error {rule : Rule} {request : Request} {e : OutOfRange}
    (fails : (rule.guarded request).1 = .error e) :
    ∃ c ∈ rule.items, ∃ reference, Template.Mentions reference c.input ∧
      reference.resolve (rule.guarded request).2 = .error e := by
  unfold guarded at fails ⊢
  unfold items
  cases found : rule.conditions with
  | none => simp [found] at fails
  | some conditions =>
    simp only [found] at fails ⊢
    obtain ⟨c, member, lacks⟩ := Conditions.runItems_error fails
    exact ⟨c, member, Template.expand_error (Condition.run_error lacks)⟩

theorem checkActions_error {captures : Captures} {actions : List Action} {e : OutOfRange}
    (fails : checkActions captures actions = .error e) :
    ∃ a ∈ actions, Template.check a.url captures = .error e := by
  induction actions with
  | nil => cases fails
  | cons a rest ih =>
    rw [checkActions] at fails
    cases check : Template.check a.url captures with
    | error other =>
      rw [check] at fails
      exact ⟨a, List.mem_cons_self, check.trans fails⟩
    | ok _ =>
      rw [check] at fails
      obtain ⟨b, member, lacks⟩ := ih fails
      exact ⟨b, List.mem_cons_of_mem _ member, lacks⟩

/-! ## 4. The rule as a whole -/

/-- Once the match of a rule has succeeded, every group of it that a template mentions is there, at
any depth of the template and at any point of the conditions. The conditions, the check before the
actions and the actions themselves can only fail for a group of a condition that they mention. -/
theorem match_groups_resolve {rule : Rule} (loaded : rule.Loaded) {request : Request}
    (matched : (rule.firstMatch request).success = true) :
    (∀ now, rule.Carries request now → ∀ t ∈ rule.templates, ∀ n,
      Template.Mentions (.rule n) t → ∃ text, (Reference.rule n).resolve now = .ok text) ∧
    (∀ e, (rule.guarded request).1 = .error e →
      ∃ c ∈ rule.items, ∃ n, Template.Mentions (.condition n) c.input ∧
        (Reference.condition n).resolve (rule.guarded request).2 = .error e) ∧
    (∀ e, checkActions (rule.guarded request).2 rule.actions = .error e →
      ∃ a ∈ rule.actions, ∃ n, Template.Mentions (.condition n) a.url ∧
        (Reference.condition n).resolve (rule.guarded request).2 = .error e) ∧
    (∀ a ∈ rule.actions, ∀ now e,
      a.apply now (rule.guarded request).2 rule.isGlobal = .error e →
      ∃ n, Template.Mentions (.condition n) a.url ∧
        (Reference.condition n).resolve (rule.guarded request).2 = .error e) := by
  have built := loaded.built
  have carries := rule.carries_guarded request
  have input : ∀ c ∈ rule.items, c.input ∈ rule.templates := fun c member =>
    List.mem_append_left _ (List.mem_map_of_mem member)
  have url : ∀ a ∈ rule.actions, a.url ∈ rule.templates := fun a member =>
    List.mem_append_right _ (List.mem_map_of_mem member)
  refine ⟨?_, ?_, ?_, ?_⟩
  · intro now carriesNow t member n mentioned
    exact rule_group_resolves built matched carriesNow member mentioned
  · intro e fails
    obtain ⟨c, member, lacks⟩ := guarded_error fails
    exact ⟨c, member, lacks_condition built matched carries (input c member) lacks⟩
  · intro e fails
    obtain ⟨a, member, lacks⟩ := checkActions_error fails
    exact ⟨a, member,
      lacks_condition built matched carries (url a member) (Template.check_error lacks)⟩
  · intro a member now e fails
    exact lacks_condition built matched carries (url a member)
      (Template.expand_error (Action.apply_error fails))

/-- A draft whose pattern has a group that may take no part. Its condition and its action mention
the groups of the match. -/
def exOptional : RuleDraft :=
  { initialMatch := some ⟨.regex (exRegex "^/(a)(x)?$") 100, false⟩
    conditions := some { items := [{ input := [.ruleGroup 1], matcher := .exact "a" false false }] }
    actions := [{ kind := .rewrite, url := [.literal "/", .function .toLower [.ruleGroup 2]] }] }

/-- The rule of the draft. -/
def exOptionalRule : Rule := exOptional.described ⟨.regex (exRegex "^/(a)(x)?$") 100, false⟩ false

theorem match_groups_resolve_optional :
    exOptionalRule.Loaded ∧ (exOptionalRule.firstMatch (.ofUrl "/a")).success = true ∧
      (exOptionalRule.guarded (.ofUrl "/a")).1 = .ok true ∧
      ∃ text, (Reference.rule 2).resolve (exOptionalRule.guarded (.ofUrl "/a")).2 = .ok text := by
  have count : exOptionalRule.initialMatch.captureCount = 3 := by decide +kernel
  have finished : exOptional.build false = .ok exOptionalRule := by
    refine RuleDraft.build_ok_iff.mpr ⟨_, rfl, List.cons_ne_nil _ _, rfl, ?_⟩
    intro reference member
    have either : reference = .rule 1 ∨ reference = .rule 2 := by
      simpa [RuleDraft.allReferences, exOptional, Template.references,
        Template.segmentReferences] using member
    rcases either with rfl | rfl
    · show 1 < exOptionalRule.initialMatch.captureCount
      omega
    · show 2 < exOptionalRule.initialMatch.captureCount
      omega
  have matched : (exOptionalRule.firstMatch (.ofUrl "/a")).success = true := by decide +kernel
  have mentioned : Template.Mentions (.rule 2) [.literal "/", .function .toLower [.ruleGroup 2]] :=
    .function (List.mem_cons_of_mem _ List.mem_cons_self) (.ruleGroup List.mem_cons_self rfl)
  exact ⟨.draft finished, matched, by decide +kernel,
    (match_groups_resolve (.draft finished) matched).1 _ (exOptionalRule.carries_guarded _) _
      (List.mem_append_right _ List.mem_cons_self) 2 mentioned⟩

end Rule

end Reroute
