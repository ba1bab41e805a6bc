import Mathlib.Logic.Basic
import Reroute.Proofs.Decision
import Reroute.Proofs.OrChains
import Reroute.RuleDraft

/-!
# Groups of conditions that are all needed

A draft is checked against the most groups that one of its conditions can capture. When the
last groups are kept, the actions see those of the condition that captured last, which may be
fewer. So the check is an upper bound and no promise: `needed_conditions_can_reject` is a rule that
is accepted and then lacks a group.

What does hold is that nothing depends on the request. If all conditions are needed, all of them
succeed before an action is taken, so the last one that captures is the same each time: an
accepted rule is applied to every request that passes its match and its conditions, or to none.

Results:
1. `length_groups`: how many groups a matcher leaves.
2. `guarded_leaves`: the groups that conditions leave which are all needed.
3. `build_ok_iff`, `build_checked`: what a finished draft has been checked for.
4. `needed_applied_iff`: which finished rules are applied.
5. `needed_conditions_can_reject`: a finished rule that lacks a group.
-/

namespace Reroute

/-! ## 1. Groups of a matcher -/

namespace Matcher

/-- The number of groups in a success of the matcher, those in gaps of the numbers too. -/
def groupCount (m : Matcher) : Nat :=
  match m.test with
  | .regex r _ => if m.negate then 0 else r.groups
  | _ => 0

theorem captureCount_le (m : Matcher) : m.captureCount ≤ m.groupCount := by
  unfold captureCount groupCount
  cases m.test with
  | regex r budget =>
    dsimp only
    split
    · exact Nat.le_refl 0
    · exact r.captures_le
  | exact | isFile | isDirectory | compare => exact Nat.le_refl 0

theorem length_fileResult (m : Matcher) (answer : Except FileError Bool) :
    (m.fileResult answer).groups.length = 0 := by
  cases answer <;> rfl

theorem length_searchResult {m : Matcher} {r : Regex} {budget : Nat} {candidate : String}
    (success : (m.searchResult r budget candidate).success = true) :
    (m.searchResult r budget candidate).groups.length = if m.negate then 0 else r.groups := by
  unfold searchResult at success ⊢
  by_cases used : budget = 0
  · rw [if_pos used] at success
    cases success
  · rw [if_neg used] at success ⊢
    cases found : r.search candidate with
    | none =>
      rw [found] at success
      rw [show m.negate = true from success]
      rfl
    | some groups =>
      cases negated : m.negate with
      | true =>
        rw [found, negated] at success
        cases success
      | false => exact Regex.length_search found

/-- A success has all groups of the pattern; without a pattern there are none. -/
theorem length_groups {m : Matcher} {candidate : String} {files : Files}
    (success : (m.run candidate files).success = true) :
    (m.run candidate files).groups.length = m.groupCount := by
  obtain ⟨test, negate⟩ := m
  cases test with
  | regex r budget => exact length_searchResult success
  | exact | compare => rfl
  | isFile | isDirectory => exact length_fileResult _ _

end Matcher

/-- A condition that succeeds has all groups of its matcher. -/
theorem Condition.length_groups {c : Condition} {request : Request} {captures : Captures}
    {isGlobal : Bool} {result : MatchResult}
    (runs : c.run request captures isGlobal = .ok result) (succeeds : result.success = true) :
    result.groups.length = c.matcher.groupCount := by
  unfold Condition.run at runs
  cases expanded : Template.expand ⟨request, captures, isGlobal, false⟩ c.input with
  | error e => simp [expanded, Except.map] at runs
  | ok candidate =>
    simp only [expanded, Except.map, Except.ok.injEq] at runs
    subst runs
    exact Matcher.length_groups succeeds

theorem Captures.length_recordRule (c : Captures) (groups : List String) :
    (c.recordRule groups).rule.toList.length = groups.length := by
  unfold recordRule
  cases groups with
  | nil => rfl
  | cons group more => simp

/-! ## 2. Groups of conditions -/

namespace Conditions

/-- The last of some conditions that captures anything. -/
def lastCapturing (items : List Condition) : Option Condition :=
  (items.filter fun c => c.matcher.groupCount ≠ 0).getLast?

/-- The number of groups that conditions leave which are all needed, when there were `before`. -/
def leftBy (before : Nat) (items : List Condition) : Nat :=
  match lastCapturing items with
  | none => before
  | some c => c.matcher.groupCount

theorem leftBy_cons (before : Nat) (c : Condition) (rest : List Condition) :
    leftBy before (c :: rest) =
      leftBy (if c.matcher.groupCount = 0 then before else c.matcher.groupCount) rest := by
  unfold leftBy lastCapturing
  by_cases none : c.matcher.groupCount = 0
  · rw [List.filter_cons_of_neg (by simp [none]), if_pos none]
  · rw [List.filter_cons_of_pos (by simp [none]), List.getLast?_cons, if_neg none]
    cases (rest.filter fun c => c.matcher.groupCount ≠ 0).getLast? <;> rfl

theorem length_replacing (c : Captures) (groups : List String) :
    (c.replacing groups).conditions.toList.length =
      if groups.length = 0 then c.conditions.toList.length else groups.length := by
  unfold Captures.replacing
  cases groups with
  | nil => rfl
  | cons group more => simp [GroupSets.toList]

theorem rule_replacing (c : Captures) (groups : List String) :
    (c.replacing groups).rule = c.rule := by
  unfold Captures.replacing
  split <;> rfl

/-- Conditions that are all needed succeed one by one, and each that captures replaces the groups
of the ones before. -/
theorem runItems_leaves {request : Request} {isGlobal : Bool} {items : List Condition}
    (needed : ∀ c ∈ items, c.orNext = false) {before after : Captures}
    (holds : runItems request isGlobal false items ⟨true, false, false⟩ before =
      (.ok true, after)) :
    after.conditions.toList.length = leftBy before.conditions.toList.length items ∧
      after.rule = before.rule := by
  -- Nothing is ever open or decided between two conditions, as each one closes its own chain.
  induction items generalizing before with
  | nil =>
    simp only [runItems, Prod.mk.injEq] at holds
    obtain ⟨_, rfl⟩ := holds
    exact ⟨rfl, rfl⟩
  | cons c rest ih =>
    obtain ⟨closed, needed⟩ := List.forall_mem_cons.mp needed
    rw [runItems_test, closed] at holds
    cases runs : c.run request before isGlobal with
    | error e => simp [runs] at holds
    | ok result =>
      cases succeeds : result.success with
      | false => simp [runs, succeeds] at holds
      | true =>
        simp only [runs, succeeds, ↓reduceIte] at holds
        obtain ⟨left, kept⟩ := ih needed holds
        have captured : result.groups.length = c.matcher.groupCount :=
          Condition.length_groups runs succeeds
        rw [left, leftBy_cons, length_replacing, captured, kept, rule_replacing]
        exact ⟨rfl, rfl⟩

end Conditions

namespace Rule

/-- The conditions of a rule. -/
def items (rule : Rule) : List Condition := (rule.conditions.map (·.items)).getD []

/-- All conditions are needed, and the groups of the last one are kept. -/
def NeedsAll (rule : Rule) : Prop :=
  ∀ conditions, rule.conditions = some conditions →
    conditions.trackAll = false ∧ ∀ c ∈ conditions.items, c.orNext = false

/-- The number of groups that the conditions of a rule leave for its actions, if all of them are
needed: those of the last one that captures. -/
def leftGroups (rule : Rule) : Nat := Conditions.leftBy 0 rule.items

theorem guarded_leaves {rule : Rule} {request : Request} (needsAll : rule.NeedsAll)
    (matched : (rule.firstMatch request).success = true)
    (holds : (rule.guarded request).1 = .ok true) :
    (rule.guarded request).2.conditions.toList.length = rule.leftGroups ∧
      (rule.guarded request).2.rule.toList.length = rule.initialMatch.groupCount := by
  have captured : (({} : Captures).recordRule (rule.firstMatch request).groups).rule.toList.length =
      rule.initialMatch.groupCount := by
    rw [Captures.length_recordRule]
    exact Matcher.length_groups matched
  unfold guarded at holds ⊢
  unfold leftGroups items
  cases found : rule.conditions with
  | none => exact ⟨rfl, captured⟩
  | some conditions =>
    obtain ⟨lastOnly, needed⟩ := needsAll conditions found
    simp only [found, Conditions.run, lastOnly] at holds ⊢
    obtain ⟨left, kept⟩ := Conditions.runItems_leaves needed (Prod.ext holds rfl)
    rw [left, kept, captured]
    exact ⟨rfl, rfl⟩

end Rule

/-! ## 3. The check of a draft -/

theorem Conditions.foldl_max_le (counts : List Nat) (most bound : Nat) :
    counts.foldl max most ≤ bound ↔ most ≤ bound ∧ ∀ count ∈ counts, count ≤ bound := by
  induction counts generalizing most with
  | nil => simp
  | cons count rest ih =>
    rw [List.foldl_cons, ih, Nat.max_le, List.forall_mem_cons, and_assoc]

/-- Of the last groups alone there are as many as one condition captures. -/
theorem Conditions.captureCount_le_iff {conditions : Conditions}
    (lastOnly : conditions.trackAll = false) (bound : Nat) :
    conditions.captureCount ≤ bound ↔
      ∀ c ∈ conditions.items, c.matcher.captureCount ≤ bound := by
  rw [captureCount, lastOnly, if_neg Bool.false_ne_true, foldl_max_le, List.forall_mem_map]
  simp

namespace RuleDraft

/-- A group that the match or the conditions of a rule may capture, by the numbers that they
answer for. -/
def Offered (rule : Rule) : Reference → Prop
  | .rule n => n < rule.initialMatch.captureCount
  | .condition n => n < (rule.conditions.map Conditions.captureCount).getD 0

theorem checkReferences_ok_iff (rule : Rule) (references : List Reference) :
    checkReferences rule.initialMatch.captureCount
        ((rule.conditions.map Conditions.captureCount).getD 0) references = .ok () ↔
      ∀ reference ∈ references, Offered rule reference := by
  induction references with
  | nil => simp [checkReferences]
  | cons reference rest ih =>
    rw [checkReferences, List.forall_mem_cons, ← ih]
    cases reference with
    | rule n =>
      by_cases refused : rule.initialMatch.captureCount ≤ n
      · simp [available, Offered, refused]
      · simp [available, Offered, refused, Nat.lt_of_not_le refused]
    | condition n =>
      by_cases refused : (rule.conditions.map Conditions.captureCount).getD 0 ≤ n
      · simp [available, Offered, refused]
      · simp [available, Offered, refused, Nat.lt_of_not_le refused]

/-- The rule that a draft describes, with the match that it needs. -/
def described (d : RuleDraft) (initialMatch : Matcher) (isGlobal : Bool) : Rule :=
  { name := d.name, enabled := d.enabled, initialMatch, conditions := d.conditions
    actions := d.actions, isGlobal, last := d.last, skip := d.skip }

/-- A draft is finished if it has a match and an action, and all references are offered. -/
theorem build_ok_iff {d : RuleDraft} {isGlobal : Bool} {rule : Rule} :
    d.build isGlobal = .ok rule ↔
      ∃ initialMatch, d.initialMatch = some initialMatch ∧ d.actions ≠ [] ∧
        rule = d.described initialMatch isGlobal ∧
        ∀ reference ∈ allReferences d.conditions d.actions, Offered rule reference := by
  unfold build
  cases d.initialMatch with
  | none => simp
  | some initialMatch =>
    have checked := checkReferences_ok_iff (d.described initialMatch isGlobal)
      (allReferences d.conditions d.actions)
    by_cases noAction : d.actions = []
    · simp [noAction]
    · dsimp only
      rw [if_neg (by simpa using noAction)]
      constructor
      · intro built
        cases outcome : checkReferences initialMatch.captureCount
            ((d.conditions.map Conditions.captureCount).getD 0)
            (allReferences d.conditions d.actions) with
        | error e =>
          rw [outcome] at built
          cases built
        | ok _ =>
          rw [outcome] at built
          cases built
          exact ⟨_, rfl, noAction, rfl, checked.mp outcome⟩
      · rintro ⟨_, ⟨⟩, _, rfl, offered⟩
        exact congrArg (Except.map _) (checked.mpr offered)

/-- Every group that an action of a finished rule mentions is offered. -/
theorem build_checked {d : RuleDraft} {isGlobal : Bool} {rule : Rule}
    (built : d.build isGlobal = .ok rule) {a : Action} (member : a ∈ rule.actions)
    {reference : Reference} (mentioned : Template.Mentions reference a.url) :
    Offered rule reference := by
  obtain ⟨initialMatch, _, _, rfl, offered⟩ := build_ok_iff.mp built
  exact offered reference (List.mem_append_right _
    (List.mem_flatMap.mpr ⟨a, member, Template.mem_references.mpr mentioned⟩))

end RuleDraft

/-! ## 4. Rules that are applied -/

namespace Rule

/-- In a finished rule no group of the match is missing, and one of the conditions is missing
exactly from the number on that the last capturing condition leaves. -/
theorem missing_iff {d : RuleDraft} {isGlobal : Bool} {rule : Rule}
    (built : d.build isGlobal = .ok rule) (needsAll : rule.NeedsAll) {request : Request}
    (matched : (rule.firstMatch request).success = true)
    (holds : (rule.guarded request).1 = .ok true) {a : Action} (member : a ∈ rule.actions)
    {reference : Reference} (mentioned : Template.Mentions reference a.url) :
    reference.Missing (rule.guarded request).2 ↔
      ∃ n, reference = .condition n ∧ rule.leftGroups ≤ n := by
  obtain ⟨left, captured⟩ := guarded_leaves needsAll matched holds
  -- The check counts groups without the gaps in their numbers, so a match has as many or more.
  have offered := RuleDraft.build_checked built member mentioned
  cases reference with
  | rule n =>
    have below : n < rule.initialMatch.groupCount :=
      Nat.lt_of_lt_of_le offered rule.initialMatch.captureCount_le
    simp [Reference.Missing, captured, below]
  | condition n => simp [Reference.Missing, left]

theorem notMatched_iff_beyond {d : RuleDraft} {isGlobal : Bool} {rule : Rule}
    (built : d.build isGlobal = .ok rule) (needsAll : rule.NeedsAll) {request : Request}
    (matched : (rule.firstMatch request).success = true)
    (holds : (rule.guarded request).1 = .ok true) :
    (rule.apply request).1 = .notMatched ↔
      ∃ a ∈ rule.actions, ∃ n,
        Template.Mentions (.condition n) a.url ∧ rule.leftGroups ≤ n := by
  rw [notMatched_iff]
  constructor
  · intro rejects
    cases rejects with
    | unmatched failed => simp [matched] at failed
    | unmet _ fails | unexpanded _ fails => simp [holds] at fails
    | missing _ _ member mentioned absent =>
      obtain ⟨n, rfl, beyond⟩ :=
        (missing_iff built needsAll matched holds member mentioned).mp absent
      exact ⟨_, member, n, mentioned, beyond⟩
  · rintro ⟨a, member, n, mentioned, beyond⟩
    exact .missing matched holds member mentioned
      ((missing_iff built needsAll matched holds member mentioned).mpr ⟨n, rfl, beyond⟩)

/-- If the last capturing condition has the most groups, the check has been made with its own. -/
theorem offered_left {rule : Rule} (needsAll : rule.NeedsAll)
    (mostLast : ∀ c ∈ rule.items, c.matcher.captureCount ≤ rule.leftGroups) {n : Nat}
    (offered : RuleDraft.Offered rule (.condition n)) : n < rule.leftGroups := by
  unfold RuleDraft.Offered at offered
  cases found : rule.conditions with
  | none => simp [found] at offered
  | some conditions =>
    rw [items, found] at mostLast
    rw [found] at offered
    have bounded : conditions.captureCount ≤ rule.leftGroups :=
      (Conditions.captureCount_le_iff (needsAll conditions found).1 _).mpr mostLast
    exact Nat.lt_of_lt_of_le offered bounded

/-- Among accepted rules that need all of their conditions, those are applied whose actions only
mention groups that the last capturing condition has, in particular all those in which that
condition has the most. They are applied whenever match and conditions succeed; the other ones
never are. -/
theorem needed_applied_iff {d : RuleDraft} {isGlobal : Bool} {rule : Rule}
    (built : d.build isGlobal = .ok rule) (needsAll : rule.NeedsAll) {request : Request}
    (matched : (rule.firstMatch request).success = true)
    (holds : (rule.guarded request).1 = .ok true) :
    (∀ a ∈ rule.actions, ∀ reference, Template.Mentions reference a.url →
      (reference.Missing (rule.guarded request).2 ↔
        ∃ n, reference = .condition n ∧ rule.leftGroups ≤ n)) ∧
    ((rule.apply request).1 = .notMatched ↔
      ∃ a ∈ rule.actions, ∃ n,
        Template.Mentions (.condition n) a.url ∧ rule.leftGroups ≤ n) ∧
    ((∀ c ∈ rule.items, c.matcher.captureCount ≤ rule.leftGroups) →
      (rule.apply request).1 ≠ .notMatched) := by
  refine ⟨?_, notMatched_iff_beyond built needsAll matched holds, ?_⟩
  · intro a member reference mentioned
    exact missing_iff built needsAll matched holds member mentioned
  · intro mostLast notMatched
    obtain ⟨a, member, n, mentioned, beyond⟩ :=
      (notMatched_iff_beyond built needsAll matched holds).mp notMatched
    have below : n < rule.leftGroups :=
      offered_left needsAll mostLast (RuleDraft.build_checked built member mentioned)
    exact absurd below (Nat.not_lt.mpr beyond)

end Rule

/-! ## 5. Two conditions in either order -/

/-- The regular expression of a pattern that compiles. -/
def exRegex (pattern : String) : Regex :=
  match Regex.compile pattern false with
  | .ok r => r
  | .error _ => .ofExpr .empty (Nat.zero_le _)

/-- A condition with three groups. -/
def exHost : Condition :=
  { input := [.server (.header "host")]
    matcher := ⟨.regex (exRegex "^(www)\\.([a-z]+)") 100, false⟩ }

/-- A condition with one group. -/
def exPath : Condition :=
  { input := [.server .requestUri]
    matcher := ⟨.regex (exRegex "^/a") 100, false⟩ }

/-- A draft whose action mentions the third group of its conditions. -/
def exDraft (conditions : List Condition) : RuleDraft :=
  { initialMatch := some ⟨.regex (exRegex "^/a$") 100, false⟩
    conditions := some { items := conditions }
    actions := [{ kind := .forbidden, url := [.literal "/", .conditionGroup 2] }] }

/-- The rule of the draft. -/
def exFinished (conditions : List Condition) : Rule :=
  (exDraft conditions).described ⟨.regex (exRegex "^/a$") 100, false⟩ false

/-- A request that satisfies both conditions. -/
def exRequest : Request := { Request.ofUrl "/a" with givenHost := some "www.example.com" }

theorem exDraft_built {conditions : List Condition}
    (plain : (conditions.flatMap fun c => Template.references c.input) = [])
    (offered : 2 < Conditions.captureCount { items := conditions }) :
    (exDraft conditions).build false = .ok (exFinished conditions) := by
  refine RuleDraft.build_ok_iff.mpr ⟨_, rfl, List.cons_ne_nil _ _, rfl, ?_⟩
  intro reference member
  rw [RuleDraft.allReferences, exDraft, Option.map_some, Option.getD_some, plain] at member
  rw [List.mem_singleton.mp member]
  exact offered

theorem exFinished_needsAll {conditions : List Condition}
    (needed : ∀ c ∈ conditions, c.orNext = false) : (exFinished conditions).NeedsAll := by
  intro _ found
  cases found
  exact ⟨rfl, needed⟩

/-- The path leaves one group where the host has left three, so the group that the draft was
accepted for is gone. -/
theorem needed_conditions_can_reject :
    (exDraft [exHost, exPath]).build false = .ok (exFinished [exHost, exPath]) ∧
    (exFinished [exHost, exPath]).NeedsAll ∧
    ((exFinished [exHost, exPath]).firstMatch exRequest).success = true ∧
    ((exFinished [exHost, exPath]).guarded exRequest).1 = .ok true ∧
    ((exFinished [exHost, exPath]).apply exRequest).1 = .notMatched := by
  refine ⟨exDraft_built rfl ?_, exFinished_needsAll (by simp [exHost, exPath]), ?_, ?_, ?_⟩ <;>
    decide +kernel

/-- The other way around the host is the last to capture, and the rule is applied. -/
theorem needed_applied_host_last :
    (exDraft [exPath, exHost]).build false = .ok (exFinished [exPath, exHost]) ∧
    (exFinished [exPath, exHost]).NeedsAll ∧
    ((exFinished [exPath, exHost]).firstMatch exRequest).success = true ∧
    ((exFinished [exPath, exHost]).guarded exRequest).1 = .ok true ∧
    ((exFinished [exPath, exHost]).apply exRequest).1 ≠ .notMatched := by
  have built : (exDraft [exPath, exHost]).build false = .ok (exFinished [exPath, exHost]) :=
    exDraft_built rfl (by decide +kernel)
  have needsAll : (exFinished [exPath, exHost]).NeedsAll :=
    exFinished_needsAll (by simp [exHost, exPath])
  have matched : ((exFinished [exPath, exHost]).firstMatch exRequest).success = true := by
    decide +kernel
  have holds : ((exFinished [exPath, exHost]).guarded exRequest).1 = .ok true := by
    decide +kernel
  exact ⟨built, needsAll, matched, holds,
    (Rule.needed_applied_iff built needsAll matched holds).2.2 (by decide +kernel)⟩

end Reroute
