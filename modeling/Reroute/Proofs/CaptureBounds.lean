import Mathlib.Logic.Basic
import Reroute.Proofs.ConditionGroups

/-!
# How many groups a rule can capture

A draft is checked before there is a request. The groups of its conditions are counted from their
matchers: all together if all groups are kept, else those of the condition that has the most. At
request time conditions fail, are skipped, or put their groups in the place of earlier ones, so
this is a bound for every evaluation, at its end and at any point before.

It is a bound in terms of the groups of a match. A pattern answers for its groups without the gaps
in their numbers, so it answers for too few where a group was dropped before another one:
`refused_group_captured` is a rule that is refused for a group which its condition captures. For
patterns without gaps the bound is right, and then a refused group is never there.

Results:
1. `runItems_cons`: one step of an evaluation; `Passes`: the captures that it comes to have.
2. `Passes.length_le`: the bound.
3. `runItems_tracked`: with all groups kept and all conditions needed it is the exact number.
4. `build_refuses`, `Carries.missing`: what is refused, and that it is not there.
5. `captureCount_bounds`: what the count of a draft promises.
-/

namespace Reroute

/-! ## 1. Points of an evaluation -/

namespace Conditions

variable (request : Request) (isGlobal trackAll : Bool)

/-- The captures behind a condition that has been tested. -/
def capturesBehind (captures : Captures) (result : MatchResult) : Captures :=
  if result.success then captures.recordCondition result.groups trackAll else captures

/-- Whether an evaluation ends behind a tested condition: the condition was needed and failed,
and no groups are left to be collected. -/
def stops (p : Progress) (c : Condition) (ok : Bool) : Bool :=
  !p.decided && !c.orNext && !ok && !trackAll

/-- `Passes request isGlobal trackAll items p before now`: an evaluation that stands before
`items` with the captures `before` has the captures `now` there or at a later point. -/
inductive Passes : List Condition → Progress → Captures → Captures → Prop
  | here {items : List Condition} {p : Progress} {captures : Captures} :
      Passes items p captures captures
  | skipped {c : Condition} {rest : List Condition} {p : Progress} {before now : Captures} :
      (p.decided && !trackAll) = true → Passes rest (p.pass c.orNext) before now →
      Passes (c :: rest) p before now
  | tested {c : Condition} {rest : List Condition} {p : Progress} {before now : Captures}
      {result : MatchResult} :
      (p.decided && !trackAll) = false → c.run request before isGlobal = .ok result →
      stops trackAll p c result.success = false →
      Passes rest (flagsBehind p (c, result.success)) (capturesBehind trackAll before result) now →
      Passes (c :: rest) p before now

variable {request : Request} {isGlobal trackAll : Bool}

/-- One step of an evaluation: the next condition is skipped, or it is tested and then lacks a
group, ends the evaluation or leaves the rest to be done. -/
theorem runItems_cons (c : Condition) (rest : List Condition) (p : Progress)
    (captures : Captures) :
    runItems request isGlobal trackAll (c :: rest) p captures =
      if p.decided && !trackAll then
        runItems request isGlobal trackAll rest (p.pass c.orNext) captures
      else
        match c.run request captures isGlobal with
        | .error e => (.error e, captures)
        | .ok result =>
          if stops trackAll p c result.success then (.ok false, captures)
          else
            runItems request isGlobal trackAll rest (flagsBehind p (c, result.success))
              (capturesBehind trackAll captures result) := by
  rw [runItems]
  cases skips : p.decided && !trackAll with
  | true => rfl
  | false =>
    simp only [Bool.false_eq_true, ↓reduceIte]
    cases c.run request captures isGlobal with
    | error e => rfl
    | ok result =>
      dsimp only
      unfold stops flagsBehind capturesBehind
      cases p.decided <;> cases c.orNext <;> cases result.success <;> cases trackAll <;> rfl

theorem passes_final (items : List Condition) (p : Progress) (captures : Captures) :
    Passes request isGlobal trackAll items p captures
      (runItems request isGlobal trackAll items p captures).2 := by
  induction items generalizing p captures with
  | nil => exact .here
  | cons c rest ih =>
    rw [runItems_cons]
    cases skips : p.decided && !trackAll with
    | true => exact .skipped skips (ih _ _)
    | false =>
      cases runs : c.run request captures isGlobal with
      | error e => exact .here
      | ok result =>
        dsimp only
        cases ends : stops trackAll p c result.success with
        | true => exact .here
        | false => exact .tested skips runs ends (ih _ _)

/-- An evaluation fails at a condition that lacks a group, and leaves the captures which that
condition was expanded with. -/
theorem runItems_error {items : List Condition} {p : Progress} {captures : Captures}
    {e : OutOfRange} (fails : (runItems request isGlobal trackAll items p captures).1 = .error e) :
    ∃ c ∈ items,
      c.run request (runItems request isGlobal trackAll items p captures).2 isGlobal =
        .error e := by
  induction items generalizing p captures with
  | nil => cases fails
  | cons c rest ih =>
    rw [runItems_cons] at fails ⊢
    cases skips : p.decided && !trackAll with
    | true =>
      rw [skips] at fails
      obtain ⟨d, member, lacks⟩ := ih fails
      exact ⟨d, List.mem_cons_of_mem _ member, lacks⟩
    | false =>
      simp only [skips, Bool.false_eq_true, ↓reduceIte] at fails ⊢
      cases runs : c.run request captures isGlobal with
      | error other =>
        simp only [runs, Except.error.injEq] at fails ⊢
        exact ⟨c, List.mem_cons_self, fails ▸ runs⟩
      | ok result =>
        simp only [runs] at fails ⊢
        cases ends : stops trackAll p c result.success with
        | true => simp [ends] at fails
        | false =>
          simp only [ends, Bool.false_eq_true, ↓reduceIte] at fails ⊢
          obtain ⟨d, member, lacks⟩ := ih fails
          exact ⟨d, List.mem_cons_of_mem _ member, lacks⟩

theorem rule_capturesBehind (captures : Captures) (result : MatchResult) :
    (capturesBehind trackAll captures result).rule = captures.rule := by
  unfold capturesBehind Captures.recordCondition
  split
  · split <;> rfl
  · rfl

/-- The groups of the match stay as they are through the whole evaluation. -/
theorem Passes.rule_eq {items : List Condition} {p : Progress} {before now : Captures}
    (passes : Passes request isGlobal trackAll items p before now) : now.rule = before.rule := by
  induction passes with
  | here => rfl
  | skipped _ _ ih => exact ih
  | tested _ _ _ _ ih => exact ih.trans (rule_capturesBehind _ _)

/-! ## 2. The bound -/

/-- The number of groups behind a condition with `count` of them. -/
def joinCounts (trackAll : Bool) (before count : Nat) : Nat :=
  if trackAll then before + count else max before count

/-- The most groups that conditions with these counts can leave. -/
def mostGroups (trackAll : Bool) (before : Nat) (counts : List Nat) : Nat :=
  counts.foldl (joinCounts trackAll) before

theorem captureCount_eq (cs : Conditions) :
    cs.captureCount = mostGroups cs.trackAll 0 (cs.items.map fun c => c.matcher.captureCount) := by
  unfold captureCount mostGroups joinCounts
  cases cs.trackAll <;> rfl

theorem joinCounts_mono {before more count larger : Nat} (h : before ≤ more)
    (counts : count ≤ larger) :
    joinCounts trackAll before count ≤ joinCounts trackAll more larger := by
  unfold joinCounts
  split <;> omega

theorem le_joinCounts (before count : Nat) : before ≤ joinCounts trackAll before count := by
  unfold joinCounts
  split <;> omega

theorem mostGroups_mono {items : List Condition} {count larger : Condition → Nat}
    (counts : ∀ c ∈ items, count c ≤ larger c) {before more : Nat} (h : before ≤ more) :
    mostGroups trackAll before (items.map count) ≤
      mostGroups trackAll more (items.map larger) := by
  induction items generalizing before more with
  | nil => exact h
  | cons c rest ih =>
    obtain ⟨first, others⟩ := List.forall_mem_cons.mp counts
    exact ih others (joinCounts_mono h first)

theorem le_mostGroups (before : Nat) (counts : List Nat) :
    before ≤ mostGroups trackAll before counts := by
  induction counts generalizing before with
  | nil => exact Nat.le_refl before
  | cons count rest ih => exact Nat.le_trans (le_joinCounts before count) (ih _)

theorem length_recordCondition (c : Captures) (groups : List String) (append : Bool) :
    (c.recordCondition groups append).conditions.toList.length =
      if groups = [] then c.conditions.toList.length
      else (if append then c.conditions.toList.length else 0) + groups.length := by
  unfold Captures.recordCondition
  cases groups with
  | nil => rfl
  | cons group more => cases append <;> simp

/-- A tested condition leaves no more groups than its count allows. -/
theorem length_capturesBehind_le {c : Condition} {captures : Captures} {result : MatchResult}
    (runs : c.run request captures isGlobal = .ok result) :
    (capturesBehind trackAll captures result).conditions.toList.length ≤
      joinCounts trackAll captures.conditions.toList.length c.matcher.groupCount := by
  unfold capturesBehind
  cases succeeds : result.success with
  | false => exact le_joinCounts _ _
  | true =>
    have captured : result.groups.length = c.matcher.groupCount :=
      Condition.length_groups runs succeeds
    rw [if_pos rfl, length_recordCondition]
    split
    · exact le_joinCounts _ _
    · unfold joinCounts
      cases trackAll with
      | true => simp [captured]
      | false =>
        simp only [Bool.false_eq_true, ↓reduceIte, Nat.zero_add, captured]
        exact Nat.le_max_right _ _

/-- At no point of an evaluation there are more groups than the counts of all its conditions
allow, whichever of them succeed, fail or are skipped. -/
theorem Passes.length_le {items : List Condition} {p : Progress} {before now : Captures}
    (passes : Passes request isGlobal trackAll items p before now) :
    now.conditions.toList.length ≤
      mostGroups trackAll before.conditions.toList.length
        (items.map fun c => c.matcher.groupCount) := by
  induction passes with
  | here => exact le_mostGroups _ _
  | skipped _ _ ih =>
    exact Nat.le_trans ih (mostGroups_mono (fun _ _ => Nat.le_refl _) (le_joinCounts _ _))
  | tested _ runs _ _ ih =>
    exact Nat.le_trans ih
      (mostGroups_mono (fun _ _ => Nat.le_refl _) (length_capturesBehind_le runs))

/-! ## 3. All groups of all conditions -/

/-- If all groups are kept and all conditions are needed, each of them has succeeded when the
evaluation holds, and has left all of its groups. -/
theorem runItems_tracked {items : List Condition} (needed : ∀ c ∈ items, c.orNext = false)
    {p : Progress} (closed : p.isOpen = false) {before after : Captures}
    (holds : runItems request isGlobal true items p before = (.ok true, after)) :
    p.outcome = true ∧
      after.conditions.toList.length =
        mostGroups true before.conditions.toList.length
          (items.map fun c => c.matcher.groupCount) := by
  -- A failure turns the outcome to false for good, so none can lie behind an outcome that holds.
  induction items generalizing p before with
  | nil =>
    simp only [runItems, Progress.verdict, closed, Prod.mk.injEq, Except.ok.injEq] at holds
    obtain ⟨outcome, rfl⟩ := holds
    exact ⟨by simpa using outcome, rfl⟩
  | cons c rest ih =>
    obtain ⟨apart, needed⟩ := List.forall_mem_cons.mp needed
    rw [runItems_cons] at holds
    cases runs : c.run request before isGlobal with
    | error e => simp [runs] at holds
    | ok result =>
      have goesOn : stops true p c result.success = false := by simp [stops]
      simp only [runs, goesOn, Bool.not_true, Bool.and_false, Bool.false_eq_true,
        ↓reduceIte] at holds
      have closedBehind : (flagsBehind p (c, result.success)).isOpen = false := by
        unfold flagsBehind
        split <;> exact apart
      obtain ⟨outcome, left⟩ := ih needed closedBehind holds
      have both : p.outcome = true ∧ result.success = true := by
        simpa [flagsBehind, Progress.decided, Progress.pass, Progress.count, closed, apart,
          apply_ite Progress.outcome] using outcome
      obtain ⟨soFar, succeeds⟩ := both
      have captured : result.groups.length = c.matcher.groupCount :=
        Condition.length_groups runs succeeds
      refine ⟨soFar, left.trans ?_⟩
      rw [capturesBehind, if_pos succeeds, length_recordCondition]
      simp only [List.map_cons, mostGroups, List.foldl_cons, joinCounts, ↓reduceIte]
      congr 1
      split
      · next none => simp [← captured, none]
      · rw [captured]

end Conditions

/-! ## 4. Rules and drafts -/

/-- The pattern has no gaps: it answers for all groups of its matches. -/
def Matcher.Gapless (m : Matcher) : Prop := m.captureCount = m.groupCount

theorem Matcher.groups_of_failure {m : Matcher} {candidate : String} {files : Files}
    (fails : (m.run candidate files).success = false) : (m.run candidate files).groups = [] := by
  obtain ⟨test, negate⟩ := m
  cases test with
  | exact | compare => rfl
  | isFile | isDirectory => exact List.length_eq_zero_iff.mp (length_fileResult _ _)
  | regex r budget =>
    simp only [Matcher.run, searchResult] at fails ⊢
    by_cases used : budget = 0
    · rw [if_pos used]
    · rw [if_neg used] at fails ⊢
      cases found : r.search candidate with
      | none => rfl
      | some groups =>
        cases negate with
        | true => rfl
        | false => simp [found] at fails

namespace Conditions

/-- The most groups that conditions can leave, those in gaps among them. -/
def groupBound (cs : Conditions) : Nat :=
  mostGroups cs.trackAll 0 (cs.items.map fun c => c.matcher.groupCount)

theorem captureCount_le_groupBound (cs : Conditions) : cs.captureCount ≤ cs.groupBound := by
  rw [captureCount_eq]
  exact mostGroups_mono (fun c _ => c.matcher.captureCount_le) (Nat.le_refl 0)

theorem captureCount_gapless {cs : Conditions} (gapless : ∀ c ∈ cs.items, c.matcher.Gapless) :
    cs.captureCount = cs.groupBound := by
  rw [captureCount_eq, groupBound, List.map_congr_left gapless]

/-- The bound for a whole list, from captures without groups of conditions. -/
theorem Passes.length_le_groupBound {cs : Conditions} {request : Request} {isGlobal : Bool}
    {p : Progress} {before now : Captures} (fresh : before.conditions = {})
    (passes : Passes request isGlobal cs.trackAll cs.items p before now) :
    now.conditions.toList.length ≤ cs.groupBound := by
  have bound := passes.length_le
  rwa [fresh] at bound

theorem run_tracked {cs : Conditions} {request : Request} {isGlobal : Bool} {before : Captures}
    (fresh : before.conditions = {}) (tracked : cs.trackAll = true)
    (needed : ∀ c ∈ cs.items, c.orNext = false)
    (holds : (cs.run request before isGlobal).1 = .ok true) :
    (cs.run request before isGlobal).2.conditions.toList.length = cs.groupBound := by
  unfold run at holds ⊢
  rw [tracked] at holds ⊢
  have left := (runItems_tracked needed rfl (Prod.ext holds rfl)).2
  rw [groupBound, tracked]
  rwa [fresh] at left

end Conditions

namespace Rule

/-- The captures with which a rule comes to its conditions. -/
def opening (rule : Rule) (request : Request) : Captures :=
  ({} : Captures).recordRule (rule.firstMatch request).groups

/-- Whether a rule keeps the groups of all its conditions. -/
def tracksAll (rule : Rule) : Bool := (rule.conditions.map (·.trackAll)).getD false

/-- Behind its match, while its conditions are evaluated or at their end, the rule has the
captures `now`. -/
def Carries (rule : Rule) (request : Request) (now : Captures) : Prop :=
  Conditions.Passes request rule.isGlobal rule.tracksAll rule.items {} (rule.opening request) now

theorem carries_guarded (rule : Rule) (request : Request) :
    rule.Carries request (rule.guarded request).2 := by
  unfold Carries tracksAll items guarded
  cases rule.conditions with
  | none => exact .here
  | some conditions => exact Conditions.passes_final _ _ _

/-- From a match on, all groups of the match are there. -/
theorem Carries.length_rule {rule : Rule} {request : Request} {now : Captures}
    (carries : rule.Carries request now) (matched : (rule.firstMatch request).success = true) :
    now.rule.toList.length = rule.initialMatch.groupCount := by
  rw [carries.rule_eq, opening, Captures.length_recordRule]
  exact Matcher.length_groups matched

/-- A match that fails has no groups. -/
theorem Carries.length_rule_le {rule : Rule} {request : Request} {now : Captures}
    (carries : rule.Carries request now) :
    now.rule.toList.length ≤ rule.initialMatch.groupCount := by
  cases matched : (rule.firstMatch request).success with
  | true => exact Nat.le_of_eq (carries.length_rule matched)
  | false =>
    have none : (rule.firstMatch request).groups = [] := Matcher.groups_of_failure matched
    rw [carries.rule_eq, opening, Captures.length_recordRule, none]
    exact Nat.zero_le _

theorem Carries.length_conditions_le {rule : Rule} {request : Request} {now : Captures}
    (carries : rule.Carries request now) :
    now.conditions.toList.length ≤ (rule.conditions.map Conditions.groupBound).getD 0 := by
  unfold Carries tracksAll items at carries
  cases found : rule.conditions with
  | none =>
    rw [found] at carries
    cases carries
    exact Nat.le_refl 0
  | some conditions =>
    rw [found] at carries
    exact Conditions.Passes.length_le_groupBound rfl carries

/-- No pattern of the rule has gaps. -/
structure Gapless (rule : Rule) : Prop where
  initialMatch : rule.initialMatch.Gapless
  conditions : ∀ c ∈ rule.items, c.matcher.Gapless

/-- A group that is not offered is not there at any point, if no pattern has gaps. -/
theorem Carries.missing {rule : Rule} (gapless : rule.Gapless) {request : Request}
    {now : Captures} (carries : rule.Carries request now) {reference : Reference}
    (refused : ¬ RuleDraft.Offered rule reference) : reference.Missing now := by
  cases reference with
  | rule n =>
    have beyond : rule.initialMatch.captureCount ≤ n := Nat.le_of_not_lt refused
    rw [gapless.initialMatch] at beyond
    exact Nat.le_trans carries.length_rule_le beyond
  | condition n =>
    refine Nat.le_trans carries.length_conditions_le ?_
    have noGaps := gapless.conditions
    unfold RuleDraft.Offered at refused
    unfold items at noGaps
    cases found : rule.conditions with
    | none => exact Nat.zero_le n
    | some conditions =>
      rw [found] at noGaps refused
      rw [Option.map_some, Option.getD_some, ← Conditions.captureCount_gapless noGaps]
      exact Nat.le_of_not_lt refused

end Rule

namespace RuleDraft

theorem checkReferences_error (rule : Rule) {references : List Reference} {e : BuildError}
    (fails : checkReferences rule.initialMatch.captureCount
      ((rule.conditions.map Conditions.captureCount).getD 0) references = .error e) :
    ∃ reference ∈ references,
      ¬ Offered rule reference ∧ ∃ count, e = .reference reference count := by
  induction references with
  | nil => cases fails
  | cons reference rest ih =>
    have offered : Offered rule reference ↔
        (available rule.initialMatch.captureCount
          ((rule.conditions.map Conditions.captureCount).getD 0) reference).1 <
        (available rule.initialMatch.captureCount
          ((rule.conditions.map Conditions.captureCount).getD 0) reference).2 := by
      cases reference <;> rfl
    rw [checkReferences] at fails
    dsimp only at fails
    split at fails
    · next refused =>
      cases fails
      exact ⟨reference, List.mem_cons_self, mt offered.mp (Nat.not_lt.mpr refused), _, rfl⟩
    · obtain ⟨other, member, found⟩ := ih fails
      exact ⟨other, List.mem_cons_of_mem _ member, found⟩

/-- A draft that is refused for a group mentions it, and does not offer it. -/
theorem build_refuses {d : RuleDraft} {isGlobal : Bool} {reference : Reference} {count : Nat}
    (refused : d.build isGlobal = .error (.reference reference count)) :
    ∃ initialMatch, d.initialMatch = some initialMatch ∧
      reference ∈ allReferences d.conditions d.actions ∧
      ¬ Offered (d.described initialMatch isGlobal) reference := by
  unfold build at refused
  cases found : d.initialMatch with
  | none => simp [found] at refused
  | some initialMatch =>
    refine ⟨initialMatch, rfl, ?_⟩
    simp only [found] at refused
    split at refused
    · cases refused
    · cases outcome : checkReferences initialMatch.captureCount
          ((d.conditions.map Conditions.captureCount).getD 0)
          (allReferences d.conditions d.actions) with
      | ok _ => simp [outcome, Except.map] at refused
      | error e =>
        simp only [outcome, Except.map, Except.error.injEq] at refused
        obtain ⟨other, member, unoffered, _, same⟩ :=
          checkReferences_error (d.described initialMatch isGlobal) outcome
        rw [refused, BuildError.reference.injEq] at same
        exact same.1 ▸ ⟨member, unoffered⟩

end RuleDraft

/-! ## 5. What the count promises -/

/-- The rule keeps the groups of all its conditions and needs all of them. -/
def Rule.NeedsTracked (rule : Rule) : Prop :=
  ∀ conditions, rule.conditions = some conditions →
    conditions.trackAll = true ∧ ∀ c ∈ conditions.items, c.orNext = false

/-- Where all groups are kept and all conditions are needed, an accepted rule has every group that
its actions mention, with gaps in its patterns or without. -/
theorem Rule.tracked_not_missing {d : RuleDraft} {isGlobal : Bool} {rule : Rule}
    (built : d.build isGlobal = .ok rule) (tracked : rule.NeedsTracked) {request : Request}
    (matched : (rule.firstMatch request).success = true)
    (holds : (rule.guarded request).1 = .ok true) {a : Action} (member : a ∈ rule.actions)
    {reference : Reference} (mentioned : Template.Mentions reference a.url) :
    ¬ reference.Missing (rule.guarded request).2 := by
  have offered := RuleDraft.build_checked built member mentioned
  cases reference with
  | rule n =>
    refine Nat.not_le.mpr ?_
    rw [(rule.carries_guarded request).length_rule matched]
    exact Nat.lt_of_lt_of_le offered rule.initialMatch.captureCount_le
  | condition n =>
    refine Nat.not_le.mpr ?_
    unfold RuleDraft.Offered at offered
    unfold guarded at holds ⊢
    cases found : rule.conditions with
    | none => simp [found] at offered
    | some conditions =>
      obtain ⟨keepsAll, needed⟩ := tracked conditions found
      rw [found] at offered
      simp only [found] at holds ⊢
      rw [Conditions.run_tracked rfl keepsAll needed holds]
      exact Nat.lt_of_lt_of_le offered conditions.captureCount_le_groupBound

/-- Conditions never leave more groups than their matchers have in total, or at most in one of
them, and all of these if all are kept and needed. In patterns without gaps this is the number that
a draft is checked with, so what it is refused for is not there at any point of any evaluation.
What an accepted draft mentions is there where all groups are kept and needed. -/
theorem RuleDraft.captureCount_bounds (cs : Conditions) (d : RuleDraft) (request : Request)
    (isGlobal : Bool) :
    (∀ captures : Captures, captures.conditions = {} →
      (cs.run request captures isGlobal).2.conditions.toList.length ≤ cs.groupBound ∧
      (cs.trackAll = true → (∀ c ∈ cs.items, c.orNext = false) →
        (cs.run request captures isGlobal).1 = .ok true →
        (cs.run request captures isGlobal).2.conditions.toList.length = cs.groupBound)) ∧
    ((∀ c ∈ cs.items, c.matcher.Gapless) → cs.captureCount = cs.groupBound) ∧
    (∀ reference count, d.build isGlobal = .error (.reference reference count) →
      ∃ initialMatch, d.initialMatch = some initialMatch ∧
        ((d.described initialMatch isGlobal).Gapless →
          ∀ now, (d.described initialMatch isGlobal).Carries request now →
            reference.Missing now)) ∧
    (∀ rule, d.build isGlobal = .ok rule → rule.NeedsTracked →
      (rule.firstMatch request).success = true → (rule.guarded request).1 = .ok true →
        ∀ a ∈ rule.actions, ∀ reference, Template.Mentions reference a.url →
          ¬ reference.Missing (rule.guarded request).2) := by
  refine ⟨?_, Conditions.captureCount_gapless, ?_, ?_⟩
  · intro captures fresh
    exact ⟨Conditions.Passes.length_le_groupBound fresh (Conditions.passes_final _ _ _),
      Conditions.run_tracked fresh⟩
  · intro reference count refused
    obtain ⟨initialMatch, found, _, unoffered⟩ := RuleDraft.build_refuses refused
    exact ⟨initialMatch, found, fun gapless _ carries => carries.missing gapless unoffered⟩
  · intro rule built tracked matched holds a member reference mentioned
    exact Rule.tracked_not_missing built tracked matched holds member mentioned

/-- Conditions that keep all of their four groups. -/
def exAll : Conditions := { items := [exHost, exPath], trackAll := true }

/-- A draft with these conditions, whose action mentions the last of the groups. -/
def exTracked : RuleDraft :=
  { exDraft [] with
    conditions := some exAll
    actions := [{ kind := .rewrite, url := [.conditionGroup 3] }] }

/-- The rule of the draft. -/
def exTrackedRule : Rule := exTracked.described ⟨.regex (exRegex "^/a$") 100, false⟩ false

theorem captureCount_bounds_tracked :
    exTracked.build false = .ok exTrackedRule ∧ exTrackedRule.NeedsTracked ∧
      (exTrackedRule.firstMatch exRequest).success = true ∧
      (exTrackedRule.guarded exRequest).1 = .ok true ∧
      (exTrackedRule.guarded exRequest).2.conditions.toList.length = exAll.groupBound ∧
      ¬ Reference.Missing (exTrackedRule.guarded exRequest).2 (.condition 3) := by
  have built : exTracked.build false = .ok exTrackedRule := by
    refine RuleDraft.build_ok_iff.mpr ⟨_, rfl, List.cons_ne_nil _ _, rfl, ?_⟩
    intro reference member
    rw [List.mem_singleton.mp member]
    show 3 < exAll.captureCount
    decide +kernel
  have tracked : exTrackedRule.NeedsTracked := by
    intro _ found
    cases found
    exact ⟨rfl, by simp [exAll, exHost, exPath]⟩
  have matched : (exTrackedRule.firstMatch exRequest).success = true := by decide +kernel
  have holds : (exTrackedRule.guarded exRequest).1 = .ok true := by decide +kernel
  obtain ⟨bounds, _, _, accepted⟩ :=
    RuleDraft.captureCount_bounds exAll exTracked exRequest false
  exact ⟨built, tracked, matched, holds,
    (bounds (exTrackedRule.opening exRequest) rfl).2 rfl (tracked exAll rfl).2 holds,
    accepted _ built tracked matched holds _ List.mem_cons_self _
      (.conditionGroup List.mem_cons_self rfl)⟩

/-- A condition whose pattern has dropped its first group. It answers for two groups. -/
def exGap : Condition :=
  { input := [.server .requestUri]
    matcher := ⟨.regex (exRegex "^/(a)\x7b0\x7d(b)$") 100, false⟩ }

/-- A draft whose action mentions the group behind the dropped one. -/
def exGapDraft : RuleDraft :=
  { initialMatch := some (.exact "/b" false false)
    conditions := some { items := [exGap] }
    actions := [{ kind := .rewrite, url := [.literal "/x-", .conditionGroup 2] }] }

/-- The draft is refused, but the condition does capture the group. -/
theorem refused_group_captured :
    exGapDraft.build false = .error (.reference (.condition 2) 2) ∧
    ((exGapDraft.described (.exact "/b" false false) false).guarded (.ofUrl "/b")).1 = .ok true ∧
    ((exGapDraft.described (.exact "/b" false false) false).guarded (.ofUrl "/b")).2.conditions =
      ⟨[["/b", "", "b"]], 3⟩ ∧
    Conditions.captureCount { items := [exGap] } = 2 := by
  have count : Conditions.captureCount { items := [exGap] } = 2 := by decide +kernel
  have plain : Template.references exGap.input = [] := rfl
  refine ⟨?_, by decide +kernel, by decide +kernel, count⟩
  simp [RuleDraft.build, exGapDraft, RuleDraft.allReferences, plain, Template.references,
    Template.segmentReferences, RuleDraft.checkReferences, RuleDraft.available, count, Except.map]

end Reroute
