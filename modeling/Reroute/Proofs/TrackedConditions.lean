import Reroute.Proofs.CaptureBounds
import Reroute.Proofs.Decision

/-!
# Conditions that are tested for their groups only

Where the groups of all conditions are kept, a condition is tested also when it can no longer
matter: behind a chain that has failed, or behind a success of its own chain. Its outcome does not
count then, but its input is expanded all the same, and if that fails the whole evaluation does. So
a rule is not applied although its conditions hold (`decided_condition_rejects`).

The verdict of the conditions that matter is said here apart from the evaluation (`Judged`): a
condition that does not matter leaves its groups if it has any, and nothing if it cannot be tested.
The evaluation comes to this verdict or to the error of the first condition that does not matter
and lacks a group (`Interrupted`), and never to another verdict.

Results:
1. `runItems_tested`, `runItems_lacking`: one step of an evaluation that keeps all groups.
2. `runItems_of_judged`, `judged_of_runItems`: verdicts of the conditions that matter.
3. `runItems_of_interrupted`, `interrupted_of_judged`: errors of the others.
4. `run_judged_iff`: what an evaluation comes to.
-/

namespace Reroute

namespace Conditions

variable (request : Request) (isGlobal : Bool)

/-! ## 1. Steps -/

/-- The captures behind a condition that is tested for its groups only. -/
def gathered (c : Condition) (captures : Captures) : Captures :=
  match c.run request captures isGlobal with
  | .ok result => capturesBehind true captures result
  | .error _ => captures

/-- `Judged request isGlobal items p captures verdict`: all conditions of `items` that matter when
the evaluation comes to them can be tested, and the verdict is `verdict`. -/
inductive Judged : List Condition → Progress → Captures → Bool → Prop
  | ended {p : Progress} {captures : Captures} : Judged [] p captures p.verdict
  | decided {c : Condition} {rest : List Condition} {p : Progress} {captures : Captures}
      {verdict : Bool} :
      p.decided = true →
      Judged rest (p.pass c.orNext) (gathered request isGlobal c captures) verdict →
      Judged (c :: rest) p captures verdict
  | needed {c : Condition} {rest : List Condition} {p : Progress} {captures : Captures}
      {verdict : Bool} {result : MatchResult} :
      p.decided = false → c.run request captures isGlobal = .ok result →
      Judged rest (p.count c.orNext result.success) (capturesBehind true captures result) verdict →
      Judged (c :: rest) p captures verdict

/-- `Interrupted request isGlobal items p captures e`: the first condition of `items` that cannot
be tested does not matter any more, and `e` is what it lacks. -/
inductive Interrupted : List Condition → Progress → Captures → OutOfRange → Prop
  | here {c : Condition} {rest : List Condition} {p : Progress} {captures : Captures}
      {e : OutOfRange} :
      p.decided = true → c.run request captures isGlobal = .error e →
      Interrupted (c :: rest) p captures e
  | later {c : Condition} {rest : List Condition} {p : Progress} {captures : Captures}
      {e : OutOfRange} {result : MatchResult} :
      c.run request captures isGlobal = .ok result →
      Interrupted rest (flagsBehind p (c, result.success)) (capturesBehind true captures result) e →
      Interrupted (c :: rest) p captures e

variable {request isGlobal}
variable {c : Condition} {items rest : List Condition} {p : Progress} {captures : Captures}
  {result : MatchResult} {e : OutOfRange} {verdict : Bool}

/-- No condition ends an evaluation early that keeps all groups. -/
theorem runItems_tested (runs : c.run request captures isGlobal = .ok result)
    (rest : List Condition) (p : Progress) :
    runItems request isGlobal true (c :: rest) p captures =
      runItems request isGlobal true rest (flagsBehind p (c, result.success))
        (capturesBehind true captures result) := by
  have goesOn : stops true p c result.success = false := by simp [stops]
  rw [runItems_cons, runs]
  simp only [goesOn, Bool.not_true, Bool.and_false, Bool.false_eq_true, ↓reduceIte]

theorem runItems_lacking (lacks : c.run request captures isGlobal = .error e)
    (rest : List Condition) (p : Progress) :
    runItems request isGlobal true (c :: rest) p captures = (.error e, captures) := by
  rw [runItems_cons, lacks]
  simp only [Bool.not_true, Bool.and_false, Bool.false_eq_true, ↓reduceIte]

theorem flagsBehind_decided (decided : p.decided = true) (ok : Bool) :
    flagsBehind p (c, ok) = p.pass c.orNext := by
  rw [flagsBehind, if_pos decided]

theorem flagsBehind_needed (needed : p.decided = false) (ok : Bool) :
    flagsBehind p (c, ok) = p.count c.orNext ok := by
  rw [flagsBehind, if_neg (by rw [needed]; exact Bool.false_ne_true)]

theorem gathered_tested (runs : c.run request captures isGlobal = .ok result) :
    gathered request isGlobal c captures = capturesBehind true captures result := by
  rw [gathered, runs]

/-! ## 2. Verdicts -/

/-- Without an interruption the evaluation comes to the verdict of the conditions that matter. -/
theorem runItems_of_judged (judged : Judged request isGlobal items p captures verdict)
    (goesOn : ∀ e, ¬ Interrupted request isGlobal items p captures e) :
    (runItems request isGlobal true items p captures).1 = .ok verdict := by
  induction judged with
  | ended => rfl
  | @decided c rest p captures verdict decided _ ih =>
    cases runs : c.run request captures isGlobal with
    | error e => exact absurd (.here decided runs) (goesOn e)
    | ok result =>
      rw [gathered_tested runs] at ih
      rw [runItems_tested runs, flagsBehind_decided decided]
      refine ih fun e interrupted => goesOn e (.later runs ?_)
      rw [flagsBehind_decided decided]
      exact interrupted
  | needed needed runs _ ih =>
    rw [runItems_tested runs, flagsBehind_needed needed]
    refine ih fun e interrupted => goesOn e (.later runs ?_)
    rw [flagsBehind_needed needed]
    exact interrupted

theorem runItems_of_interrupted (interrupted : Interrupted request isGlobal items p captures e) :
    (runItems request isGlobal true items p captures).1 = .error e := by
  induction interrupted with
  | here _ lacks => rw [runItems_lacking lacks]
  | later runs _ ih =>
    rw [runItems_tested runs]
    exact ih

/-- An evaluation that comes to a verdict has tested everything that matters. -/
theorem judged_of_runItems
    (runs : (runItems request isGlobal true items p captures).1 = .ok verdict) :
    Judged request isGlobal items p captures verdict := by
  induction items generalizing p captures with
  | nil =>
    cases runs
    exact .ended
  | cons c rest ih =>
    cases tested : c.run request captures isGlobal with
    | error e =>
      rw [runItems_lacking tested] at runs
      cases runs
    | ok result =>
      rw [runItems_tested tested] at runs
      have behind := ih runs
      cases decided : p.decided with
      | true =>
        rw [flagsBehind_decided decided] at behind
        refine .decided decided ?_
        rw [gathered_tested tested]
        exact behind
      | false =>
        rw [flagsBehind_needed decided] at behind
        exact .needed decided tested behind

/-! ## 3. Errors -/

/-- If everything that matters can be tested, an error comes from a condition that does not. -/
theorem interrupted_of_judged (judged : Judged request isGlobal items p captures verdict)
    (fails : (runItems request isGlobal true items p captures).1 = .error e) :
    Interrupted request isGlobal items p captures e := by
  induction judged with
  | ended => cases fails
  | @decided c rest p captures verdict decided _ ih =>
    cases runs : c.run request captures isGlobal with
    | error other =>
      rw [runItems_lacking runs] at fails
      cases fails
      exact .here decided runs
    | ok result =>
      rw [gathered_tested runs] at ih
      rw [runItems_tested runs, flagsBehind_decided decided] at fails
      refine .later runs ?_
      rw [flagsBehind_decided decided]
      exact ih fails
  | needed needed runs _ ih =>
    rw [runItems_tested runs, flagsBehind_needed needed] at fails
    refine .later runs ?_
    rw [flagsBehind_needed needed]
    exact ih fails

/-! ## 4. Evaluations -/

/-- With all groups kept, an evaluation comes to a verdict exactly if it is that of the conditions
that matter, and no other condition lacks a group when it is tested for its own ones. If the
conditions that matter have a verdict, the only errors are those of such a condition. -/
theorem run_judged_iff {cs : Conditions} (tracked : cs.trackAll = true) (request : Request)
    (captures : Captures) (isGlobal : Bool) (verdict : Bool) :
    ((cs.run request captures isGlobal).1 = .ok verdict ↔
      Judged request isGlobal cs.items {} captures verdict ∧
        ∀ e, ¬ Interrupted request isGlobal cs.items {} captures e) ∧
    (Judged request isGlobal cs.items {} captures verdict →
      ∀ e, (cs.run request captures isGlobal).1 = .error e ↔
        Interrupted request isGlobal cs.items {} captures e) := by
  rw [run, tracked]
  refine ⟨⟨fun runs => ⟨judged_of_runItems runs, fun e interrupted => ?_⟩, ?_⟩, fun judged e => ?_⟩
  · rw [runItems_of_interrupted interrupted] at runs
    cases runs
  · rintro ⟨judged, goesOn⟩
    exact runItems_of_judged judged goesOn
  · exact ⟨interrupted_of_judged judged, runItems_of_interrupted⟩

end Conditions

/-- A test for the path `/a`, with one group. -/
def exAtPath : Matcher := ⟨.regex (exRegex "^/a$") 100, false⟩

/-- Alternatives whose groups are all kept: the path, and a group of the conditions before. -/
def exAlternatives (group : Nat) : Conditions :=
  { items :=
      [⟨[.currentUrl], exAtPath, true⟩,
        ⟨[.conditionGroup group], ⟨.regex (exRegex "^/") 100, false⟩, true⟩]
    grouping := .matchAny
    trackAll := true }

/-- A draft of a rule that refuses every request which they hold for. -/
def exRefusal (group : Nat) : RuleDraft :=
  { initialMatch := some exAtPath
    conditions := some (exAlternatives group)
    actions := [{ kind := .forbidden, url := [] }] }

/-- The rule of the draft. -/
def exRefused (group : Nat) : Rule := (exRefusal group).described exAtPath false

/-- The first condition matters and holds, so the other one is tested for its groups only. -/
theorem exAlternatives_judged (group : Nat) (captures : Captures) :
    Conditions.Judged (Request.ofUrl "/a") false (exAlternatives group).items {} captures true := by
  have tested : Condition.run ⟨[.currentUrl], exAtPath, true⟩ (Request.ofUrl "/a") captures false =
      .ok (exAtPath.run "/a" (Request.ofUrl "/a").files) := rfl
  have succeeds : (exAtPath.run "/a" (Request.ofUrl "/a").files).success = true := by
    decide +kernel
  refine .needed rfl tested ?_
  rw [succeeds]
  exact .decided rfl .ended

theorem run_judged_iff_gathering :
    (exAlternatives 0).trackAll = true ∧
    Conditions.Judged (Request.ofUrl "/a") false (exAlternatives 0).items {} {} true ∧
    (∀ e, ¬ Conditions.Interrupted (Request.ofUrl "/a") false (exAlternatives 0).items {} {} e) ∧
    ((exAlternatives 0).run (Request.ofUrl "/a") {} false).2.conditions.toList = ["/a", "/"] := by
  have holds : ((exAlternatives 0).run (Request.ofUrl "/a") {} false).1 = .ok true := by
    decide +kernel
  have tracked : (exAlternatives 0).trackAll = true := rfl
  obtain ⟨judged, goesOn⟩ :=
    (Conditions.run_judged_iff tracked (Request.ofUrl "/a") {} false true).1.mp holds
  exact ⟨tracked, judged, goesOn, by decide +kernel⟩

/-- The rule is accepted and its conditions hold, but the one that does not matter asks for a
group that it would only leave itself, so the rule is not applied. -/
theorem decided_condition_rejects :
    (exRefusal 1).build false = .ok (exRefused 1) ∧
    ((exRefused 1).firstMatch (Request.ofUrl "/a")).success = true ∧
    Conditions.Judged (Request.ofUrl "/a") false (exAlternatives 1).items {}
      (({} : Captures).recordRule ((exRefused 1).firstMatch (Request.ofUrl "/a")).groups) true ∧
    ((exRefused 1).guarded (Request.ofUrl "/a")).1 = .error ⟨1, 1⟩ ∧
    ((exRefused 1).apply (Request.ofUrl "/a")).1 = .notMatched := by
  refine ⟨?_, by decide +kernel, exAlternatives_judged 1 _, by decide +kernel, by decide +kernel⟩
  refine RuleDraft.build_ok_iff.mpr ⟨_, rfl, List.cons_ne_nil _ _, rfl, ?_⟩
  intro reference member
  obtain rfl : reference = .condition 1 := List.mem_singleton.mp member
  show 1 < (exAlternatives 1).captureCount
  decide +kernel

end Reroute
