import Mathlib.Logic.Basic
import Mathlib.Tactic.ByContra
import Reroute.Proofs.References

/-!
# A rule is decided before it changes anything

A rule has four ways out without being applied: its match fails, its conditions do not hold, one
of their inputs lacks a group, or an action lacks one. The last is looked for in the templates of
all actions, also of those that never come to be taken or never use their url, before the first
action is taken. The captures stay the same from then on, so no later expansion can fail,
although every action sees the request that the one before it has left.

Results:
1. `captures_eq_some_iff`: what the match and the conditions leave when both succeed.
2. `Taken.succeeds`, `runActions_flow`: once all checks pass, every action that is taken succeeds.
3. `apply_atomic`: a rule is not applied exactly when it rejects the request, the request is then
   what it was, and the actions of a rule that does not reject never fail.
-/

namespace Reroute.Rule

/-! ## 1. Match and conditions -/

/-- The outcome of the match that a rule begins with. -/
def firstMatch (rule : Rule) (request : Request) : MatchResult :=
  rule.initialMatch.run (rule.candidate request) request.files

/-- The outcome of the conditions behind the match, and the captures that they leave. A rule
without conditions goes on with the groups of the match. -/
def guarded (rule : Rule) (request : Request) : Except OutOfRange Bool × Captures :=
  let captures := ({} : Captures).recordRule (rule.firstMatch request).groups
  match rule.conditions with
  | none => (.ok true, captures)
  | some conditions => conditions.run request captures rule.isGlobal

/-- Why a rule leaves a request alone. -/
inductive Rejects (rule : Rule) (request : Request) : Prop
  | unmatched : (rule.firstMatch request).success = false → Rejects rule request
  | unmet :
      (rule.firstMatch request).success = true → (rule.guarded request).1 = .ok false →
      Rejects rule request
  | unexpanded {e : OutOfRange} :
      (rule.firstMatch request).success = true → (rule.guarded request).1 = .error e →
      Rejects rule request
  | missing {a : Action} {reference : Reference} :
      (rule.firstMatch request).success = true → (rule.guarded request).1 = .ok true →
      a ∈ rule.actions → Template.Mentions reference a.url →
      reference.Missing (rule.guarded request).2 → Rejects rule request

theorem captures_eq_some_iff {rule : Rule} {request : Request} {captures : Captures} :
    rule.captures? request = some captures ↔
      (rule.firstMatch request).success = true ∧ rule.guarded request = (.ok true, captures) := by
  unfold captures? guarded
  rw [← firstMatch]
  cases matched : (rule.firstMatch request).success with
  | false => simp [matched]
  | true =>
    cases rule.conditions with
    | none => simp [matched]
    | some conditions =>
      simp only [matched, Bool.not_true, Bool.false_eq_true, ↓reduceIte, true_and]
      generalize conditions.run request _ rule.isGlobal = outcome
      obtain ⟨fails | holds, left⟩ := outcome
      · simp
      · cases holds <;> simp

theorem captures_eq_none_iff {rule : Rule} {request : Request} :
    rule.captures? request = none ↔
      (rule.firstMatch request).success = false ∨ (rule.guarded request).1 ≠ .ok true := by
  rw [Option.eq_none_iff_forall_not_mem]
  constructor
  · intro never
    cases matched : (rule.firstMatch request).success with
    | false => exact .inl rfl
    | true =>
      refine .inr fun holds => never (rule.guarded request).2 ?_
      exact captures_eq_some_iff.mpr ⟨matched, Prod.ext holds rfl⟩
  · rintro (failed | fails) captures found
    · obtain ⟨matched, _⟩ := captures_eq_some_iff.mp found
      rw [failed] at matched
      cases matched
    · obtain ⟨_, holds⟩ := captures_eq_some_iff.mp found
      exact fails (congrArg Prod.fst holds)

/-! ## 2. Actions -/

/-- `Taken captures isGlobal actions request a now`: when the actions are taken in order,
beginning with `request`, it comes to `a`, and the request is `now` by then. -/
inductive Taken (captures : Captures) (isGlobal : Bool) :
    List Action → Request → Action → Request → Prop
  | first {a : Action} {rest : List Action} {request : Request} :
      Taken captures isGlobal (a :: rest) request a request
  | later {a b : Action} {rest : List Action} {request next now : Request} :
      a.apply request captures isGlobal = .ok (.next, next) →
      Taken captures isGlobal rest next b now → Taken captures isGlobal (a :: rest) request b now

/-- An action whose template has passed its check succeeds in every request. -/
theorem action_succeeds {a : Action} {captures : Captures}
    (checked : Template.check a.url captures = .ok ()) (request : Request) (isGlobal : Bool) :
    ∃ flow next, a.apply request captures isGlobal = .ok (flow, next) := by
  obtain ⟨url, expanded⟩ : ∃ url, a.expandUrl request captures isGlobal = .ok url :=
    Template.expands_of_check checked _ rfl
  unfold Action.apply
  cases a.kind with
  | rewrite | redirect status => rw [expanded]; exact ⟨_, _, rfl⟩
  | keep | forbidden | gone | respond | abort => exact ⟨_, _, rfl⟩

theorem Taken.mem {captures : Captures} {isGlobal : Bool} {actions : List Action}
    {request now : Request} {a : Action} (taken : Taken captures isGlobal actions request a now) :
    a ∈ actions := by
  induction taken with
  | first => exact List.mem_cons_self
  | later _ _ ih => exact List.mem_cons_of_mem _ ih

theorem Taken.succeeds {captures : Captures} {isGlobal : Bool} {actions : List Action}
    {request now : Request} {a : Action} (taken : Taken captures isGlobal actions request a now)
    (checked : checkActions captures actions = .ok ()) :
    ∃ flow next, a.apply now captures isGlobal = .ok (flow, next) :=
  action_succeeds ((checkActions_ok_iff captures actions).mp checked a taken.mem) now isGlobal

/-- The actions are left as "not matched" only through an action that fails. -/
theorem runActions_flow {captures : Captures} {actions : List Action}
    (checked : checkActions captures actions = .ok ()) (isGlobal : Bool) (request : Request) :
    (runActions captures isGlobal actions request).1 ≠ .notMatched := by
  induction actions generalizing request with
  | nil => simp [runActions]
  | cons a rest ih =>
    rw [checkActions_ok_iff, List.forall_mem_cons, ← checkActions_ok_iff] at checked
    obtain ⟨flow, next, taken⟩ := action_succeeds checked.1 request isGlobal
    rw [runActions, taken]
    cases flow with
    | next => exact ih checked.2 next
    | stop | halt => simp

/-! ## 3. The rule as a whole -/

theorem rejects_of_captures_none {rule : Rule} {request : Request}
    (none : rule.captures? request = none) : rule.Rejects request := by
  cases matched : (rule.firstMatch request).success with
  | false => exact .unmatched matched
  | true =>
    have fails : (rule.guarded request).1 ≠ .ok true :=
      (captures_eq_none_iff.mp none).resolve_left (by simp [matched])
    cases outcome : (rule.guarded request).1 with
    | error e => exact .unexpanded matched outcome
    | ok holds =>
      cases holds with
      | false => exact .unmet matched outcome
      | true => exact absurd outcome fails

/-- With the captures of match and conditions at hand, only the templates of the actions count. -/
theorem rejects_iff_of_captures {rule : Rule} {request : Request} {captures : Captures}
    (found : rule.captures? request = some captures) :
    rule.Rejects request ↔ checkActions captures rule.actions ≠ .ok () := by
  obtain ⟨matched, guards⟩ := captures_eq_some_iff.mp found
  constructor
  · intro rejects checked
    cases rejects with
    | unmatched failed => simp [matched] at failed
    | unmet _ fails | unexpanded _ fails => simp [guards] at fails
    | missing _ _ member mentioned absent =>
      have check := (checkActions_ok_iff captures rule.actions).mp checked _ member
      rw [guards] at absent
      exact (Template.check_ok_iff _ _).mp check _ mentioned absent
  · intro unchecked
    rw [ne_eq, checkActions_ok_iff] at unchecked
    simp only [Template.check_ok_iff, not_forall, not_not] at unchecked
    obtain ⟨a, member, reference, mentioned, absent⟩ := unchecked
    exact .missing matched (by rw [guards]) member mentioned (by rw [guards]; exact absent)

theorem apply_of_rejects {rule : Rule} {request : Request} (rejects : rule.Rejects request) :
    rule.apply request = (.notMatched, request) := by
  unfold Rule.apply
  cases found : rule.captures? request with
  | none => rfl
  | some captures =>
    cases check : checkActions captures rule.actions with
    | error e => simp [check]
    | ok _ => exact absurd check ((rejects_iff_of_captures found).mp rejects)

/-- A rule that does not reject a request has passed all checks, and only its actions are left. -/
theorem apply_of_not_rejects {rule : Rule} {request : Request} (passes : ¬ rule.Rejects request) :
    checkActions (rule.guarded request).2 rule.actions = .ok () ∧
      rule.apply request =
        runActions (rule.guarded request).2 rule.isGlobal rule.actions request := by
  -- Without captures one of the guards has failed, and that is a rejection.
  cases found : rule.captures? request with
  | none => exact absurd (rejects_of_captures_none found) passes
  | some captures =>
    have checked : checkActions captures rule.actions = .ok () :=
      Classical.not_not.mp (mt (rejects_iff_of_captures found).mpr passes)
    obtain ⟨_, guards⟩ := captures_eq_some_iff.mp found
    rw [guards]
    refine ⟨checked, ?_⟩
    rw [Rule.apply, found]
    simp only [checked]

theorem notMatched_iff (rule : Rule) (request : Request) :
    (rule.apply request).1 = .notMatched ↔ rule.Rejects request := by
  constructor
  · intro notMatched
    by_contra passes
    obtain ⟨checked, applied⟩ := apply_of_not_rejects passes
    rw [applied] at notMatched
    exact runActions_flow checked rule.isGlobal request notMatched
  · intro rejects
    rw [apply_of_rejects rejects]

/-- A rule is not applied exactly when it rejects the request. It then leaves the request as it
was in every field. Otherwise it does what its actions do, and each of them that it comes to
succeeds, in whatever state the actions before have left the request. -/
theorem apply_atomic (rule : Rule) (request : Request) :
    ((rule.apply request).1 = .notMatched ↔ rule.Rejects request) ∧
    (rule.Rejects request → (rule.apply request).2 = request) ∧
    (¬ rule.Rejects request →
      rule.apply request =
        runActions (rule.guarded request).2 rule.isGlobal rule.actions request ∧
      ∀ a now, Taken (rule.guarded request).2 rule.isGlobal rule.actions request a now →
        ∃ flow next, a.apply now (rule.guarded request).2 rule.isGlobal = .ok (flow, next)) := by
  refine ⟨notMatched_iff rule request, ?_, ?_⟩
  · intro rejects
    rw [apply_of_rejects rejects]
  · intro passes
    obtain ⟨checked, applied⟩ := apply_of_not_rejects passes
    exact ⟨applied, fun a now taken => taken.succeeds checked⟩

/-- A rule whose first action would rewrite the request, while the second one lacks a group. -/
def exLacking : Rule :=
  { initialMatch := .exact "/a" false false
    actions := [
      { kind := .rewrite, url := [.literal "/b"] },
      { kind := .redirect 302, url := [.literal "/", .function .toLower [.conditionGroup 0]] }] }

theorem apply_atomic_lacking :
    exLacking.Rejects (.ofUrl "/a?q") ∧
      exLacking.apply (.ofUrl "/a?q") = (.notMatched, .ofUrl "/a?q") := by
  have rejects : exLacking.Rejects (.ofUrl "/a?q") := by
    have mentioned : Template.Mentions (.condition 0)
        [.literal "/", .function .toLower [.conditionGroup 0]] :=
      .function (List.mem_cons_of_mem _ List.mem_cons_self)
        (.conditionGroup List.mem_cons_self rfl)
    exact .missing rfl rfl (List.mem_cons_of_mem _ List.mem_cons_self) mentioned (Nat.le_refl 0)
  obtain ⟨rejected, untouched, _⟩ := apply_atomic exLacking (.ofUrl "/a?q")
  exact ⟨rejects, Prod.ext (rejected.mpr rejects) (untouched rejects)⟩

end Reroute.Rule
