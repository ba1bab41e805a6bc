import Reroute.Engine
import Reroute.Proofs.Actions

/-!
# Lists of rules

A run of rules is described by the evaluations it makes, each with the position of its rule in the
list and the request it was given (`Trace`). Where a run goes on is said in positions: behind a
rule that was not applied with the next one, behind an applied one after as many rules as it
skips, enabled or not. The run itself counts down the rules that are still to be left out, and
never sees a position.

Results:
1. `runActions_resolution`, `apply_resolution`: only a rule that halts gives an answer.
2. `trace_iff`: every list of rules has exactly one trace from a request, and it ends in the
   request that the run leaves.
3. `runFrom_append`, `runFrom_skip`, `runAll_append`: a run over two lists put together.
4. `apply_append`: the engine on two lists put together.
-/

namespace Reroute

/-! ## 1. Answers -/

/-- An action ends the request by an answer, and any other leaves the answer as it is. -/
theorem Action.apply_resolution {a : Action} {request next : Request} {captures : Captures}
    {isGlobal : Bool} {flow : ActionFlow}
    (h : a.apply request captures isGlobal = .ok (flow, next)) :
    (flow = .halt → next.resolution.isSome = true) ∧
      (flow ≠ .halt → next.resolution = request.resolution) := by
  cases Action.effect h with
  | keeps => exact ⟨fun halts => absurd halts a.going_ne_halt, fun _ => rfl⟩
  | rewrites =>
    exact ⟨fun halts => absurd halts a.going_ne_halt, fun _ => Action.retarget_resolution _ _ _⟩
  | redirects | answers => exact ⟨fun _ => rfl, fun goesOn => absurd rfl goesOn⟩

namespace Rule

theorem runActions_resolution (captures : Captures) (isGlobal : Bool) (actions : List Action)
    (request : Request) :
    ((runActions captures isGlobal actions request).1 = .halted →
        (runActions captures isGlobal actions request).2.resolution.isSome = true) ∧
      ((runActions captures isGlobal actions request).1 ≠ .halted →
        (runActions captures isGlobal actions request).2.resolution = request.resolution) := by
  induction actions generalizing request with
  | nil => simp [runActions]
  | cons a rest ih =>
    rw [runActions]
    cases taken : a.apply request captures isGlobal with
    | error e => simp
    | ok outcome =>
      obtain ⟨flow, next⟩ := outcome
      have answer := Action.apply_resolution taken
      cases flow with
      | next =>
        have kept := answer.2 (by simp)
        simpa only [kept] using ih next
      | stop => exact ⟨fun halts => by simp at halts, fun _ => answer.2 (by simp)⟩
      | halt => exact ⟨fun _ => answer.1 rfl, fun goesOn => absurd rfl goesOn⟩

theorem apply_resolution (rule : Rule) (request : Request) :
    ((rule.apply request).1 = .halted → (rule.apply request).2.resolution.isSome = true) ∧
      ((rule.apply request).1 ≠ .halted →
        (rule.apply request).2.resolution = request.resolution) := by
  unfold Rule.apply
  split
  · simp
  · split
    · simp
    · exact runActions_resolution _ _ _ _

/-! ## 2. Traces -/

/-- An evaluation of a rule in a run. -/
structure Visit where
  position : Nat
  rule : Rule
  before : Request

namespace Visit

def flow (v : Visit) : RuleFlow := (v.rule.apply v.before).1

def after (v : Visit) : Request := (v.rule.apply v.before).2

/-- Whether the run ends with this evaluation: by an answer, or by an applied rule with `last`. -/
def ends (v : Visit) : Bool := v.flow == .halted || (v.flow == .applied && v.rule.last)

/-- How many rules are left out behind this one. -/
def skips (v : Visit) : Nat := if v.flow = .applied then v.rule.skip else 0

/-- The position from which the run goes on. -/
def next (v : Visit) : Nat := v.position + 1 + v.skips

end Visit

/-- The rule at `position` is the first enabled one from `start` on. -/
structure IsNext (rules : List Rule) (start position : Nat) (rule : Rule) : Prop where
  from_start : start ≤ position
  at_position : rules[position]? = some rule
  enabled : rule.enabled = true
  passed : ∀ p other, start ≤ p → p < position → rules[p]? = some other → other.enabled = false

/-- `Trace rules start request visits final`: from the position `start` on, the rules make the
evaluations `visits`, beginning with `request`, and leave `final`. -/
inductive Trace (rules : List Rule) : Nat → Request → List Visit → Request → Prop
  | done {start : Nat} {request : Request} :
      (∀ p rule, start ≤ p → rules[p]? = some rule → rule.enabled = false) →
      Trace rules start request [] request
  | ended {start position : Nat} {rule : Rule} {request : Request} :
      IsNext rules start position rule → Visit.ends ⟨position, rule, request⟩ = true →
      Trace rules start request [⟨position, rule, request⟩]
        (Visit.after ⟨position, rule, request⟩)
  | passed {start position : Nat} {rule : Rule} {request final : Request} {rest : List Visit} :
      IsNext rules start position rule → Visit.ends ⟨position, rule, request⟩ = false →
      Trace rules (Visit.next ⟨position, rule, request⟩)
        (Visit.after ⟨position, rule, request⟩) rest final →
      Trace rules start request (⟨position, rule, request⟩ :: rest) final

theorem IsNext.unique {rules : List Rule} {start p q : Nat} {a b : Rule}
    (first : IsNext rules start p a) (second : IsNext rules start q b) : p = q ∧ a = b := by
  have same : p = q := by
    rcases Nat.lt_trichotomy p q with before | same | behind
    · have off := second.passed p a first.from_start before first.at_position
      rw [first.enabled] at off
      cases off
    · exact same
    · have off := first.passed q b second.from_start behind second.at_position
      rw [second.enabled] at off
      cases off
  subst same
  refine ⟨rfl, Option.some.inj ?_⟩
  rw [← first.at_position, second.at_position]

/-- Where a rule is next, not all rules are disabled. -/
theorem IsNext.not_off {rules : List Rule} {start position : Nat} {rule : Rule}
    (isNext : IsNext rules start position rule) :
    ¬ ∀ p other, start ≤ p → rules[p]? = some other → other.enabled = false := by
  intro off
  have disabled := off position rule isNext.from_start isNext.at_position
  rw [isNext.enabled] at disabled
  cases disabled

theorem Trace.unique {rules : List Rule} {start : Nat} {request final other : Request}
    {visits more : List Visit} (trace : Trace rules start request visits final)
    (again : Trace rules start request more other) : visits = more ∧ final = other := by
  induction trace generalizing more other with
  | done off =>
    cases again with
    | done => exact ⟨rfl, rfl⟩
    | ended isNext _ | passed isNext _ _ => exact absurd off isNext.not_off
  | ended isNext ends =>
    cases again with
    | done off => exact absurd off isNext.not_off
    | ended isNext' _ =>
      obtain ⟨rfl, rfl⟩ := isNext.unique isNext'
      exact ⟨rfl, rfl⟩
    | passed isNext' goesOn _ =>
      obtain ⟨rfl, rfl⟩ := isNext.unique isNext'
      rw [ends] at goesOn
      cases goesOn
  | passed isNext goesOn _ ih =>
    cases again with
    | done off => exact absurd off isNext.not_off
    | ended isNext' ends =>
      obtain ⟨rfl, rfl⟩ := isNext.unique isNext'
      rw [ends] at goesOn
      cases goesOn
    | passed isNext' _ rest =>
      obtain ⟨rfl, rfl⟩ := isNext.unique isNext'
      obtain ⟨rfl, rfl⟩ := ih rest
      exact ⟨rfl, rfl⟩

/-- A disabled rule is passed without an evaluation. -/
theorem Trace.over_disabled {rules : List Rule} {start : Nat} {rule : Rule}
    {request final : Request} {visits : List Visit} (at_start : rules[start]? = some rule)
    (off : rule.enabled = false) (trace : Trace rules (start + 1) request visits final) :
    Trace rules start request visits final := by
  have widen : ∀ {p : Nat} {r : Rule}, IsNext rules (start + 1) p r → IsNext rules start p r := by
    intro p r isNext
    refine ⟨Nat.le_of_succ_le isNext.from_start, isNext.at_position, isNext.enabled, ?_⟩
    intro q other from_start before at_q
    rcases Nat.eq_or_lt_of_le from_start with rfl | behind
    · rw [at_start] at at_q
      cases at_q
      exact off
    · exact isNext.passed q other behind before at_q
  cases trace with
  | done rest =>
    refine .done fun p r from_start at_p => ?_
    rcases Nat.eq_or_lt_of_le from_start with rfl | behind
    · rw [at_start] at at_p
      cases at_p
      exact off
    · exact rest p r behind at_p
  | ended isNext ends => exact .ended (widen isNext) ends
  | passed isNext goesOn rest => exact .passed (widen isNext) goesOn rest

/-- The evaluations that a run makes over rules that stand from `position` on, when the first
`skip` of them are left out. -/
def visitsFrom : List Rule → Nat → Nat → Request → List Visit
  | [], _, _, _ => []
  | _ :: rest, position, skip + 1, request => visitsFrom rest (position + 1) skip request
  | rule :: rest, position, 0, request =>
    if rule.enabled then
      let v : Visit := ⟨position, rule, request⟩
      v :: if v.ends then [] else visitsFrom rest (position + 1) v.skips v.after
    else visitsFrom rest (position + 1) 0 request

/-- The evaluations of a run over a list of rules. -/
def visits (rules : List Rule) (request : Request) : List Visit := visitsFrom rules 0 0 request

/-- One step of a run at an enabled rule. -/
theorem runFrom_visit {rule : Rule} (enabled : rule.enabled = true) (position : Nat)
    (rest : List Rule) (request : Request) :
    runFrom (rule :: rest) 0 request =
      if Visit.ends ⟨position, rule, request⟩ then
        (if (rule.apply request).1 = .halted then .halted else .last, (rule.apply request).2)
      else
        runFrom rest (Visit.skips ⟨position, rule, request⟩) (rule.apply request).2 := by
  rw [runFrom, if_neg (by simp [enabled])]
  cases outcome : rule.apply request with
  | mk flow next =>
    cases flow with
    | notMatched | halted => simp [Visit.ends, Visit.skips, Visit.flow, outcome]
    | applied =>
      cases last : rule.last <;> simp [Visit.ends, Visit.skips, Visit.flow, outcome, last]

/-- The evaluations are a trace, from the first position that is not to be left out. -/
theorem trace_visitsFrom (front rest : List Rule) (skip : Nat) (request : Request) :
    Trace (front ++ rest) (front.length + skip) request
      (visitsFrom rest front.length skip request) (runFrom rest skip request).2 := by
  -- The rules in `front` have been passed; they only give the positions of the others.
  induction rest generalizing front skip request with
  | nil =>
    refine .done fun p rule from_start at_p => ?_
    rw [List.getElem?_eq_none (by simp; omega)] at at_p
    cases at_p
  | cons rule rest ih =>
    have behind := ih (front ++ [rule])
    rw [List.append_assoc, List.length_append] at behind
    have at_front : (front ++ rule :: rest)[front.length]? = some rule := by simp
    cases skip with
    | succ skip =>
      have shifted := behind skip request
      rw [show front.length + [rule].length + skip = front.length + (skip + 1) by simp; omega]
        at shifted
      exact shifted
    | zero =>
      cases enabled : rule.enabled with
      | false =>
        simp only [visitsFrom, runFrom, enabled]
        exact .over_disabled at_front enabled (behind 0 request)
      | true =>
        have isNext : IsNext (front ++ rule :: rest) front.length front.length rule :=
          ⟨Nat.le_refl _, at_front, enabled, fun p _ from_start before _ =>
            absurd before (Nat.not_lt.mpr from_start)⟩
        rw [runFrom_visit enabled front.length, visitsFrom, if_pos enabled]
        dsimp only
        cases ends : Visit.ends ⟨front.length, rule, request⟩ with
        | true => exact .ended isNext ends
        | false => exact .passed isNext ends (behind _ _)

/-- A list of rules has exactly one trace from a request: its evaluations, which leave the
request that the run leaves. -/
theorem trace_iff {rules : List Rule} {request final : Request} {made : List Visit} :
    Trace rules 0 request made final ↔
      made = visits rules request ∧ final = runAll rules request := by
  have trace : Trace rules 0 request (visits rules request) (runAll rules request) :=
    trace_visitsFrom [] rules 0 request
  constructor
  · intro other
    exact other.unique trace
  · rintro ⟨rfl, rfl⟩
    exact trace

theorem Trace.resolution {rules : List Rule} {start : Nat} {request final : Request}
    {made : List Visit} (trace : Trace rules start request made final)
    (fresh : request.resolution = none) :
    (final.resolution.isSome = true ↔ ∃ v ∈ made, v.flow = .halted) ∧
      ∀ v ∈ made, v.flow = .halted → made.getLast? = some v := by
  induction trace with
  | done => simp [fresh]
  | @ended start position rule request _ _ =>
    have answer := apply_resolution rule request
    refine ⟨?_, by simp⟩
    simp only [List.mem_singleton, exists_eq_left]
    constructor
    · intro answered
      refine Decidable.byContradiction fun goesOn => ?_
      rw [show (Visit.after ⟨position, rule, request⟩).resolution = none from
        (answer.2 goesOn).trans fresh] at answered
      cases answered
    · exact answer.1
  | @passed start position rule request final rest _ goesOn _ ih =>
    have notHalted : Visit.flow ⟨position, rule, request⟩ ≠ .halted := by
      intro halts
      simp [Visit.ends, halts] at goesOn
    obtain ⟨answered, last⟩ := ih (((apply_resolution rule request).2 notHalted).trans fresh)
    constructor
    · rw [answered]
      simp [notHalted]
    · rintro v (_ | ⟨_, later⟩) halts
      · exact absurd halts notHalted
      · rw [List.getLast?_cons, last v later halts]
        rfl

/-! ## 3. Two lists put together -/

theorem runFrom_append (first second : List Rule) (skip : Nat) (request : Request) :
    runFrom (first ++ second) skip request =
      match runFrom first skip request with
      | (.exhausted left, request) => runFrom second left request
      | stopped => stopped := by
  induction first generalizing skip request with
  | nil => rfl
  | cons rule rest ih =>
    cases skip with
    | succ skip => exact ih skip request
    | zero =>
      cases enabled : rule.enabled with
      | false =>
        simp only [List.cons_append, runFrom, enabled]
        exact ih 0 request
      | true =>
        rw [List.cons_append, runFrom_visit enabled 0, runFrom_visit enabled 0]
        cases Visit.ends ⟨0, rule, request⟩ with
        | true => cases (rule.apply request).1 <;> rfl
        | false => exact ih _ _

/-- Leaving out rules is the same as not having them. -/
theorem runFrom_skip (rules : List Rule) (skip : Nat) (request : Request) :
    (runFrom rules skip request).2 = runAll (rules.drop skip) request := by
  induction rules generalizing skip with
  | nil => cases skip <;> rfl
  | cons rule rest ih =>
    cases skip with
    | zero => rfl
    | succ skip => exact ih skip

/-- The last evaluation of a run whose rule was applied. -/
def lastApplied (made : List Visit) : Option Visit :=
  (made.filter fun v => v.flow = .applied).getLast?

/-- How many rules behind a list of `length` rules a run still leaves out: as many as the skip
of the last applied rule reaches past the end. -/
def overshoot (length : Nat) (made : List Visit) : Nat :=
  match lastApplied made with
  | none => 0
  | some v => v.position + 1 + v.rule.skip - length

/-- The position before which a run that begins at `start` evaluates nothing more. -/
def reach (start : Nat) (made : List Visit) : Nat :=
  match lastApplied made with
  | none => start
  | some v => v.position + 1 + v.rule.skip

theorem reach_cons_applied {v : Visit} (applied : v.flow = .applied) (start : Nat)
    (rest : List Visit) : reach start (v :: rest) = reach v.next rest := by
  have next : v.next = v.position + 1 + v.rule.skip := by simp [Visit.next, Visit.skips, applied]
  rw [reach, reach, lastApplied, lastApplied, List.filter_cons_of_pos (by simp [applied]),
    List.getLast?_cons, next]
  cases (rest.filter fun v => v.flow = .applied).getLast? <;> rfl

theorem reach_cons_passed {v : Visit} (passed : v.flow ≠ .applied) (start : Nat)
    (rest : List Visit) : reach start (v :: rest) = reach start rest := by
  rw [reach, reach, lastApplied, lastApplied, List.filter_cons_of_neg (by simp [passed])]

/-- Where a run begins does not matter for what it reaches past a place behind. -/
theorem reach_sub {start other place : Nat} (before : start ≤ place) (also : other ≤ place)
    (made : List Visit) : reach start made - place = reach other made - place := by
  unfold reach
  cases lastApplied made with
  | none => simp only []; omega
  | some v => rfl

theorem runFrom_exhausted (rules : List Rule) (position skip : Nat) (request : Request)
    (goesOn : (visitsFrom rules position skip request).any Visit.ends = false) :
    (runFrom rules skip request).1 = .exhausted
      (reach (position + skip) (visitsFrom rules position skip request) -
        (position + rules.length)) := by
  -- The run counts `skip` down while the positions go up, so what it reaches stays in place.
  induction rules generalizing position skip request with
  | nil => simp [runFrom, visitsFrom, reach, lastApplied]
  | cons rule rest ih =>
    have length : position + (rule :: rest).length = position + 1 + rest.length := by
      rw [List.length_cons]
      omega
    have beside : ∀ made, reach (position + 1 + 0) made - (position + 1 + rest.length) =
        reach (position + 0) made - (position + 1 + rest.length) :=
      reach_sub (by omega) (by omega)
    rw [length]
    cases skip with
    | succ skip =>
      rw [runFrom, ih (position + 1) skip request goesOn, visitsFrom, Nat.add_right_comm]
      rfl
    | zero =>
      cases enabled : rule.enabled with
      | false =>
        simp only [visitsFrom, runFrom, enabled, Bool.not_false, ↓reduceIte,
          Bool.false_eq_true] at goesOn ⊢
        rw [ih (position + 1) 0 request goesOn, beside]
      | true =>
        simp only [visitsFrom, enabled, ↓reduceIte, List.any_cons, Bool.or_eq_false_iff]
          at goesOn ⊢
        obtain ⟨ongoing, later⟩ := goesOn
        rw [runFrom_visit enabled position]
        simp only [ongoing, Bool.false_eq_true, ↓reduceIte] at later ⊢
        rw [show (rule.apply request).2 = Visit.after ⟨position, rule, request⟩ from rfl,
          ih (position + 1) _ _ later]
        by_cases applied : Visit.flow ⟨position, rule, request⟩ = .applied
        · rw [reach_cons_applied applied]
          rfl
        · have skips : Visit.skips ⟨position, rule, request⟩ = 0 := if_neg applied
          rw [reach_cons_passed applied, skips, beside]

theorem runFrom_ended (rules : List Rule) (position skip : Nat) (request : Request)
    (ends : (visitsFrom rules position skip request).any Visit.ends = true) (left : Nat) :
    (runFrom rules skip request).1 ≠ .exhausted left := by
  induction rules generalizing position skip request with
  | nil => simp [visitsFrom] at ends
  | cons rule rest ih =>
    cases skip with
    | succ skip => exact ih (position + 1) skip request ends
    | zero =>
      cases enabled : rule.enabled with
      | false =>
        simp only [visitsFrom, runFrom, enabled] at ends ⊢
        exact ih (position + 1) 0 request ends
      | true =>
        simp only [visitsFrom, enabled, ↓reduceIte, List.any_cons] at ends
        rw [runFrom_visit enabled position]
        cases here : Visit.ends ⟨position, rule, request⟩ with
        | true => cases (rule.apply request).1 <;> simp
        | false =>
          simp only [here, Bool.false_or, Bool.false_eq_true, ↓reduceIte] at ends
          exact ih (position + 1) _ _ ends

theorem overshoot_eq_reach (length : Nat) (made : List Visit) :
    overshoot length made = reach 0 made - length := by
  unfold overshoot reach
  cases lastApplied made with
  | none => exact (Nat.zero_sub length).symm
  | some v => rfl

theorem runAll_append (first second : List Rule) (request : Request) :
    runAll (first ++ second) request =
      if (visits first request).any Visit.ends then runAll first request
      else runAll (second.drop (overshoot first.length (visits first request)))
        (runAll first request) := by
  rw [runAll, runFrom_append, runAll, ← runFrom_skip, overshoot_eq_reach]
  cases ends : (visits first request).any Visit.ends with
  | true =>
    have ended := runFrom_ended first 0 0 request ends
    rw [if_pos rfl]
    split
    · rename_i left last run
      rw [run] at ended
      exact absurd rfl (ended left)
    · rfl
  | false =>
    have exhausted := runFrom_exhausted first 0 0 request ends
    simp only [Nat.zero_add] at exhausted
    rw [if_neg Bool.false_ne_true, visits]
    cases run : runFrom first 0 request with
    | mk ending last =>
      rw [run] at exhausted
      subst exhausted
      rfl

end Rule

/-! ## 4. The engine -/

open Rule in
/-- The evaluations of an engine are the one trace of its rules. An engine with two lists of rules
put together does what the engine with the first list does and, unless that run has ended early,
what the engine with the second list does then, without the rules that a skip reaches. An answer
is there exactly if a rule has halted, and that rule is the last one evaluated. -/
theorem Engine.apply_append (options : RuleOptions) (first second : List Rule)
    (request : Request) (fresh : request.resolution = none) :
    (∀ made final, Trace first 0 request made final ↔
      made = visits first request ∧ final = Engine.apply ⟨first, options⟩ request) ∧
    Engine.apply ⟨first ++ second, options⟩ request =
      (if (visits first request).any Visit.ends then Engine.apply ⟨first, options⟩ request
        else Engine.apply ⟨second.drop (overshoot first.length (visits first request)), options⟩
          (Engine.apply ⟨first, options⟩ request)) ∧
    ((Engine.apply ⟨first, options⟩ request).resolution.isSome = true ↔
      ∃ v ∈ visits first request, v.flow = .halted) ∧
    (∀ v ∈ visits first request, v.flow = .halted →
      (visits first request).getLast? = some v) := by
  have trace : Trace first 0 request (visits first request) (runAll first request) :=
    trace_iff.mpr ⟨rfl, rfl⟩
  exact ⟨fun _ _ => trace_iff, runAll_append first second request, trace.resolution fresh⟩

/-- A rule that takes one action on the path `/a`. -/
def exRule (kind : ActionKind) (url : String) : Rule :=
  { initialMatch := .exact "/a" false false, actions := [{ kind, url := Template.literal url }] }

/-- An applied rule that leaves out three more, and a disabled one. -/
def exSkipping : List Rule :=
  [{ exRule .keep "" with skip := 3 }, { exRule .gone "" with enabled := false }]

/-- Of these rules the first two are left out, a disabled one among them. -/
def exRemaining : List Rule :=
  [{ exRule .forbidden "" with enabled := false }, exRule .forbidden "",
    exRule (.redirect 302) "/b"]

theorem apply_append_skipping :
    (Request.ofUrl "/a").resolution = none ∧
    Engine.apply ⟨exSkipping ++ exRemaining, {}⟩ (Request.ofUrl "/a") =
      Engine.apply ⟨exRemaining.drop 2, {}⟩
        (Engine.apply ⟨exSkipping, {}⟩ (Request.ofUrl "/a")) ∧
    (Engine.apply ⟨exSkipping, {}⟩ (Request.ofUrl "/a")).resolution = none ∧
    (Engine.apply ⟨exSkipping ++ exRemaining, {}⟩ (Request.ofUrl "/a")).resolution =
      some (.redirect 302 "/b") :=
  ⟨rfl, (Engine.apply_append {} exSkipping exRemaining (Request.ofUrl "/a") rfl).2.1, rfl, rfl⟩

end Reroute
