import Reroute.Proofs.Decision
import Reroute.Proofs.RuleLists

/-!
# The steps of a run

While rules are run the request changes only where an action is taken. So what every action keeps
that is taken in a run holds at every point of it: where a rule is evaluated, where an action is
taken, and at the end.

Results:
1. `Acts`, `Comes`: the actions that are taken in a run, and the requests that it comes to.
2. `Acts.mem`, `Acts.expands`, `Acts.halts`: only rules of the list act, their urls can be expanded,
   and a run ends with an action that halts.
3. `runActions_keeps`, `apply_keeps`, `Trace.keeps`: the actions of a rule, a rule, a run.
4. `Comes.keeps`: what all actions of a run keep holds at all of its points.
-/

namespace Reroute.Rule

/-! ## 1. Points of a run -/

/-- The captures with which the actions of a rule are taken. -/
def Visit.captures (v : Visit) : Captures := (v.rule.guarded v.before).2

/-- In a run of the rules that begins with `request`, the rule of the evaluation `v` takes the
action `a` when the request is `now`. -/
structure Acts (rules : List Rule) (request : Request) (v : Visit) (a : Action) (now : Request) :
    Prop where
  visited : v ∈ visits rules request
  passes : ¬ v.rule.Rejects v.before
  taken : Taken v.captures v.rule.isGlobal v.rule.actions v.before a now

/-- A run of the rules that begins with `request` comes to `now`: a rule is evaluated there, an
action is taken there, or the run ends there. -/
inductive Comes (rules : List Rule) (request : Request) : Request → Prop
  | evaluated {v : Visit} : v ∈ visits rules request → Comes rules request v.before
  | acted {v : Visit} {a : Action} {now : Request} :
      Acts rules request v a now → Comes rules request now
  | ended : Comes rules request (runAll rules request)

/-! ## 2. The actions of a run -/

variable {rules : List Rule} {position : Nat} {request now next final : Request}
  {made : List Visit} {v : Visit} {a : Action}

theorem trace_run (rules : List Rule) (request : Request) :
    Trace rules 0 request (visits rules request) (runAll rules request) :=
  trace_iff.mpr ⟨rfl, rfl⟩

theorem Trace.rule_mem (trace : Trace rules position request made final) :
    ∀ v ∈ made, v.rule ∈ rules := by
  induction trace with
  | done => simp
  | ended isNext _ => simpa using List.mem_of_getElem? isNext.at_position
  | passed isNext _ _ ih =>
    exact List.forall_mem_cons.mpr ⟨List.mem_of_getElem? isNext.at_position, ih⟩

/-- A run takes only actions of its rules. -/
theorem Acts.mem (acts : Acts rules request v a now) : v.rule ∈ rules ∧ a ∈ v.rule.actions :=
  ⟨(trace_run rules request).rule_mem v acts.visited, acts.taken.mem⟩

theorem Taken.halts {captures : Captures} {isGlobal : Bool} {actions : List Action}
    (taken : Taken captures isGlobal actions request a now)
    (halt : a.apply now captures isGlobal = .ok (.halt, next)) :
    runActions captures isGlobal actions request = (.halted, next) := by
  induction taken with
  | first => rw [runActions, halt]
  | later goesOn _ ih =>
    rw [runActions, goesOn]
    exact ih halt

/-- A run leaves what a rule that halts has left. -/
theorem Trace.final_of_halted (trace : Trace rules position request made final) (member : v ∈ made)
    (halted : v.flow = .halted) : final = v.after := by
  induction trace with
  | done => cases member
  | ended =>
    rw [List.mem_singleton.mp member]
  | passed _ goesOn _ ih =>
    -- An evaluation that halts ends the run, so no other lies behind it.
    rcases List.mem_cons.mp member with rfl | later
    · simp [Visit.ends, halted] at goesOn
    · exact ih later

/-- The url of an action that is taken can be expanded. -/
theorem Acts.expands (acts : Acts rules request v a now) :
    ∃ url, a.expandUrl now v.captures v.rule.isGlobal = .ok url := by
  have checked := (apply_of_not_rejects acts.passes).1
  exact Template.expands_of_check
    ((checkActions_ok_iff v.captures v.rule.actions).mp checked a acts.taken.mem) _ rfl

/-- A run ends with an action that halts. -/
theorem Acts.halts (acts : Acts rules request v a now)
    (halt : a.apply now v.captures v.rule.isGlobal = .ok (.halt, next)) :
    runAll rules request = next := by
  have applied : v.rule.apply v.before = (.halted, next) :=
    (apply_of_not_rejects acts.passes).2.trans (acts.taken.halts halt)
  have final : runAll rules request = v.after :=
    (trace_run rules request).final_of_halted acts.visited (congrArg Prod.fst applied)
  rw [final, Visit.after, applied]

/-! ## 3. What is kept -/

variable {P : Request → Prop}

/-- What the actions of a list keep that are taken holds wherever one of them is taken. -/
theorem Taken.keeps {captures : Captures} {isGlobal : Bool} {actions : List Action}
    (taken : Taken captures isGlobal actions request a now)
    (keeps : ∀ b before, Taken captures isGlobal actions request b before → ∀ flow next,
      b.apply before captures isGlobal = .ok (flow, next) → P before → P next)
    (start : P request) : P now := by
  induction taken with
  | first => exact start
  | later goesOn _ ih =>
    refine ih (fun b before next => keeps b before (.later goesOn next)) ?_
    exact keeps _ _ .first _ _ goesOn start

theorem runActions_keeps {captures : Captures} {isGlobal : Bool} {actions : List Action}
    (keeps : ∀ b before, Taken captures isGlobal actions request b before → ∀ flow next,
      b.apply before captures isGlobal = .ok (flow, next) → P before → P next)
    (start : P request) : P (runActions captures isGlobal actions request).2 := by
  induction actions generalizing request with
  | nil => exact start
  | cons a rest ih =>
    rw [runActions]
    cases outcome : a.apply request captures isGlobal with
    | error e => exact start
    | ok step =>
      obtain ⟨flow, next⟩ := step
      have kept : P next := keeps a request .first flow next outcome start
      cases flow with
      | next => exact ih (fun b before later => keeps b before (.later outcome later)) kept
      | stop | halt => exact kept

theorem apply_keeps {rule : Rule}
    (keeps : ¬ rule.Rejects request → ∀ a now,
      Taken (rule.guarded request).2 rule.isGlobal rule.actions request a now → ∀ flow next,
      a.apply now (rule.guarded request).2 rule.isGlobal = .ok (flow, next) → P now → P next)
    (start : P request) : P (rule.apply request).2 := by
  by_cases rejects : rule.Rejects request
  · rw [apply_of_rejects rejects]
    exact start
  · rw [(apply_of_not_rejects rejects).2]
    exact runActions_keeps (keeps rejects) start

theorem Trace.keeps (trace : Trace rules position request made final)
    (keeps : ∀ v ∈ made, P v.before → P v.after) (start : P request) :
    (∀ v ∈ made, P v.before) ∧ P final := by
  induction trace with
  | done => exact ⟨by simp, start⟩
  | ended =>
    obtain ⟨kept, _⟩ := List.forall_mem_cons.mp keeps
    exact ⟨by simpa using start, kept start⟩
  | passed _ _ _ ih =>
    obtain ⟨kept, later⟩ := List.forall_mem_cons.mp keeps
    obtain ⟨befores, last⟩ := ih later (kept start)
    exact ⟨List.forall_mem_cons.mpr ⟨start, befores⟩, last⟩

/-! ## 4. A whole run -/

/-- What holds at first and is kept by every action that a run takes holds wherever it comes. -/
theorem Comes.keeps (comes : Comes rules request now)
    (keeps : ∀ v a before, Acts rules request v a before → ∀ flow next,
      a.apply before v.captures v.rule.isGlobal = .ok (flow, next) → P before → P next)
    (start : P request) : P now := by
  obtain ⟨befores, last⟩ := (trace_run rules request).keeps (P := P)
    (fun v visited => apply_keeps fun passes a before taken =>
      keeps v a before ⟨visited, passes, taken⟩) start
  cases comes with
  | evaluated visited => exact befores _ visited
  | ended => exact last
  | @acted v a _ acts =>
    exact acts.taken.keeps
      (fun b before taken => keeps v b before ⟨acts.visited, acts.passes, taken⟩)
      (befores v acts.visited)

end Reroute.Rule
