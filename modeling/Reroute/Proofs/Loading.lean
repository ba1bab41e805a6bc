import Mathlib.Data.List.Forall2
import Reroute.Engine

/-!
# Where rules come from

Rules are built from drafts, read from directive lines or from a rewrite section, or made by the
engine for a pattern and a replacement. All of these go through a draft that is finished in the end,
so what is checked there has been checked for every rule.

Results:
1. `bind_ok_iff`, `map_ok_iff`, `mapError_ok_iff`, `mapM_ok_mem`: readers that succeed;
   `bind_error_iff`, `map_error_iff`, `mapError_error_iff`: readers that fail;
   `mapM_ok_iff`, `mapM_succeeds_iff`, `mapM_error_iff`: what a traversal reads, and where it fails.
2. `readLines_compiled`, `readRules_compiled`: the lines and the elements that rules are read from;
   `readLines_built`, `readRules_built`: rules read from texts.
3. `Loaded.built`: every rule is a finished draft.
-/

namespace Reroute

/-! ## 1. Readers that succeed or fail -/

section Outcomes

variable {ε ε' α β : Type}

theorem bind_ok_iff {x : Except ε α} {f : α → Except ε β} {b : β} :
    x >>= f = .ok b ↔ ∃ a, x = .ok a ∧ f a = .ok b := by
  cases x with
  | error e => simp [bind, Except.bind]
  | ok a => simp [bind, Except.bind]

theorem map_ok_iff {x : Except ε α} {f : α → β} {b : β} :
    x.map f = .ok b ↔ ∃ a, x = .ok a ∧ f a = b := by
  cases x with
  | error e => simp [Except.map]
  | ok a => simp [Except.map]

theorem mapError_ok_iff {x : Except ε α} {f : ε → ε'} {a : α} :
    x.mapError f = .ok a ↔ x = .ok a := by
  cases x with
  | error e => simp [Except.mapError]
  | ok a => simp [Except.mapError]

theorem bind_error_iff {x : Except ε α} {f : α → Except ε β} {e : ε} :
    x >>= f = .error e ↔ x = .error e ∨ ∃ a, x = .ok a ∧ f a = .error e := by
  cases x with
  | error e => simp [bind, Except.bind]
  | ok a => simp [bind, Except.bind]

theorem map_error_iff {x : Except ε α} {f : α → β} {e : ε} :
    x.map f = .error e ↔ x = .error e := by
  cases x with
  | error e => simp [Except.map]
  | ok a => simp [Except.map]

theorem mapError_error_iff {x : Except ε α} {f : ε → ε'} {e' : ε'} :
    x.mapError f = .error e' ↔ ∃ e, x = .error e ∧ f e = e' := by
  cases x with
  | error e => simp [Except.mapError]
  | ok a => simp [Except.mapError]

/-- What a traversal reads comes from one of its elements. -/
theorem mapM_ok_mem {f : α → Except ε β} {xs : List α} {ys : List β} (h : xs.mapM f = .ok ys)
    {y : β} (member : y ∈ ys) : ∃ x ∈ xs, f x = .ok y := by
  induction xs generalizing ys with
  | nil =>
    cases h
    cases member
  | cons x rest ih =>
    rw [List.mapM_cons, bind_ok_iff] at h
    obtain ⟨first, reads, h⟩ := h
    obtain ⟨more, others, h⟩ := bind_ok_iff.mp h
    cases h
    rcases List.mem_cons.mp member with rfl | later
    · exact ⟨x, List.mem_cons_self, reads⟩
    · obtain ⟨z, within, found⟩ := ih others later
      exact ⟨z, List.mem_cons_of_mem _ within, found⟩

/-- A traversal that succeeds reads one thing from each element. -/
theorem mapM_ok_iff {f : α → Except ε β} {xs : List α} {ys : List β} :
    xs.mapM f = .ok ys ↔ List.Forall₂ (fun x y => f x = .ok y) xs ys := by
  induction xs generalizing ys with
  | nil => simp [pure, Except.pure, eq_comm]
  | cons x rest ih =>
    rw [List.mapM_cons, List.forall₂_cons_left_iff, bind_ok_iff]
    constructor
    · rintro ⟨y, here, others⟩
      obtain ⟨more, later, same⟩ := bind_ok_iff.mp others
      cases same
      exact ⟨y, more, here, ih.mp later, rfl⟩
    · rintro ⟨y, more, here, later, rfl⟩
      exact ⟨y, here, bind_ok_iff.mpr ⟨more, ih.mpr later, rfl⟩⟩

/-- A traversal succeeds if all elements do. -/
theorem mapM_succeeds_iff {f : α → Except ε β} {xs : List α} :
    (∃ ys, xs.mapM f = .ok ys) ↔ ∀ x ∈ xs, ∃ y, f x = .ok y := by
  induction xs with
  | nil => simp [pure, Except.pure]
  | cons x rest ih =>
    rw [List.forall_mem_cons, ← ih]
    constructor
    · rintro ⟨ys, reads⟩
      rw [mapM_ok_iff] at reads
      cases reads with
      | cons here others => exact ⟨⟨_, here⟩, _, mapM_ok_iff.mpr others⟩
    · rintro ⟨⟨y, here⟩, ys, others⟩
      exact ⟨y :: ys, mapM_ok_iff.mpr (.cons here (mapM_ok_iff.mp others))⟩

/-- A traversal that fails does so at its first element that fails. -/
theorem mapM_error_iff {f : α → Except ε β} {xs : List α} {e : ε} :
    xs.mapM f = .error e ↔
      ∃ front x back, xs = front ++ x :: back ∧ (∀ y ∈ front, ∃ b, f y = .ok b) ∧
        f x = .error e := by
  induction xs with
  | nil => simp [pure, Except.pure]
  | cons x rest ih =>
    rw [List.mapM_cons]
    cases here : f x with
    | error e' =>
      constructor
      · intro same
        cases same
        exact ⟨[], x, rest, rfl, by simp, here⟩
      · rintro ⟨_ | ⟨y, front⟩, z, back, whole, before, fails⟩
        · cases whole
          rw [← here, fails]
          rfl
        · cases whole
          obtain ⟨b, succeeds⟩ := before x List.mem_cons_self
          rw [here] at succeeds
          cases succeeds
    | ok b =>
      have later : (do let first ← Except.ok b; let more ← rest.mapM f; pure (first :: more)) =
          (.error e : Except ε (List β)) ↔ rest.mapM f = .error e := by
        cases rest.mapM f <;> simp [bind, Except.bind, pure, Except.pure]
      rw [later, ih]
      constructor
      · rintro ⟨front, z, back, rfl, before, fails⟩
        exact ⟨x :: front, z, back, rfl, List.forall_mem_cons.mpr ⟨⟨b, here⟩, before⟩, fails⟩
      · rintro ⟨_ | ⟨y, front⟩, z, back, whole, before, fails⟩
        · cases whole
          rw [here] at fails
          cases fails
        · cases whole
          exact ⟨front, z, back, rfl, (List.forall_mem_cons.mp before).2, fails⟩

end Outcomes

/-- The rule is a finished draft. -/
def Rule.Built (rule : Rule) : Prop :=
  ∃ (d : RuleDraft) (isGlobal : Bool), d.build isGlobal = .ok rule

/-! ## 2. Texts -/

namespace Directive

theorem compile_built {line : RuleLine} {conditions : List Condition} {enabled : Bool}
    {options : RuleOptions} {rule : Rule}
    (h : line.compile conditions enabled options = .ok rule) : rule.Built := by
  simp only [RuleLine.compile, bind_ok_iff, mapError_ok_iff] at h
  obtain ⟨_, _, _, _, finished⟩ := h
  exact ⟨_, _, finished⟩

/-- Every rule of a text is compiled from one of its lines. -/
theorem readLines_compiled {options : RuleOptions} {number : Nat} {pending : Pending}
    {lines : List String} {rules : List Rule}
    (h : readLines options number pending lines = .ok rules) {rule : Rule}
    (member : rule ∈ rules) :
    ∃ raw ∈ lines, ∃ line conditions enabled, read (Text.trim raw) = .ok (.rule line) ∧
      line.compile conditions enabled options = .ok rule := by
  induction lines generalizing number pending rules with
  | nil =>
    unfold readLines at h
    split at h
    · cases h
      cases member
    · cases h
  | cons raw rest ih =>
    have later : ∀ {number pending rules}, readLines options number pending rest = .ok rules →
        rule ∈ rules →
        ∃ raw' ∈ raw :: rest, ∃ line conditions enabled, read (Text.trim raw') = .ok (.rule line) ∧
          line.compile conditions enabled options = .ok rule := by
      intro number pending rules reads member
      obtain ⟨raw', within, compiled⟩ := ih reads member
      exact ⟨raw', List.mem_cons_of_mem _ within, compiled⟩
    unfold readLines at h
    dsimp only at h
    split at h
    · exact later h member
    · split at h
      · cases h
      · exact later h member
      · split at h
        · cases h
        · exact later h member
      · next line read =>
        split at h
        · cases h
        · next compiled compiles =>
          obtain ⟨others, reads, rfl⟩ := map_ok_iff.mp h
          rcases List.mem_cons.mp member with rfl | behind
          · exact ⟨raw, List.mem_cons_self, line, _, _, read, compiles⟩
          · exact later reads behind

theorem readLines_built {options : RuleOptions} {number : Nat} {pending : Pending}
    {lines : List String} {rules : List Rule}
    (h : readLines options number pending lines = .ok rules) {rule : Rule}
    (member : rule ∈ rules) : rule.Built := by
  obtain ⟨_, _, _, _, _, _, compiles⟩ := readLines_compiled h member
  exact compile_built compiles

end Directive

namespace RewriteSection

open Reroute.Markup

theorem enabledRule_build {tables : LookupTables} {options : RuleOptions} {isGlobal : Bool}
    {e : Element} {rule : Rule} (h : enabledRule tables options isGlobal e = .ok rule) :
    ∃ d : RuleDraft, d.build isGlobal = .ok rule := by
  simp only [enabledRule, bind_ok_iff] at h
  obtain ⟨_, _, _, _, _, _, _, _, _, _, _, _, _, _, _, _, h⟩ := h
  cases guards : e.child? "conditions" with
  | none =>
    simp only [guards, bind_ok_iff, mapError_ok_iff] at h
    obtain ⟨_, _, _, _, finished⟩ := h
    exact ⟨_, finished⟩
  | some conditions =>
    simp only [guards, bind_ok_iff, mapError_ok_iff] at h
    obtain ⟨_, _, _, _, finished⟩ := h
    exact ⟨_, finished⟩

/-- The rule is that of an enabled rule element. -/
def Compiled (options : RuleOptions) (rule : Rule) : Prop :=
  ∃ tables isGlobal e, enabledRule tables options isGlobal e = .ok rule

theorem rulesOf_compiled {tables : LookupTables} {options : RuleOptions} {isGlobal : Bool}
    {elements : List Element} {rules : List Rule}
    (h : rulesOf tables options isGlobal elements = .ok rules) {one : Rule}
    (member : one ∈ rules) : Compiled options one := by
  obtain ⟨read, reads, rfl⟩ := map_ok_iff.mp h
  obtain ⟨found, within, same⟩ := List.mem_filterMap.mp member
  obtain rfl : found = some one := same
  obtain ⟨e, _, makes⟩ := mapM_ok_mem reads within
  simp only [rule, bind_ok_iff] at makes
  obtain ⟨enabled, _, makes⟩ := makes
  cases enabled with
  | false => cases makes
  | true =>
    obtain ⟨_, compiles, made⟩ := map_ok_iff.mp makes
    cases made
    exact ⟨tables, isGlobal, e, compiles⟩

/-- Every rule of a document is that of an enabled rule element. -/
theorem readRules_compiled {text : String} {tables : LookupTables} {options : RuleOptions}
    {rules : List Rule} (h : readRules text tables options = .ok rules) {one : Rule}
    (member : one ∈ rules) : Compiled options one := by
  unfold readRules at h
  split at h
  · cases h
  · split at h
    · cases h
      cases member
    · simp only [mapError_ok_iff, rulesIn, bind_ok_iff, Except.ok.injEq] at h
      obtain ⟨_, _, global, readsGlobal, others, readsOthers, rfl⟩ := h
      rcases List.mem_append.mp member with first | second
      · exact rulesOf_compiled readsGlobal first
      · exact rulesOf_compiled readsOthers second

theorem readRules_built {text : String} {tables : LookupTables} {options : RuleOptions}
    {rules : List Rule} (h : readRules text tables options = .ok rules) {one : Rule}
    (member : one ∈ rules) : one.Built := by
  obtain ⟨_, isGlobal, _, compiles⟩ := readRules_compiled h member
  obtain ⟨d, finished⟩ := enabledRule_build compiles
  exact ⟨d, isGlobal, finished⟩

end RewriteSection

/-! ## 3. All rules -/

/-- A redirect of the engine has been checked for its status. -/
theorem Engine.checkStatus_ok {status : Nat} {done : Unit}
    (checked : checkStatus status = .ok done) : 300 ≤ status ∧ status < 400 := by
  unfold checkStatus at checked
  split at checked
  · assumption
  · cases checked

/-- The ways to a rule: a finished draft, texts of directive lines, documents with a rewrite
section, and the engine's own rules for a pattern and for the encrypted scheme. -/
inductive Rule.Loaded : Rule → Prop
  | draft {d : RuleDraft} {isGlobal : Bool} {rule : Rule} :
      d.build isGlobal = .ok rule → Rule.Loaded rule
  | directives {text : String} {options : RuleOptions} {rules : List Rule} {rule : Rule} :
      Directive.readRules text options = .ok rules → rule ∈ rules → Rule.Loaded rule
  | document {text : String} {tables : LookupTables} {options : RuleOptions}
      {rules : List Rule} {rule : Rule} :
      RewriteSection.readRules text tables options = .ok rules → rule ∈ rules → Rule.Loaded rule
  | pattern {options : RuleOptions} {pattern replacement : String} {kind : ActionKind}
      {last : Bool} {rule : Rule} :
      Engine.patternRule options pattern replacement kind last = .ok rule → Rule.Loaded rule
  | https {options : RuleOptions} {status : Nat} {rule : Rule} :
      Engine.httpsRule options status = .ok rule → Rule.Loaded rule

theorem Rule.Loaded.built {rule : Rule} (loaded : rule.Loaded) : rule.Built := by
  cases loaded with
  | draft finished => exact ⟨_, _, finished⟩
  | directives reads member => exact Directive.readLines_built reads member
  | document reads member => exact RewriteSection.readRules_built reads member
  | pattern makes =>
    simp only [Engine.patternRule, bind_ok_iff] at makes
    obtain ⟨_, _, _, _, finished⟩ := makes
    exact ⟨_, _, finished⟩
  | https makes =>
    simp only [Engine.httpsRule, bind_ok_iff] at makes
    obtain ⟨_, _, _, _, finished⟩ := makes
    exact ⟨_, _, finished⟩

end Reroute
