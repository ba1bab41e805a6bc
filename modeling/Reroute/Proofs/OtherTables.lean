import Reroute.Proofs.AgreeingTables
import Reroute.Proofs.SectionRules
import Reroute.Proofs.SpelledTemplates

/-!
# What is read with other tables

Tables count for the names in a template and for nothing else. So whatever is read with some tables
is read with others too, unless a name comes up that has no table among these: templates, conditions
and actions, and in the end the rules of a section.

Results:
1. `Follows`: an outcome beside another one that may fail where this one does not.
2. `ofBraced_follows`: templates.
3. `compile_follows`: rule elements.
-/

namespace Reroute

/-! ## 1. Outcomes -/


/-- An outcome beside another one of the same thing: if the other one succeeds, this one has a
related result, or fails for one of some reasons. -/
inductive Follows {ε α β : Type} (P : ε → Prop) (R : α → β → Prop) :
    Except ε α → Except ε β → Prop
  | ok {a : α} {b : β} : R a b → Follows P R (.ok a) (.ok b)
  | fails {e : ε} {x' : Except ε β} : P e → Follows P R (.error e) x'
  | both {x : Except ε α} {e : ε} : Follows P R x (.error e)

theorem Parallel.follows {ε α β : Type} {P : ε → Prop} {R : α → β → Prop} {x : Except ε α}
    {x' : Except ε β} (alike : Parallel R x x') : Follows P R x x' := by
  cases alike with
  | ok related => exact .ok related
  | error e => exact .both

namespace Follows

variable {ε ε' α β γ δ : Type} {P : ε → Prop} {R : α → β → Prop} {S : γ → δ → Prop}
  {x : Except ε α} {x' : Except ε β}

theorem bind (follows : Follows P R x x') {f : α → Except ε γ} {f' : β → Except ε δ}
    (next : ∀ a b, R a b → Follows P S (f a) (f' b)) : Follows P S (x >>= f) (x' >>= f') := by
  cases follows with
  | ok related => exact next _ _ related
  | fails reason => exact .fails reason
  | both => exact .both

/-- Steps that begin with the same outcome. -/
theorem bind_same (x : Except ε α) {f : α → Except ε γ} {f' : α → Except ε δ}
    (next : ∀ a, Follows P S (f a) (f' a)) : Follows P S (x >>= f) (x >>= f') := by
  cases x with
  | ok a => exact next a
  | error e => exact .both

theorem mapError {P' : ε' → Prop} (follows : Follows P R x x') {f : ε → ε'}
    (reasons : ∀ e, P e → P' (f e)) : Follows P' R (x.mapError f) (x'.mapError f) := by
  cases follows with
  | ok related => exact .ok related
  | fails reason => exact .fails (reasons _ reason)
  | both => exact .both

theorem foldlM {ι : Type} {f : α → ι → Except ε α} {f' : β → ι → Except ε β} (items : List ι)
    (each : ∀ a b item, R a b → Follows P R (f a item) (f' b item)) {a : α} {b : β}
    (start : R a b) : Follows P R (items.foldlM f a) (items.foldlM f' b) := by
  induction items generalizing a b with
  | nil => exact .ok start
  | cons item rest ih =>
    rw [List.foldlM_cons, List.foldlM_cons]
    exact (each a b item start).bind fun _ _ later => ih later

theorem mapM {ι : Type} {f : ι → Except ε α} {f' : ι → Except ε β} (items : List ι)
    (each : ∀ item, Follows P R (f item) (f' item)) :
    Follows P (List.Forall₂ R) (items.mapM f) (items.mapM f') := by
  induction items with
  | nil => exact .ok .nil
  | cons item rest ih =>
    rw [List.mapM_cons, List.mapM_cons]
    exact (each item).bind fun _ _ here => ih.bind fun _ _ others => .ok (.cons here others)

/-- Where the other one succeeds, this one succeeds or fails for one of the reasons. -/
theorem ok_or (follows : Follows P R x x') {b : β} (other : x' = .ok b) :
    (∃ a, x = .ok a ∧ R a b) ∨ ∃ e, x = .error e ∧ P e := by
  cases follows with
  | ok related =>
    cases other
    exact .inl ⟨_, rfl, related⟩
  | fails reason => exact .inr ⟨_, rfl, reason⟩
  | both => cases other

end Follows

/-! ## 2. Templates -/

namespace Template

/-- The reason is a name without a table. -/
def Unknown (tables : LookupTables) (e : TemplateError) : Prop :=
  ∃ name, e = .unknownFunction name ∧ tables.find? name = none

variable {tables : LookupTables}

theorem place_follows (text : List Char) {segment segment' : Except TemplateError Segment}
    {later later' : Except TemplateError Template}
    (first : Follows (Unknown tables) (Segment.Alike False) segment segment')
    (others : Follows (Unknown tables) (Alike False) later later') :
    Follows (Unknown tables) (Alike False) (Source.place text segment later)
      (Source.place text segment' later') :=
  first.bind fun _ _ here => others.bind fun _ _ behind => .ok (.append _ (.cons here behind))

theorem nestedSegment_follows (tables' : LookupTables) (name : List Char) {inner inner' : Template}
    (alike : inner.Alike False inner') :
    Follows (Unknown tables) (Segment.Alike False) (nestedSegment tables name inner)
      (nestedSegment tables' name inner') := by
  unfold nestedSegment
  dsimp only
  cases TextFunction.ofText (String.ofList name) with
  | ok f => exact .ok ⟨alike.references, False.elim⟩
  | error _ =>
    dsimp only
    cases found : tables.find? (String.ofList name) with
    | none => exact .fails ⟨_, rfl, found⟩
    | some table =>
      cases tables'.find? (String.ofList name) with
      | none => exact .both
      | some table' => exact .ok ⟨alike.references, False.elim⟩

theorem resolve_follows (tables' : LookupTables) (source : Source) (text : List Char) :
    Follows (Unknown tables) (Alike False) (source.resolve tables text)
      (source.resolve tables' text) := by
  have same : ∀ x : Except TemplateError Segment,
      Follows (Unknown tables) (Segment.Alike False) x x := by
    intro x
    cases x with
    | ok segment => exact .ok ⟨rfl, False.elim⟩
    | error e => exact .both
  induction source generalizing text with
  | nil => exact .ok (.refl _)
  | char c rest ih => exact ih _
  | named name rest ih | group name digits rest ih => exact place_follows text (same _) (ih [])
  | nested name inner rest within behind =>
    exact place_follows text
      ((within []).bind fun _ _ below => nestedSegment_follows tables' _ below) (behind [])

/-- A text that is read with some tables is read with others, unless it has a name that has no table
among these. -/
theorem ofBraced_follows (tables tables' : LookupTables) (text : String) :
    Follows (Unknown tables) (Alike False) (ofBraced tables text) (ofBraced tables' text) := by
  cases reads : ofBraced tables' text with
  | error e => exact .both
  | ok t =>
    obtain ⟨source, spelled, resolves⟩ := ofBraced_ok_iff.mp reads
    rw [ofBraced_of_spelled spelled, ← resolves]
    exact resolve_follows tables' source []

end Template

namespace RewriteSection

open Reroute.Markup Reroute.Template

/-! ## 3. Rule elements -/

variable (tables tables' : LookupTables)

/-- The fault is a name without a table. -/
def UnknownName (found : Element × SectionFault) : Prop :=
  ∃ cause, found.2 = .template cause ∧ Unknown tables cause

theorem readTemplate_follows (e : Element) (text : String) :
    Follows (UnknownName tables) (Template.Alike False) (readTemplate tables e text)
      (readTemplate tables' e text) :=
  (ofBraced_follows tables tables' text).mapError fun cause unknown => ⟨cause, rfl, unknown⟩

theorem action_follows (e : Element) (stop : Bool) :
    Follows (UnknownName tables) (Action.Alike False) (action tables e stop)
      (action tables' e stop) := by
  refine .bind_same _ fun type => ?_
  refine .bind_same _ fun redirect => ?_
  refine .bind_same _ fun appendQuery => ?_
  dsimp only
  split
  · exact .both
  · refine (readTemplate_follows tables tables' e _).bind fun _ _ url => ?_
    exact .bind_same _ fun kind => .ok ⟨rfl, url, rfl, rfl, rfl⟩

theorem addCondition_follows (style : PatternSyntax) {d d' : RuleDraft} (alike : d.Alike False d')
    (e : Element) :
    Follows (UnknownName tables) (RuleDraft.Alike False) (addCondition tables style d e)
      (addCondition tables' style d' e) := by
  refine .bind_same _ fun ignoreCase => ?_
  refine .bind_same _ fun negate => ?_
  refine .bind_same _ fun type => ?_
  refine .bind_same _ fun written => ?_
  refine (readTemplate_follows tables tables' e written).bind fun _ _ input => ?_
  exact ((alike.addCondition input _ style type ignoreCase negate).mapError _).follows

theorem addConditions_follows (style : PatternSyntax) {d d' : RuleDraft} (alike : d.Alike False d')
    (e : Element) :
    Follows (UnknownName tables) (RuleDraft.Alike False) (addConditions tables style d e)
      (addConditions tables' style d' e) := by
  refine .bind_same _ fun grouping => ?_
  refine .bind_same _ fun trackAll => ?_
  exact .foldlM _ (fun _ _ item here => addCondition_follows tables tables' style here item)
    (alike.setConditions grouping trackAll)

theorem enabledRule_follows (options : RuleOptions) (isGlobal : Bool) (e : Element) :
    Follows (UnknownName tables) (Rule.AlikeIf False) (enabledRule tables options isGlobal e)
      (enabledRule tables' options isGlobal e) := by
  refine .bind_same _ fun style => ?_
  refine .bind_same _ fun stop => ?_
  refine .bind_same _ fun matching => ?_
  refine .bind_same _ fun acting => ?_
  refine .bind_same _ fun url => ?_
  refine .bind_same _ fun ignoreCase => ?_
  refine .bind_same _ fun negate => ?_
  refine .bind_same _ fun draft => ?_
  have finish : ∀ d d' : RuleDraft, d.Alike False d' →
      Follows (UnknownName tables) (Rule.AlikeIf False)
        (action tables acting stop >>= fun taken =>
          ((d.addAction taken).build isGlobal).mapError fun cause => (e, .build cause))
        (action tables' acting stop >>= fun taken =>
          ((d'.addAction taken).build isGlobal).mapError fun cause => (e, .build cause)) := by
    intro d d' alike
    refine (action_follows tables tables' acting stop).bind fun _ _ taken => ?_
    exact ((RuleDraft.build_alike (alike.addAction taken) isGlobal).mapError _).follows
  cases e.child? "conditions" with
  | none => exact finish draft draft (.refl draft)
  | some conditions =>
    exact (addConditions_follows tables tables' style (.refl draft) conditions).bind finish

/-- Rule elements that are compiled with some tables are compiled with others, or one of them has a
name without a table among these. -/
theorem compile_follows (options : RuleOptions) (elements : List RuleElement) :
    Follows (UnknownName tables) (List.Forall₂ (Rule.AlikeIf False))
      (elements.mapM (RuleElement.compile tables options))
      (elements.mapM (RuleElement.compile tables' options)) :=
  .mapM elements fun r => .bind_same _ fun _ =>
    enabledRule_follows tables tables' options r.isGlobal r.element

end RewriteSection

end Reroute
