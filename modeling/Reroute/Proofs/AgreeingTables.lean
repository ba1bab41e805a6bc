import Reroute.Proofs.CaselessTables
import Reroute.Proofs.PatternRules

/-!
# What is read with agreeing tables

A template keeps the tables that its lookups are made in, with the spelling and the place of every
entry. None of this can be told from what it expands to. So whatever is read with tables that agree
is alike: templates, conditions and actions, drafts, and in the end the rules of a section. For what
is read at all, and for what is refused, it is enough that the same names have tables: here `clear`
stands for what makes tables of the same name alike, and so everything that is read with them.

Results:
1. `Parallel`: outcomes that fail alike, or succeed with results that are related.
2. `read_alike`, `ofBraced_alike`: templates of a rewrite section.
3. `apply_alike`, `runFrom_alike`: rules that do the same; `build_alike`: finished drafts of rules.
4. `readRules_parallel`: the rules of a document.
-/

namespace Reroute

/-! ## 1. Outcomes -/

/-- Outcomes that fail alike, or succeed with results that are related. -/
inductive Parallel {ε α β : Type} (R : α → β → Prop) : Except ε α → Except ε β → Prop
  | ok {a : α} {b : β} : R a b → Parallel R (.ok a) (.ok b)
  | error (e : ε) : Parallel R (.error e) (.error e)

namespace Parallel

variable {ε ε' α β γ δ : Type} {R : α → β → Prop} {S : γ → δ → Prop}
  {x : Except ε α} {x' : Except ε β}

theorem bind (alike : Parallel R x x') {f : α → Except ε γ} {f' : β → Except ε δ}
    (next : ∀ a b, R a b → Parallel S (f a) (f' b)) : Parallel S (x >>= f) (x' >>= f') := by
  cases alike with
  | ok related => exact next _ _ related
  | error e => exact .error e

/-- Steps that begin with the same outcome. -/
theorem bind_same (x : Except ε α) {f : α → Except ε γ} {f' : α → Except ε δ}
    (next : ∀ a, Parallel S (f a) (f' a)) : Parallel S (x >>= f) (x >>= f') := by
  cases x with
  | ok a => exact next a
  | error e => exact .error e

theorem map (alike : Parallel R x x') {f : α → γ} {f' : β → δ}
    (next : ∀ a b, R a b → S (f a) (f' b)) : Parallel S (x.map f) (x'.map f') := by
  cases alike with
  | ok related => exact .ok (next _ _ related)
  | error e => exact .error e

theorem map_same (x : Except ε α) {f : α → γ} {f' : α → δ} (next : ∀ a, S (f a) (f' a)) :
    Parallel S (x.map f) (x.map f') := by
  cases x with
  | ok a => exact .ok (next a)
  | error e => exact .error e

theorem mapError (alike : Parallel R x x') (f : ε → ε') :
    Parallel R (x.mapError f) (x'.mapError f) := by
  cases alike with
  | ok related => exact .ok related
  | error e => exact .error (f e)

theorem mapM {ι : Type} {f : ι → Except ε α} {f' : ι → Except ε β} (items : List ι)
    (each : ∀ item, Parallel R (f item) (f' item)) :
    Parallel (List.Forall₂ R) (items.mapM f) (items.mapM f') := by
  induction items with
  | nil => exact .ok .nil
  | cons item rest ih =>
    rw [List.mapM_cons, List.mapM_cons]
    exact (each item).bind fun _ _ here => ih.bind fun _ _ others => .ok (.cons here others)

theorem foldlM {ι : Type} {f : α → ι → Except ε α} {f' : β → ι → Except ε β} (items : List ι)
    (each : ∀ a b item, R a b → Parallel R (f a item) (f' b item)) {a : α} {b : β}
    (start : R a b) : Parallel R (items.foldlM f a) (items.foldlM f' b) := by
  induction items generalizing a b with
  | nil => exact .ok start
  | cons item rest ih =>
    rw [List.foldlM_cons, List.foldlM_cons]
    exact (each a b item start).bind fun _ _ later => ih later

end Parallel

/-! ## 2. Templates -/

variable {clear : Prop}

/-- Segments with the same references and, if `clear` holds, with the same text in every scene. -/
structure Segment.Alike (clear : Prop) (g g' : Segment) : Prop where
  references : Template.segmentReferences g = Template.segmentReferences g'
  expand : clear → ∀ s, Template.expandSegment s g = Template.expandSegment s g'

namespace Template

/-- Templates with the same references and, if `clear` holds, with the same text in every scene. -/
structure Alike (clear : Prop) (t t' : Template) : Prop where
  references : references t = references t'
  expand : clear → ∀ s, expand s t = expand s t'

theorem Alike.refl (t : Template) : t.Alike clear t := ⟨rfl, fun _ _ => rfl⟩

theorem Alike.cons {g g' : Segment} {t t' : Template} (first : g.Alike clear g')
    (others : t.Alike clear t') : Alike clear (g :: t) (g' :: t') := by
  refine ⟨?_, fun holds s => ?_⟩
  · rw [Template.references, Template.references, first.references, others.references]
  · rw [Template.expand, Template.expand, first.expand holds s, others.expand holds s]

theorem Alike.append (front : Template) {t t' : Template} (others : t.Alike clear t') :
    Alike clear (front ++ t) (front ++ t') := by
  induction front with
  | nil => exact others
  | cons g front ih => exact .cons ⟨rfl, fun _ _ => rfl⟩ ih

variable {tables tables' : LookupTables}

/-- The segment of a function or a lookup, with a place behind it. -/
theorem nestedSegment_alike (agree : tables.Agree clear tables') (name : List Char)
    {inner inner' : Template} (alike : inner.Alike clear inner') :
    Parallel (Segment.Alike clear) (nestedSegment tables name inner)
      (nestedSegment tables' name inner') := by
  unfold nestedSegment
  dsimp only
  cases TextFunction.ofText (String.ofList name) with
  | ok f =>
    refine .ok ⟨?_, fun holds s => ?_⟩
    · exact alike.references
    · show (expand s inner).map f.apply = (expand s inner').map f.apply
      rw [alike.expand holds s]
  | error _ =>
    have here := agree (String.ofList name)
    generalize tables.find? (String.ofList name) = found,
      tables'.find? (String.ofList name) = found' at here
    cases here with
    | none => exact .error _
    | @some table table' same =>
      refine .ok ⟨?_, fun holds s => ?_⟩
      · exact alike.references
      · show (expand s inner).map table.lookup = (expand s inner').map table'.lookup
        rw [alike.expand holds s, funext (same holds)]

/-- Results that are related, read up to the same place. -/
def Upto {α : Type} (R : α → α → Prop) (found found' : α × Cursor) : Prop :=
  R found.1 found'.1 ∧ found.2 = found'.2

-- Both readers call each other with less fuel, so that both are taken at once.
theorem read_alike (agree : tables.Agree clear tables') (fuel : Nat) :
    (∀ start text at_, Parallel (Upto (Alike clear)) (readBraced tables fuel start text at_)
        (readBraced tables' fuel start text at_)) ∧
      ∀ start at_, Parallel (Upto (Segment.Alike clear)) (readPlaceholder tables fuel start at_)
        (readPlaceholder tables' fuel start at_) := by
  induction fuel with
  | zero => exact ⟨fun _ _ at_ => .error _, fun start _ => .error _⟩
  | succ fuel ih =>
    obtain ⟨braced, placeholder⟩ := ih
    refine ⟨fun start text at_ => ?_, fun start at_ => ?_⟩
    · unfold readBraced
      dsimp only
      split
      · cases start with
        | some offset => exact .error _
        | none => exact .ok ⟨.refl _, rfl⟩
      · split
        · exact braced _ _ _
        · exact braced _ _ _
      · split
        · exact .ok ⟨.refl _, rfl⟩
        · split
          · refine (placeholder _ _).bind fun ⟨g, _⟩ ⟨g', next⟩ ⟨first, same⟩ => ?_
            cases same
            refine (braced _ _ _).bind fun ⟨t, _⟩ ⟨t', next⟩ ⟨others, same⟩ => ?_
            cases same
            exact .ok ⟨.append _ (.cons first others), rfl⟩
          · exact braced _ _ _
    · rw [readPlaceholder, readPlaceholder]
      split
      · exact .error _
      · dsimp only
        split
        · exact .map_same _ fun g => ⟨⟨rfl, fun _ _ => rfl⟩, rfl⟩
        · split
          · split
            · exact .error _
            · exact .map_same _ fun g => ⟨⟨rfl, fun _ _ => rfl⟩, rfl⟩
          · refine (braced _ _ _).bind fun ⟨t, _⟩ ⟨t', next⟩ ⟨inner, same⟩ => ?_
            cases same
            exact (nestedSegment_alike agree _ inner).bind fun _ _ here => .ok ⟨here, rfl⟩

theorem ofBraced_alike (agree : tables.Agree clear tables') (text : String) :
    Parallel (Alike clear) (ofBraced tables text) (ofBraced tables' text) :=
  ((read_alike agree _).1 _ _ _).map fun _ _ found => found.1

end Template

/-! ## 3. Drafts of rules -/

theorem map_eq_of_related {α β γ : Type} {R : α → β → Prop} {f : α → γ} {f' : β → γ}
    {xs : List α} {ys : List β} (related : List.Forall₂ R xs ys)
    (each : ∀ a b, R a b → f a = f' b) : xs.map f = ys.map f' := by
  induction related with
  | nil => rfl
  | cons here _ ih => rw [List.map_cons, List.map_cons, each _ _ here, ih]

/-- Conditions that test the same, whose inputs are alike. -/
structure Condition.Alike (clear : Prop) (c c' : Condition) : Prop where
  input : c.input.Alike clear c'.input
  matcher : c.matcher = c'.matcher
  orNext : c.orNext = c'.orNext

/-- Lists of alike conditions that are joined in the same way. -/
structure Conditions.Alike (clear : Prop) (cs cs' : Conditions) : Prop where
  items : List.Forall₂ (Condition.Alike clear) cs.items cs'.items
  grouping : cs.grouping = cs'.grouping
  trackAll : cs.trackAll = cs'.trackAll

/-- Actions that do the same, whose urls are alike. -/
structure Action.Alike (clear : Prop) (a a' : Action) : Prop where
  kind : a.kind = a'.kind
  url : a.url.Alike clear a'.url
  appendQuery : a.appendQuery = a'.appendQuery
  stop : a.stop = a'.stop
  escape : a.escape = a'.escape

theorem Condition.Alike.run {c c' : Condition} (alike : c.Alike clear c') (holds : clear)
    (request : Request) (captures : Captures) (isGlobal : Bool) :
    c.run request captures isGlobal = c'.run request captures isGlobal := by
  unfold Condition.run
  rw [alike.input.expand holds, alike.matcher]

namespace Conditions

theorem runItems_alike (request : Request) (isGlobal trackAll : Bool)
    {items items' : List Condition} (alike : List.Forall₂ (Condition.Alike clear) items items')
    (holds : clear) (p : Progress) (captures : Captures) :
    runItems request isGlobal trackAll items p captures =
      runItems request isGlobal trackAll items' p captures := by
  induction alike generalizing p captures with
  | nil => rfl
  | cons here _ ih => simp only [runItems, here.run holds, here.orNext, ih]

variable {cs cs' : Conditions}

theorem Alike.run (alike : cs.Alike clear cs') (holds : clear) (request : Request)
    (captures : Captures) (isGlobal : Bool) :
    cs.run request captures isGlobal = cs'.run request captures isGlobal := by
  unfold Conditions.run
  rw [alike.trackAll]
  exact runItems_alike _ _ _ alike.items holds _ _

theorem Alike.captureCount (alike : cs.Alike clear cs') : cs.captureCount = cs'.captureCount := by
  have counts : cs.items.map (fun c => c.matcher.captureCount) =
      cs'.items.map fun c => c.matcher.captureCount :=
    map_eq_of_related alike.items fun _ _ here => by rw [here.matcher]
  unfold Conditions.captureCount
  rw [alike.trackAll, counts]

theorem Alike.push (alike : cs.Alike clear cs') {c c' : Condition} (last : c.Alike clear c') :
    (cs.push c).Alike clear (cs'.push c') :=
  ⟨List.rel_append alike.items (.cons last .nil), alike.grouping, alike.trackAll⟩

theorem Alike.references (alike : cs.Alike clear cs') :
    cs.items.flatMap (fun c => Template.references c.input) =
      cs'.items.flatMap fun c => Template.references c.input := by
  rw [List.flatMap_def, List.flatMap_def,
    map_eq_of_related alike.items fun _ _ here => here.input.references]

end Conditions

theorem Action.Alike.apply {a a' : Action} (alike : a.Alike clear a') (holds : clear)
    (request : Request) (captures : Captures) (isGlobal : Bool) :
    a.apply request captures isGlobal = a'.apply request captures isGlobal := by
  unfold Action.apply Action.expandUrl
  rw [alike.kind, alike.stop, alike.appendQuery, alike.escape, alike.url.expand holds]

namespace Rule

theorem checkActions_alike (captures : Captures) {actions actions' : List Action}
    (alike : List.Forall₂ (Action.Alike clear) actions actions') :
    checkActions captures actions = checkActions captures actions' := by
  induction alike with
  | nil => rfl
  | cons here _ ih =>
    rw [checkActions, checkActions, Template.check, Template.check, here.url.references, ih]

theorem runActions_alike (captures : Captures) (isGlobal : Bool) {actions actions' : List Action}
    (alike : List.Forall₂ (Action.Alike clear) actions actions') (holds : clear)
    (request : Request) :
    runActions captures isGlobal actions request =
      runActions captures isGlobal actions' request := by
  induction alike generalizing request with
  | nil => rfl
  | cons here _ ih => simp only [runActions, here.apply holds, ih]

theorem Alike.refl (rule : Rule) : rule.Alike rule := ⟨rfl, rfl, rfl, fun _ => rfl⟩

/-- Rules that are matched alike, with alike conditions and actions, do the same to a request. -/
theorem apply_alike {rule rule' : Rule} (initialMatch : rule.initialMatch = rule'.initialMatch)
    (isGlobal : rule.isGlobal = rule'.isGlobal)
    (conditions : Option.Rel (Conditions.Alike clear) rule.conditions rule'.conditions)
    (actions : List.Forall₂ (Action.Alike clear) rule.actions rule'.actions) (holds : clear)
    (request : Request) : rule.apply request = rule'.apply request := by
  have captures : rule.captures? request = rule'.captures? request := by
    unfold captures? candidate
    rw [initialMatch, isGlobal]
    generalize rule.conditions = cs, rule'.conditions = cs' at conditions
    cases conditions with
    | none => rfl
    | some here => simp only [here.run holds]
  unfold Rule.apply
  simp only [captures, isGlobal, checkActions_alike _ actions, runActions_alike _ _ actions holds]

/-- Rules that do the same if `clear` holds. -/
def AlikeIf (clear : Prop) (rule rule' : Rule) : Prop := clear → rule.Alike rule'

theorem AlikeIf.refl (rule : Rule) : rule.AlikeIf clear rule := fun _ => .refl rule

/-- Lists of rules that do the same run alike. -/
theorem runFrom_alike {rules rules' : List Rule}
    (alike : List.Forall₂ (AlikeIf clear) rules rules') (holds : clear) (skip : Nat)
    (request : Request) : runFrom rules skip request = runFrom rules' skip request := by
  induction alike generalizing skip request with
  | nil => rfl
  | cons same _ ih =>
    have here := same holds
    cases skip with
    | succ skip => exact ih skip request
    | zero => simp only [runFrom, here.enabled, here.apply, here.last, here.skip, ih]

end Rule

namespace RuleDraft

/-- Drafts that say the same, with alike conditions and actions. -/
structure Alike (clear : Prop) (d d' : RuleDraft) : Prop where
  options : d.options = d'.options
  name : d.name = d'.name
  enabled : d.enabled = d'.enabled
  initialMatch : d.initialMatch = d'.initialMatch
  conditions : Option.Rel (Conditions.Alike clear) d.conditions d'.conditions
  actions : List.Forall₂ (Action.Alike clear) d.actions d'.actions
  last : d.last = d'.last
  skip : d.skip = d'.skip

variable {d d' : RuleDraft}

theorem Alike.refl (d : RuleDraft) : d.Alike clear d where
  options := rfl
  name := rfl
  enabled := rfl
  initialMatch := rfl
  conditions := by
    cases d.conditions with
    | none => exact .none
    | some cs =>
      exact .some ⟨List.forall₂_same.mpr fun c _ => ⟨.refl c.input, rfl, rfl⟩, rfl, rfl⟩
  actions := List.forall₂_same.mpr fun a _ => ⟨rfl, .refl a.url, rfl, rfl, rfl⟩
  last := rfl
  skip := rfl

theorem Alike.setConditions (alike : d.Alike clear d') (grouping : Grouping) (trackAll : Bool) :
    (d.setConditions grouping trackAll).Alike clear (d'.setConditions grouping trackAll) :=
  { alike with conditions := .some ⟨.nil, rfl, rfl⟩ }

theorem Alike.conditions_getD (alike : d.Alike clear d') :
    (d.conditions.getD {}).Alike clear (d'.conditions.getD {}) := by
  have related := alike.conditions
  generalize d.conditions = cs, d'.conditions = cs' at related
  cases related with
  | some here => exact here
  | none => exact ⟨.nil, rfl, rfl⟩

theorem Alike.addCondition (alike : d.Alike clear d') {input input' : Template}
    (inputs : input.Alike clear input') (pattern : Option String) (style : PatternSyntax)
    (type : MatchType) (ignoreCase negate : Bool) :
    Parallel (Alike clear) (d.addCondition input pattern style type ignoreCase negate)
      (d'.addCondition input' pattern style type ignoreCase negate) := by
  unfold RuleDraft.addCondition
  rw [alike.options, alike.conditions_getD.grouping]
  refine .map_same _ fun matcher => ?_
  exact { alike with conditions := .some (alike.conditions_getD.push ⟨inputs, rfl, rfl⟩) }

theorem Alike.addAction (alike : d.Alike clear d') {a a' : Action} (last : a.Alike clear a') :
    (d.addAction a).Alike clear (d'.addAction a') :=
  { alike with actions := List.rel_append alike.actions (.cons last .nil) }

theorem Alike.allReferences (alike : d.Alike clear d') :
    allReferences d.conditions d.actions = allReferences d'.conditions d'.actions := by
  have items : ∀ conditions : Option Conditions,
      (conditions.map (·.items)).getD [] = (conditions.getD {}).items := by
    intro conditions
    cases conditions <;> rfl
  have urls : d.actions.flatMap (fun a => Template.references a.url) =
      d'.actions.flatMap fun a => Template.references a.url := by
    rw [List.flatMap_def, List.flatMap_def,
      map_eq_of_related alike.actions fun _ _ here => here.url.references]
  unfold RuleDraft.allReferences
  rw [items, items, alike.conditions_getD.references, urls]

/-- Drafts that are alike make rules that do the same, or are refused alike. -/
theorem build_alike (alike : d.Alike clear d') (isGlobal : Bool) :
    Parallel (Rule.AlikeIf clear) (d.build isGlobal) (d'.build isGlobal) := by
  have groups : ∀ conditions : Option Conditions,
      (conditions.map Conditions.captureCount).getD 0 = (conditions.getD {}).captureCount := by
    intro conditions
    cases conditions <;> rfl
  have actions : d.actions.isEmpty = d'.actions.isEmpty := by
    rw [Bool.eq_iff_iff, List.isEmpty_iff_length_eq_zero, List.isEmpty_iff_length_eq_zero,
      alike.actions.length_eq]
  unfold build
  rw [alike.initialMatch, alike.allReferences, groups, groups, alike.conditions_getD.captureCount,
    actions]
  cases d'.initialMatch with
  | none => exact .error _
  | some initialMatch =>
    dsimp only
    split
    · exact .error _
    · refine .map_same _ fun _ holds => ⟨alike.enabled, alike.last, alike.skip, fun request => ?_⟩
      apply Rule.apply_alike
      · rfl
      · rfl
      · exact alike.conditions
      · exact alike.actions
      · exact holds

end RuleDraft

/-! ## 4. Rewrite sections -/

namespace RewriteSection

open Reroute.Markup

variable {tables tables' : LookupTables} (agree : tables.Agree clear tables')

include agree

theorem template_parallel (e : Element) (text : String) :
    Parallel (Template.Alike clear) (readTemplate tables e text) (readTemplate tables' e text) :=
  (Template.ofBraced_alike agree text).mapError _

theorem action_parallel (e : Element) (stop : Bool) :
    Parallel (Action.Alike clear) (action tables e stop) (action tables' e stop) := by
  refine .bind_same _ fun type => ?_
  refine .bind_same _ fun redirect => ?_
  refine .bind_same _ fun appendQuery => ?_
  dsimp only
  split
  · exact .error _
  · refine (template_parallel agree e _).bind fun _ _ url => ?_
    exact .bind_same _ fun kind => .ok ⟨rfl, url, rfl, rfl, rfl⟩

theorem addCondition_parallel (style : PatternSyntax) {d d' : RuleDraft}
    (alike : d.Alike clear d') (e : Element) :
    Parallel (RuleDraft.Alike clear) (addCondition tables style d e)
      (addCondition tables' style d' e) := by
  refine .bind_same _ fun ignoreCase => ?_
  refine .bind_same _ fun negate => ?_
  refine .bind_same _ fun type => ?_
  refine .bind_same _ fun written => ?_
  refine (template_parallel agree e written).bind fun _ _ input => ?_
  exact (alike.addCondition input _ style type ignoreCase negate).mapError _

theorem addConditions_parallel (style : PatternSyntax) {d d' : RuleDraft}
    (alike : d.Alike clear d') (e : Element) :
    Parallel (RuleDraft.Alike clear) (addConditions tables style d e)
      (addConditions tables' style d' e) := by
  refine .bind_same _ fun grouping => ?_
  refine .bind_same _ fun trackAll => ?_
  exact .foldlM _ (fun _ _ item here => addCondition_parallel agree style here item)
    (alike.setConditions grouping trackAll)

theorem enabledRule_parallel (options : RuleOptions) (isGlobal : Bool) (e : Element) :
    Parallel (Rule.AlikeIf clear) (enabledRule tables options isGlobal e)
      (enabledRule tables' options isGlobal e) := by
  refine .bind_same _ fun style => ?_
  refine .bind_same _ fun stop => ?_
  refine .bind_same _ fun matching => ?_
  refine .bind_same _ fun acting => ?_
  refine .bind_same _ fun url => ?_
  refine .bind_same _ fun ignoreCase => ?_
  refine .bind_same _ fun negate => ?_
  refine .bind_same _ fun draft => ?_
  have finish : ∀ d d' : RuleDraft, d.Alike clear d' → Parallel (Rule.AlikeIf clear)
      (action tables acting stop >>= fun taken =>
        ((d.addAction taken).build isGlobal).mapError fun cause => (e, .build cause))
      (action tables' acting stop >>= fun taken =>
        ((d'.addAction taken).build isGlobal).mapError fun cause => (e, .build cause)) := by
    intro d d' alike
    refine (action_parallel agree acting stop).bind fun _ _ taken => ?_
    exact (RuleDraft.build_alike (alike.addAction taken) isGlobal).mapError _
  cases e.child? "conditions" with
  | none => exact finish draft draft (.refl draft)
  | some conditions =>
    exact (addConditions_parallel agree style (.refl draft) conditions).bind finish

theorem rulesOf_parallel (options : RuleOptions) (isGlobal : Bool) (elements : List Element) :
    Parallel (List.Forall₂ (Rule.AlikeIf clear)) (rulesOf tables options isGlobal elements)
      (rulesOf tables' options isGlobal elements) := by
  have each : ∀ e, Parallel (Option.Rel (Rule.AlikeIf clear)) (rule tables options isGlobal e)
      (rule tables' options isGlobal e) := by
    intro e
    refine .bind_same _ fun enabled => ?_
    cases enabled with
    | true => exact (enabledRule_parallel agree options isGlobal e).map fun _ _ here => .some here
    | false => exact .ok .none
  exact (Parallel.mapM elements each).map fun _ _ rules =>
    List.rel_filterMap (fun _ _ here => here) rules

theorem addTables_parallel (elements : List Element) :
    Parallel (LookupTables.Agree clear) (addTables tables elements)
      (addTables tables' elements) := by
  unfold addTables
  refine Parallel.foldlM elements (fun current current' e here => ?_) agree
  exact .map_same (table e) fun found => here.addMissing found

/-- Documents are read or refused together, and their rules do the same if `clear` holds. -/
theorem readRules_parallel (text : String) (options : RuleOptions) :
    Parallel (List.Forall₂ (Rule.AlikeIf clear)) (readRules text tables options)
      (readRules text tables' options) := by
  unfold readRules
  cases readDocument text with
  | none => exact .error _
  | some document =>
    dsimp only
    cases document.first? "rewrite" with
    | none => exact .ok .nil
    | some root =>
      refine .mapError ?_ _
      refine (addTables_parallel agree _).bind fun _ _ all => ?_
      refine (rulesOf_parallel all options true _).bind fun _ _ global => ?_
      refine (rulesOf_parallel all options false _).bind fun _ _ others => ?_
      exact .ok (List.rel_append global others)

end RewriteSection

end Reroute
