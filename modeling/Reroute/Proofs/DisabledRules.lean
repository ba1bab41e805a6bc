import Reroute.Proofs.SectionRules

/-!
# Disabled rules

A disabled rule element is passed over. But sections are looked for everywhere inside the rewrite
element, so also inside of disabled rules: if the first section of a kind is there, the disabled
rule does matter (`disabled_rule_matters`). Otherwise it does not, and two documents that are alike
outside of their disabled rules (`Agree`) have the same rules, or the same fault at the same
element.

Results:
1. `exposed_agree`, `first_agree`: what documents have in common that agree.
2. `compile_alike`, `rulesIn_alike`: readers on documents that agree.
3. `document_rules`: the rules of a document, where its first fault is, and what does not matter.
4. `disabled_rule_matters`: a disabled rule with a section inside.
-/

namespace Reroute.RewriteSection

open Reroute.Markup

variable {tables : LookupTables} {options : RuleOptions}

/-! ## 1. Documents that agree -/

/-- Elements that are alike outside of disabled rules. What a disabled rule says of itself or holds
does not count, and neither does where the elements begin. -/
inductive Agree : Element → Element → Prop
  | disabled {e e' : Element} : isDisabled e = true → isDisabled e' = true → Agree e e'
  | same {name : String} {attributes : List Attribute} {children children' : List Element}
      {start start' : Nat} :
      List.Forall₂ Agree children children' →
      Agree (.mk name attributes children start) (.mk name attributes children' start')

/-- Elements that say the same of themselves, with children that agree. -/
structure Akin (e e' : Element) : Prop where
  name : e.name = e'.name
  attributes : e.attributes = e'.attributes
  children : List.Forall₂ Agree e.children e'.children

mutual

/-- The element and all elements inside it that are not inside of a disabled rule. -/
def exposed : Element → List Element
  | .mk name attributes children start =>
    .mk name attributes children start ::
      if isDisabled (.mk name attributes children start) then [] else exposedOf children

def exposedOf : List Element → List Element
  | [] => []
  | e :: rest => exposed e ++ exposedOf rest

end

/-- The first element of a name is not inside of a disabled rule. -/
def Shows (e : Element) (name : String) : Prop :=
  e.first? name = (exposed e).find? fun d => d.name == name

instance (e : Element) (name : String) : Decidable (Shows e name) :=
  inferInstanceAs (Decidable (_ = _))

/-- The rewrite element of a document and its sections are not inside of disabled rules. -/
structure Exposed (document : Element) : Prop where
  root : Shows document "rewrite"
  sections : ∀ root, document.first? "rewrite" = some root →
    ∀ kind ∈ ["rewriteMaps", "globalRules", "rules"], Shows root kind

theorem Agree.isDisabled_eq {e e' : Element} (agree : Agree e e') :
    isDisabled e = isDisabled e' := by
  cases agree with
  | disabled off off' => rw [off, off']
  | same _ => rfl

theorem Agree.name_eq {e e' : Element} (agree : Agree e e') : e.name = e'.name := by
  cases agree with
  | disabled off off' =>
    simp only [isDisabled, Bool.and_eq_true, beq_iff_eq] at off off'
    rw [off.1, off'.1]
  | same _ => rfl

theorem Agree.akin {e e' : Element} (agree : Agree e e') (on : isDisabled e = false) :
    Akin e e' := by
  cases agree with
  | disabled off _ =>
    rw [on] at off
    cases off
  | same children => exact ⟨rfl, rfl, children⟩

theorem Agree.akin_of_name {e e' : Element} (agree : Agree e e') (other : e.name ≠ "rule") :
    Akin e e' :=
  agree.akin (by simp [isDisabled, other])

theorem Akin.agree {e e' : Element} (akin : Akin e e') : Agree e e' := by
  obtain ⟨name, attributes, children, start⟩ := e
  obtain ⟨name', attributes', children', start'⟩ := e'
  obtain ⟨rfl, rfl, inside⟩ := akin
  exact .same inside

-- Elements that agree are switched alike, so both lists stop at the same disabled rules.
mutual

theorem exposed_agree {e e' : Element} (agree : Agree e e') :
    List.Forall₂ Agree (exposed e) (exposed e') := by
  obtain ⟨name, attributes, children, start⟩ := e
  obtain ⟨name', attributes', children', start'⟩ := e'
  have switches := agree.isDisabled_eq
  rw [exposed, exposed, ← switches]
  refine .cons agree ?_
  cases on : isDisabled (.mk name attributes children start) with
  | true => exact .nil
  | false => exact exposedOf_agree (agree.akin on).children

theorem exposedOf_agree {es es' : List Element} (agree : List.Forall₂ Agree es es') :
    List.Forall₂ Agree (exposedOf es) (exposedOf es') := by
  cases agree with
  | nil => exact .nil
  | cons here others => exact List.rel_append (exposed_agree here) (exposedOf_agree others)

end

theorem find_agree (name : String) {es es' : List Element} (agree : List.Forall₂ Agree es es') :
    (es.find? fun d => d.name == name) = none ∧ (es'.find? fun d => d.name == name) = none ∨
      ∃ x x', (es.find? fun d => d.name == name) = some x ∧
        (es'.find? fun d => d.name == name) = some x' ∧ Agree x x' ∧ x.name = name := by
  induction agree with
  | nil => exact .inl ⟨rfl, rfl⟩
  | @cons e e' _ _ here _ ih =>
    rw [List.find?_cons, List.find?_cons, ← here.name_eq]
    cases named : e.name == name with
    | true => exact .inr ⟨e, e', rfl, rfl, here, by simpa using named⟩
    | false => exact ih

theorem first_agree {e e' : Element} (agree : Agree e e') {name : String} (here : Shows e name)
    (there : Shows e' name) :
    e.first? name = none ∧ e'.first? name = none ∨
      ∃ x x', e.first? name = some x ∧ e'.first? name = some x' ∧ Agree x x' ∧ x.name = name := by
  rw [here, there]
  exact find_agree name (exposed_agree agree)

theorem akin_of_named {es es' : List Element} (named : ∀ x ∈ es, x.name ≠ "rule")
    (agree : List.Forall₂ Agree es es') : List.Forall₂ Akin es es' :=
  ((List.forall₂_and_left _ _).mpr ⟨named, agree⟩).imp fun _ _ both => both.2.akin_of_name both.1

namespace Akin

variable {e e' : Element}

theorem attribute? (akin : Akin e e') (name : String) : e.attribute? name = e'.attribute? name := by
  rw [Element.attribute?, Element.attribute?, akin.attributes]

/-- A child to be read further is akin, as it is no rule. -/
theorem child_cases (akin : Akin e e') {name : String} (other : name ≠ "rule") :
    e.child? name = none ∧ e'.child? name = none ∨
      ∃ child child', e.child? name = some child ∧ e'.child? name = some child' ∧
        Akin child child' := by
  rcases find_agree name akin.children with none | ⟨child, child', here, there, agree, named⟩
  · exact .inl none
  · exact .inr ⟨child, child', here, there, agree.akin_of_name (named ▸ other)⟩

theorem childrenNamed (akin : Akin e e') (name : String) :
    List.Forall₂ Agree (e.childrenNamed name) (e'.childrenNamed name) :=
  List.rel_filter (fun _ _ agree => by simp only [agree.name_eq]) akin.children

theorem children_akin (akin : Akin e e') {name : String} (other : name ≠ "rule") :
    List.Forall₂ Akin (e.childrenNamed name) (e'.childrenNamed name) := by
  refine akin_of_named (fun x member => ?_) (akin.childrenNamed name)
  have same : x.name = name := by simpa using (List.mem_filter.mp member).2
  rwa [same]

end Akin

/-! ## 2. Readers on documents that agree -/

/-- Outcomes with alike results, or with the same fault at elements that agree. -/
inductive Alike {α β : Type} (R : α → β → Prop) : Reading α → Reading β → Prop
  | ok {a : α} {b : β} : R a b → Alike R (.ok a) (.ok b)
  | error {e e' : Element} {fault : SectionFault} :
      Agree e e' → Alike R (.error (e, fault)) (.error (e', fault))

/-- The same result, or the same fault at elements that agree. -/
abbrev AlikeEq {α : Type} : Reading α → Reading α → Prop := Alike Eq

section Outcomes

variable {α β γ δ : Type}

theorem Alike.bind {R : α → β → Prop} {x : Reading α} {x' : Reading β} (alike : Alike R x x')
    {S : γ → δ → Prop} {f : α → Reading γ} {f' : β → Reading δ}
    (next : ∀ {a b}, R a b → Alike S (f a) (f' b)) : Alike S (x >>= f) (x' >>= f') := by
  cases alike with
  | ok related => exact next related
  | error agree => exact .error agree

theorem AlikeEq.bind {x x' : Reading α} (alike : AlikeEq x x') {S : γ → δ → Prop}
    {f : α → Reading γ} {f' : α → Reading δ} (next : ∀ a, Alike S (f a) (f' a)) :
    Alike S (x >>= f) (x' >>= f') :=
  Alike.bind alike fun same => by
    subst same
    exact next _

theorem AlikeEq.map {x x' : Reading α} (alike : AlikeEq x x') (f : α → β) :
    AlikeEq (x.map f) (x'.map f) := by
  cases alike with
  | ok same => exact .ok (congrArg f same)
  | error agree => exact .error agree

/-- The same outcome, its fault told at elements that agree. -/
theorem alike_mapError {ε : Type} {e e' : Element} (agree : Agree e e') (x : Except ε α)
    (fault : ε → SectionFault) :
    AlikeEq (x.mapError fun cause => (e, fault cause))
      (x.mapError fun cause => (e', fault cause)) := by
  cases x with
  | error cause => exact .error agree
  | ok a => exact .ok rfl

theorem alike_mapM {R : α → β → Prop} {f : α → Reading γ} {f' : β → Reading γ} {xs : List α}
    {ys : List β} (related : List.Forall₂ R xs ys) (each : ∀ a b, R a b → AlikeEq (f a) (f' b)) :
    AlikeEq (xs.mapM f) (ys.mapM f') := by
  induction related with
  | nil => exact .ok rfl
  | cons here _ ih =>
    rw [List.mapM_cons, List.mapM_cons]
    exact (each _ _ here).bind fun _ => ih.bind fun _ => .ok rfl

theorem alike_foldlM {R : α → β → Prop} {f : γ → α → Reading γ} {f' : γ → β → Reading γ}
    {xs : List α} {ys : List β} (related : List.Forall₂ R xs ys)
    (each : ∀ state a b, R a b → AlikeEq (f state a) (f' state b)) (state : γ) :
    AlikeEq (xs.foldlM f state) (ys.foldlM f' state) := by
  induction related generalizing state with
  | nil => exact .ok rfl
  | cons here _ ih =>
    rw [List.foldlM_cons, List.foldlM_cons]
    exact (each state _ _ here).bind ih

end Outcomes

section Readers

variable {e e' : Element} (akin : Akin e e')

include akin

theorem switch_alike (key : String) (standard : Bool) :
    AlikeEq (switch e key standard) (switch e' key standard) := by
  unfold switch
  rw [← akin.attribute? key]
  cases e.attribute? key with
  | none => exact .ok rfl
  | some value =>
    dsimp only
    split
    · exact .ok rfl
    · split
      · exact .ok rfl
      · exact .error akin.agree

theorem choice_alike {α ε : Type} (ofText : String → Except ε α) (key : String) (standard : α) :
    AlikeEq (choice ofText e key standard) (choice ofText e' key standard) := by
  unfold choice
  rw [← akin.attribute? key]
  cases e.attribute? key with
  | none => exact .ok rfl
  | some value =>
    dsimp only
    cases ofText (Text.trim value) with
    | ok found => exact .ok rfl
    | error _ => exact .error akin.agree

theorem required_alike (key : String) (missing : SectionFault) :
    AlikeEq (required e key missing) (required e' key missing) := by
  unfold required
  rw [← akin.attribute? key]
  cases e.attribute? key with
  | none => exact .error akin.agree
  | some value => exact .ok rfl

theorem requiredChild_alike {name : String} (other : name ≠ "rule") (missing : SectionFault) :
    Alike Akin (requiredChild e name missing) (requiredChild e' name missing) := by
  unfold requiredChild
  rcases akin.child_cases other with ⟨here, there⟩ | ⟨child, child', here, there, children⟩
  · rw [here, there]
    exact .error akin.agree
  · rw [here, there]
    exact .ok children

theorem readTemplate_alike (text : String) :
    AlikeEq (readTemplate tables e text) (readTemplate tables e' text) :=
  alike_mapError akin.agree _ _

theorem customStatus_alike : AlikeEq (customStatus e) (customStatus e') := by
  unfold customStatus
  refine (required_alike akin _ _).bind fun written => ?_
  split
  · split
    · exact .ok rfl
    · exact .error akin.agree
  · exact .error akin.agree

theorem actionKind_alike (type : ActionType) (redirect : RedirectType) :
    AlikeEq (actionKind e type redirect) (actionKind e' type redirect) := by
  cases type with
  | keep | rewrite | redirect | abortRequest => exact .ok rfl
  | customResponse =>
    unfold actionKind
    rw [akin.attribute? "statusReason"]
    exact (customStatus_alike akin).map _

theorem action_alike (stop : Bool) : AlikeEq (action tables e stop) (action tables e' stop) := by
  unfold action
  rw [← akin.attribute? "url"]
  refine (choice_alike akin _ _ _).bind fun type => ?_
  refine (choice_alike akin _ _ _).bind fun redirect => ?_
  refine (switch_alike akin _ _).bind fun appendQuery => ?_
  dsimp only
  split
  · exact .error akin.agree
  · refine (readTemplate_alike akin _).bind fun url => ?_
    exact (actionKind_alike akin _ _).bind fun kind => .ok rfl

theorem addCondition_alike (style : PatternSyntax) (d : RuleDraft) :
    AlikeEq (addCondition tables style d e) (addCondition tables style d e') := by
  unfold addCondition
  rw [← akin.attribute? "pattern"]
  refine (switch_alike akin _ _).bind fun ignoreCase => ?_
  refine (switch_alike akin _ _).bind fun negate => ?_
  refine (choice_alike akin _ _ _).bind fun type => ?_
  refine (required_alike akin _ _).bind fun written => ?_
  refine (readTemplate_alike akin _).bind fun input => ?_
  exact alike_mapError akin.agree _ _

theorem addConditions_alike (style : PatternSyntax) (d : RuleDraft) :
    AlikeEq (addConditions tables style d e) (addConditions tables style d e') := by
  unfold addConditions
  refine (choice_alike akin _ _ _).bind fun grouping => ?_
  refine (switch_alike akin _ _).bind fun trackAll => ?_
  exact alike_foldlM (akin.children_akin (by decide))
    (fun state _ _ here => addCondition_alike here style state) _

theorem enabledRule_alike (isGlobal : Bool) :
    AlikeEq (enabledRule tables options isGlobal e) (enabledRule tables options isGlobal e') := by
  unfold enabledRule
  rw [← akin.attribute? "name"]
  refine (choice_alike akin _ _ _).bind fun style => ?_
  refine (switch_alike akin _ _).bind fun stop => ?_
  refine (requiredChild_alike akin (by decide) _).bind fun {matching matching'} first => ?_
  refine (requiredChild_alike akin (by decide) _).bind fun {acting acting'} second => ?_
  refine (required_alike first _ _).bind fun url => ?_
  refine (switch_alike first _ _).bind fun ignoreCase => ?_
  refine (switch_alike first _ _).bind fun negate => ?_
  refine (alike_mapError first.agree _ _).bind fun d => ?_
  have finishes : ∀ d : RuleDraft, AlikeEq
      (action tables acting stop >>= fun taken =>
        ((d.addAction taken).build isGlobal).mapError fun cause => (e, .build cause))
      (action tables acting' stop >>= fun taken =>
        ((d.addAction taken).build isGlobal).mapError fun cause => (e', .build cause)) :=
    fun d => (action_alike second stop).bind fun taken => alike_mapError akin.agree _ _
  rcases akin.child_cases (show "conditions" ≠ "rule" by decide) with
    ⟨here, there⟩ | ⟨list, list', here, there, lists⟩
  · simp only [here, there]
    exact finishes d
  · simp only [here, there]
    exact (addConditions_alike lists style d).bind finishes

theorem compile_alike (isGlobal : Bool) :
    AlikeEq (RuleElement.compile tables options ⟨isGlobal, e⟩)
      (RuleElement.compile tables options ⟨isGlobal, e'⟩) :=
  (switch_alike akin _ _).bind fun _ => enabledRule_alike akin isGlobal

theorem entry_alike : AlikeEq (entry e) (entry e') := by
  unfold entry
  rw [← akin.attribute? "key", ← akin.attribute? "value"]
  split
  · exact .ok rfl
  · exact .error akin.agree

theorem table_alike : AlikeEq (table e) (table e') := by
  unfold table
  rw [← akin.attribute? "defaultValue"]
  refine (required_alike akin _ _).bind fun name => ?_
  exact (alike_mapM (akin.children_akin (by decide)) fun _ _ here => entry_alike here).bind
    fun entries => .ok rfl

end Readers

theorem addTables_alike (tables : LookupTables) {es es' : List Element}
    (related : List.Forall₂ Akin es es') :
    AlikeEq (addTables tables es) (addTables tables es') := by
  unfold addTables
  exact alike_foldlM related (fun known _ _ here => (table_alike here).map known.addMissing) tables

theorem sectionElements_agree {root root' : Element} (agree : Agree root root') {kind : String}
    (other : kind ≠ "rule") (here : Shows root kind) (there : Shows root' kind) (name : String) :
    List.Forall₂ Agree (sectionElements root kind name) (sectionElements root' kind name) := by
  unfold sectionElements
  rcases first_agree agree here there with ⟨first, first'⟩ | ⟨x, x', first, first', found, named⟩
  · rw [first, first']
    exact .nil
  · rw [first, first']
    exact (found.akin_of_name (named ▸ other)).childrenNamed name

theorem enabledElements_akin {root root' : Element} (agree : Agree root root')
    (here : ∀ kind ∈ ["rewriteMaps", "globalRules", "rules"], Shows root kind)
    (there : ∀ kind ∈ ["rewriteMaps", "globalRules", "rules"], Shows root' kind) :
    List.Forall₂ (fun r r' => r.isGlobal = r'.isGlobal ∧ Akin r.element r'.element)
      (enabledElements root) (enabledElements root') := by
  have elements : ∀ kind ∈ ["globalRules", "rules"], ∀ isGlobal : Bool,
      List.Forall₂ (fun r r' => r.isGlobal = r'.isGlobal ∧ Agree r.element r'.element)
        ((sectionElements root kind "rule").map (RuleElement.mk isGlobal))
        ((sectionElements root' kind "rule").map (RuleElement.mk isGlobal)) := by
    intro kind member isGlobal
    have other : kind ≠ "rule" := by
      rintro rfl
      simp at member
    rw [List.forall₂_map_left_iff, List.forall₂_map_right_iff]
    exact (sectionElements_agree agree other (here kind (List.mem_cons_of_mem _ member))
      (there kind (List.mem_cons_of_mem _ member)) "rule").imp fun _ _ same => ⟨rfl, same⟩
  have all : List.Forall₂ (fun r r' => r.isGlobal = r'.isGlobal ∧ Agree r.element r'.element)
      (enabledElements root) (enabledElements root') := by
    refine List.rel_filter (fun r r' same => by simp only [same.2.isDisabled_eq]) ?_
    exact List.rel_append (elements _ (by simp) true) (elements _ (by simp) false)
  have enabled : ∀ r ∈ enabledElements root, isDisabled r.element = false := by
    intro r member
    simpa using (List.mem_filter.mp member).2
  exact ((List.forall₂_and_left _ _).mpr ⟨enabled, all⟩).imp
    fun _ _ both => ⟨both.2.1, both.2.2.akin both.1⟩

/-- Rewrite elements that agree have the same rules, or the same fault at elements that agree. -/
theorem rulesIn_alike {root root' : Element} (agree : Agree root root')
    (here : ∀ kind ∈ ["rewriteMaps", "globalRules", "rules"], Shows root kind)
    (there : ∀ kind ∈ ["rewriteMaps", "globalRules", "rules"], Shows root' kind)
    (tables : LookupTables) :
    AlikeEq (rulesIn root tables options) (rulesIn root' tables options) := by
  have maps : List.Forall₂ Akin (sectionElements root "rewriteMaps" "rewriteMap")
      (sectionElements root' "rewriteMaps" "rewriteMap") :=
    akin_of_named (fun x member => by simp [sectionElements_name member])
      (sectionElements_agree agree (by decide) (here _ (by simp)) (there _ (by simp)) _)
  rw [rulesIn_eq, rulesIn_eq]
  refine (addTables_alike tables maps).bind fun known => ?_
  refine alike_mapM (enabledElements_akin agree here there) ?_
  rintro ⟨isGlobal, e⟩ ⟨_, e'⟩ ⟨rfl, akin⟩
  exact compile_alike akin isGlobal

/-! ## 3. Documents -/

/-- The same rules, or the same fault at the places of elements that agree. -/
inductive SameOutcome (text text' : String) :
    Except SectionError (List Rule) → Except SectionError (List Rule) → Prop
  | rules (rules : List Rule) : SameOutcome text text' (.ok rules) (.ok rules)
  | fault {e e' : Element} {fault : SectionFault} : Agree e e' →
      SameOutcome text text' (.error (.fault (placeOf text e) fault))
        (.error (.fault (placeOf text' e') fault))

theorem Alike.located {x x' : Reading (List Rule)} (alike : AlikeEq x x') (text text' : String) :
    SameOutcome text text'
      (x.mapError fun found => .fault (placeOf text found.1) found.2)
      (x'.mapError fun found => .fault (placeOf text' found.1) found.2) := by
  cases alike with
  | ok same =>
    subst same
    exact .rules _
  | error elements => exact .fault elements

theorem readRules_alike {text text' : String} {document document' : Element}
    (reads : readDocument text = some document) (reads' : readDocument text' = some document')
    (agree : Agree document document') (here : Exposed document) (there : Exposed document')
    (tables : LookupTables) (options : RuleOptions) :
    SameOutcome text text' (readRules text tables options) (readRules text' tables options) := by
  unfold readRules
  rw [reads, reads']
  rcases first_agree agree here.root there.root with
    ⟨first, first'⟩ | ⟨root, root', first, first', roots, _⟩
  · simp only [first, first']
    exact .rules []
  · simp only [first, first']
    exact (rulesIn_alike roots (here.sections root first) (there.sections root' first')
      tables).located text text'

/-- A document without a rewrite element has no rules. Of one whose maps are valid, the enabled
rule elements of the first rewrite element are compiled one by one, with the maps of the caller
and of the document. What is inside of disabled rules does not matter, unless the rewrite element
or a section of it is there. -/
theorem document_rules {text : String} {document : Element}
    (reads : readDocument text = some document) (tables : LookupTables) (options : RuleOptions) :
    (document.first? "rewrite" = none → readRules text tables options = .ok []) ∧
    (∀ root, document.first? "rewrite" = some root →
      (∀ e ∈ sectionElements root "rewriteMaps" "rewriteMap", IsTable e) →
      ∃ known, addTables tables (sectionElements root "rewriteMaps" "rewriteMap") = .ok known ∧
        OneByOne text known options (enabledElements root) (readRules text tables options)) ∧
    (∀ text' document', readDocument text' = some document' → Agree document document' →
      Exposed document → Exposed document' →
      SameOutcome text text' (readRules text tables options)
        (readRules text' tables options)) := by
  refine ⟨fun absent => ?_, fun root first valid => ?_,
    fun text' document' reads' agree here there =>
      readRules_alike reads reads' agree here there tables options⟩
  · simp [readRules, reads, absent]
  · obtain ⟨known, adds⟩ := addTables_of_isTable tables valid
    refine ⟨known, adds, ?_⟩
    rw [readRules_eq reads first adds options]
    exact oneByOne text known options (enabledElements root)

/-! ## 4. A disabled rule with a section inside -/

/-- The characters of a document with a rule for the path `/`, and before it an element among the
global rules. -/
def exChars (global : List String) : List Char :=
  (["<rewrite>", "<rewriteMaps>", "<rewriteMap name='m'>", "<add key='a' value='b'/>",
    "</rewriteMap>", "</rewriteMaps>", "<globalRules>"] ++ global ++ ["</globalRules>", "<rules>",
    "<rule patternSyntax='ExactMatch'>", "<match url='/'/>", "<action url='\x7bm:a\x7d'/>",
    "</rule>", "</rules>", "</rewrite>"]).flatMap String.toList

def exText (global : List String) : String := String.ofList (exChars global)

/-- Its tree; the element among the global rules is `length` characters long. -/
def exTree (global : Element) (length : Nat) : Element :=
  .mk "rewrite" [] [
    .mk "rewriteMaps" [] [.mk "rewriteMap" [⟨none, "name", "m"⟩] [
      .mk "add" [⟨none, "key", "a"⟩, ⟨none, "value", "b"⟩] [] 43] 22] 9,
    .mk "globalRules" [] [global] 94,
    .mk "rules" [] [.mk "rule" [⟨none, "patternSyntax", "ExactMatch"⟩] [
      .mk "match" [⟨none, "url", "/"⟩] [] (length + 161),
      .mk "action" [⟨none, "url", "\x7bm:a\x7d"⟩] [] (length + 177)] (length + 128)]
      (length + 121)] 0

/-- A disabled rule without anything. -/
def exEmpty : String := exText ["<rule enabled='false'/>"]

def exEmptyTree : Element := exTree (.mk "rule" [⟨none, "enabled", "false"⟩] [] 107) 23

/-- A disabled rule that could not be compiled. -/
def exFaulty : String :=
  exText ["<rule enabled=' FALSE' stopProcessing='?'>", "<action url=''/>", "</rule>"]

def exFaultyTree : Element :=
  exTree (.mk "rule" [⟨none, "enabled", " FALSE"⟩, ⟨none, "stopProcessing", "?"⟩]
    [.mk "action" [⟨none, "url", ""⟩] [] 149] 107) 65

/-- A disabled rule that holds a section. -/
def exNested : String := exText ["<rule enabled='false'>", "<rules/>", "</rule>"]

def exNestedTree : Element :=
  exTree (.mk "rule" [⟨none, "enabled", "false"⟩] [.mk "rules" [] [] 129] 107) 37

theorem exEmpty_reads : readDocument exEmpty = some exEmptyTree := by
  unfold exEmpty exText readDocument
  rw [String.toList_ofList]
  decide +kernel

theorem exFaulty_reads : readDocument exFaulty = some exFaultyTree := by
  unfold exFaulty exText readDocument
  rw [String.toList_ofList]
  decide +kernel

theorem exNested_reads : readDocument exNested = some exNestedTree := by
  unfold exNested exText readDocument
  rw [String.toList_ofList]
  decide +kernel

/-- A document that begins with its rewrite element. -/
theorem exposed_of_first {root : Element} (first : root.first? "rewrite" = some root)
    (exposes : ∀ kind ∈ ["rewrite", "rewriteMaps", "globalRules", "rules"], Shows root kind) :
    Exposed root where
  root := exposes _ List.mem_cons_self
  sections found finds kind member := by
    rw [first] at finds
    cases finds
    exact exposes kind (List.mem_cons_of_mem _ member)

theorem exTree_agree {first second : Element} (agree : Agree first second)
    (length length' : Nat) : Agree (exTree first length) (exTree second length') :=
  .same (.cons (.same (.cons (.same (.cons (.same .nil) .nil)) .nil))
    (.cons (.same (.cons agree .nil))
      (.cons (.same (.cons (.same (.cons (.same .nil) (.cons (.same .nil) .nil))) .nil)) .nil)))

/-- The rules of a document do not depend on a disabled rule that could not be compiled. -/
theorem document_rules_faulty :
    readDocument exFaulty = some exFaultyTree ∧
    (∃ known, addTables {} (sectionElements exFaultyTree "rewriteMaps" "rewriteMap") = .ok known ∧
      OneByOne exFaulty known {} (enabledElements exFaultyTree) (readRules exFaulty {} {})) ∧
    SameOutcome exFaulty exEmpty (readRules exFaulty {} {}) (readRules exEmpty {} {}) ∧
    (readRules exFaulty {} {}).toOption.map List.length = some 1 := by
  obtain ⟨_, oneByOne, same⟩ := document_rules exFaulty_reads {} {}
  have first : exFaultyTree.first? "rewrite" = some exFaultyTree := by decide +kernel
  have agree : Agree exFaultyTree exEmptyTree :=
    exTree_agree (.disabled (by decide +kernel) (by decide +kernel)) _ _
  have faulty : Exposed exFaultyTree := exposed_of_first first (by decide +kernel)
  have empty : Exposed exEmptyTree := exposed_of_first (by decide +kernel) (by decide +kernel)
  refine ⟨exFaulty_reads, oneByOne _ first (by decide +kernel),
    same _ _ exEmpty_reads agree faulty empty, ?_⟩
  rw [readRules, exFaulty_reads]
  decide +kernel

/-- A disabled rule that holds an empty section hides the section behind it, so that the document
loses its rule. -/
theorem disabled_rule_matters :
    readDocument exNested = some exNestedTree ∧ readDocument exEmpty = some exEmptyTree ∧
    Agree exNestedTree exEmptyTree ∧
    (readRules exNested {} {}).toOption.map List.length = some 0 ∧
    (readRules exEmpty {} {}).toOption.map List.length = some 1 := by
  refine ⟨exNested_reads, exEmpty_reads,
    exTree_agree (.disabled (by decide +kernel) (by decide +kernel)) _ _, ?_, ?_⟩
  · rw [readRules, exNested_reads]
    decide +kernel
  · rw [readRules, exEmpty_reads]
    decide +kernel

end Reroute.RewriteSection
