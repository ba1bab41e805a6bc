import Reroute.Proofs.MatchGroups
import Reroute.Proofs.SectionRules

/-!
# Templates of rule elements

The templates of a rule are read from the inputs of the conditions of its element and from the url
of its action, in this order. If one of them cannot be read, the fault of the rule says why.

Results:
1. `templateTexts`, `compile_templates`: the texts of a rule element and what is read from them.
2. `compile_template_error`: a fault of a template is that of one of these texts.
-/

namespace Reroute.RewriteSection

open Reroute.Markup Reroute.Template

/-! ## 1. Texts -/

/-- The text of the input of a condition. -/
def inputText (e : Element) : String := (e.attribute? "input").getD ""

/-- The text of the url of an action. -/
def urlText (e : Element) : String := (e.attribute? "url").getD ""

/-- The condition elements of a rule element. -/
def conditionElements (e : Element) : List Element :=
  (e.child? "conditions").toList.flatMap fun list => list.childrenNamed "add"

/-- The texts of the templates of a rule element, each with the element that has it. -/
def templateTexts (e : Element) : List (Element × String) :=
  (conditionElements e).map (fun x => (x, inputText x)) ++
    (e.child? "action").toList.map fun x => (x, urlText x)

variable {tables : LookupTables} {options : RuleOptions} {e : Element}

theorem readTemplate_ok {text : String} {t : Template}
    (reads : readTemplate tables e text = .ok t) : ofBraced tables text = .ok t :=
  mapError_ok_iff.mp reads

theorem action_url {stop : Bool} {a : Action} (reads : action tables e stop = .ok a) :
    ofBraced tables (urlText e) = .ok a.url := by
  simp only [action, bind_ok_iff] at reads
  obtain ⟨_, _, _, _, _, _, reads⟩ := reads
  split at reads
  · cases reads
  · obtain ⟨url, read, _, _, rfl⟩ := by simpa only [bind_ok_iff, Except.ok.injEq] using reads
    exact readTemplate_ok read

/-- A condition is added behind the ones before it, with the input that its element has. -/
theorem addCondition_input {style : PatternSyntax} {d made : RuleDraft}
    (reads : addCondition tables style d e = .ok made) :
    ∃ c : Condition, ofBraced tables (inputText e) = .ok c.input ∧ made = d.pushCondition c := by
  simp only [addCondition, bind_ok_iff, mapError_ok_iff, RuleDraft.addCondition, map_ok_iff]
    at reads
  obtain ⟨_, _, _, _, _, _, written, given, input, read, _, _, rfl⟩ := reads
  refine ⟨_, ?_, rfl⟩
  rw [inputText, required_ok given]
  exact readTemplate_ok read

/-- The inputs of the conditions of a draft. -/
def inputs (d : RuleDraft) : List Template := (d.conditions.getD {}).items.map (·.input)

theorem inputs_pushCondition (d : RuleDraft) (c : Condition) :
    inputs (d.pushCondition c) = inputs d ++ [c.input] := by
  simp [inputs, RuleDraft.pushCondition, Conditions.push]

theorem foldlM_inputs {style : PatternSyntax} {elements : List Element} {d made : RuleDraft}
    (reads : elements.foldlM (addCondition tables style) d = .ok made) :
    ∃ added, inputs made = inputs d ++ added ∧
      List.Forall₂ (fun x t => ofBraced tables (inputText x) = .ok t) elements added := by
  induction elements generalizing d with
  | nil =>
    cases reads
    exact ⟨[], (List.append_nil _).symm, .nil⟩
  | cons first rest ih =>
    rw [List.foldlM_cons, bind_ok_iff] at reads
    obtain ⟨next, step, reads⟩ := reads
    obtain ⟨c, read, rfl⟩ := addCondition_input step
    obtain ⟨added, whole, each⟩ := ih reads
    refine ⟨c.input :: added, ?_, .cons read each⟩
    rw [whole, inputs_pushCondition, List.append_assoc, List.singleton_append]

theorem addConditions_inputs {style : PatternSyntax} {d made : RuleDraft}
    (reads : addConditions tables style d e = .ok made) :
    List.Forall₂ (fun x t => ofBraced tables (inputText x) = .ok t) (e.childrenNamed "add")
      (inputs made) := by
  simp only [addConditions, bind_ok_iff] at reads
  obtain ⟨_, _, _, _, reads⟩ := reads
  obtain ⟨added, whole, each⟩ := foldlM_inputs reads
  rw [whole]
  exact each

/-- The templates of a draft with one action, once it is finished. -/
theorem build_templates {d : RuleDraft} {a : Action} {isGlobal : Bool} {made : Rule}
    (only : d.actions = []) (finished : (d.addAction a).build isGlobal = .ok made) :
    made.templates = inputs d ++ [a.url] := by
  obtain ⟨initialMatch, _, _, rfl, _⟩ := RuleDraft.build_ok_iff.mp finished
  unfold Rule.templates Rule.items inputs RuleDraft.described RuleDraft.addAction
  obtain ⟨_, _, _, _, conditions, _, _, _⟩ := d
  obtain rfl := only
  cases conditions <;> rfl

/-- The templates of a rule are read from the texts of its element. -/
theorem enabledRule_templates {isGlobal : Bool} {made : Rule}
    (compiles : enabledRule tables options isGlobal e = .ok made) :
    List.Forall₂ (fun written t => ofBraced tables written.2 = .ok t) (templateTexts e)
      made.templates := by
  simp only [enabledRule, bind_ok_iff] at compiles
  obtain ⟨_, _, stop, _, _, _, acting, hasAction, _, _, _, _, _, _, d, drafts, compiles⟩ := compiles
  obtain ⟨_, rfl⟩ := setMatch_ok (mapError_ok_iff.mp drafts)
  have finish : ∀ d : RuleDraft, d.actions = [] →
      List.Forall₂ (fun x t => ofBraced tables (inputText x) = .ok t) (conditionElements e)
        (inputs d) →
      (action tables acting stop >>= fun taken =>
        ((d.addAction taken).build isGlobal).mapError fun cause => (e, .build cause)) = .ok made →
      List.Forall₂ (fun written t => ofBraced tables written.2 = .ok t) (templateTexts e)
        made.templates := by
    intro d only guards compiles
    obtain ⟨taken, acts, finished⟩ := bind_ok_iff.mp compiles
    rw [build_templates only (mapError_ok_iff.mp finished), templateTexts,
      requiredChild_ok hasAction]
    exact List.rel_append (List.forall₂_map_left_iff.mpr guards) (.cons (action_url acts) .nil)
  cases listed : e.child? "conditions" with
  | none =>
    simp only [listed] at compiles
    exact finish _ rfl (by simp [conditionElements, listed, inputs]) compiles
  | some list =>
    simp only [listed] at compiles
    obtain ⟨guarded, guards, compiles⟩ := bind_ok_iff.mp compiles
    have inputs := addConditions_inputs guards
    obtain ⟨_, rfl⟩ := addConditions_ok guards
    exact finish _ rfl (by simpa [conditionElements, listed] using inputs) compiles

theorem compile_templates {r : RuleElement} {made : Rule}
    (compiles : r.compile tables options = .ok made) :
    List.Forall₂ (fun written t => ofBraced tables written.2 = .ok t) (templateTexts r.element)
      made.templates := by
  obtain ⟨_, _, compiles⟩ := bind_ok_iff.mp compiles
  exact enabledRule_templates compiles

/-! ## 2. Faults -/

/-- Where a template is at fault, this is the reason why the text of the element is not read. -/
theorem compile_template_error {r : RuleElement} {x : Element} {cause : TemplateError}
    (fails : r.compile tables options = .error (x, .template cause)) :
    ∃ written ∈ templateTexts r.element, written.1 = x ∧
      ofBraced tables written.2 = .error cause := by
  obtain ⟨kind, part, offends⟩ := compile_offends fails
  cases offends with
  | input given refused =>
    cases part with
    | condition listed member =>
      refine ⟨(x, inputText x), List.mem_append_left _ (List.mem_map.mpr ⟨x, ?_, rfl⟩), rfl, ?_⟩
      · simpa [conditionElements, listed] using member
      · simpa [inputText, given] using refused
  | url refused =>
    cases part with
    | action here =>
      exact ⟨(x, urlText x), List.mem_append_right _ (by simp [here]), rfl, refused⟩

end Reroute.RewriteSection
