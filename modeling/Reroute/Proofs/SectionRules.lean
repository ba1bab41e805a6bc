import Reroute.Proofs.ConditionGroups
import Reroute.Proofs.SectionFaults

/-!
# Rules of documents

The rule elements of a document are those directly in its first section for global rules and then
those in its first section for other rules. The ones that are not disabled are compiled one by one,
each from its own element, the known tables and the options. The first that fails is what the
document is refused for.

Results:
1. `table_of_isTable`, `addTables_of_isTable`: maps that are valid.
2. `rulesIn_eq`: the rules of a rewrite element, one for each enabled rule element.
3. `oneByOne`: the rules of a document, and where its first fault is.
-/

namespace Reroute.RewriteSection

open Reroute.Markup

/-! ## 1. Maps -/

/-- A map element with a name, all of whose entries have a key and a value. -/
def IsTable (e : Element) : Prop :=
  (e.attribute? "name").isSome = true ∧
    ∀ x ∈ e.childrenNamed "add",
      (x.attribute? "key").isSome = true ∧ (x.attribute? "value").isSome = true

instance (e : Element) : Decidable (IsTable e) := inferInstanceAs (Decidable (_ ∧ _))

theorem table_of_isTable {e : Element} (valid : IsTable e) : ∃ t, table e = .ok t := by
  obtain ⟨named, complete⟩ := valid
  obtain ⟨name, given⟩ := Option.isSome_iff_exists.mp named
  have entries : ∃ read, (e.childrenNamed "add").mapM entry = .ok read := by
    refine mapM_succeeds_iff.mpr fun x member => ?_
    obtain ⟨hasKey, hasValue⟩ := complete x member
    obtain ⟨key, keyGiven⟩ := Option.isSome_iff_exists.mp hasKey
    obtain ⟨value, valueGiven⟩ := Option.isSome_iff_exists.mp hasValue
    exact ⟨(key, value), by simp [entry, keyGiven, valueGiven]⟩
  obtain ⟨read, reads⟩ := entries
  exact ⟨.ofEntries name (e.attribute? "defaultValue") read,
    bind_ok_iff.mpr ⟨name, by simp [required, given], bind_ok_iff.mpr ⟨read, reads, rfl⟩⟩⟩

theorem addTables_of_isTable (tables : LookupTables) {elements : List Element}
    (valid : ∀ e ∈ elements, IsTable e) : ∃ known, addTables tables elements = .ok known := by
  induction elements generalizing tables with
  | nil => exact ⟨tables, rfl⟩
  | cons e rest ih =>
    obtain ⟨here, others⟩ := List.forall_mem_cons.mp valid
    obtain ⟨t, reads⟩ := table_of_isTable here
    obtain ⟨known, later⟩ := ih (tables.addMissing t) others
    refine ⟨known, ?_⟩
    rw [addTables, List.foldlM_cons, reads]
    exact later

/-! ## 2. Enabled rules -/

/-- A rule element that is switched off. -/
def isDisabled (e : Element) : Bool :=
  e.name == "rule" &&
    (e.attribute? "enabled").any fun value => Text.sameAsciiCase (Text.trim value) "false"

/-- A rule element of a section. -/
structure RuleElement where
  isGlobal : Bool
  element : Element

/-- The rule elements of a rewrite element, global ones first. -/
def ruleElements (root : Element) : List RuleElement :=
  (sectionElements root "globalRules" "rule").map (⟨true, ·⟩) ++
    (sectionElements root "rules" "rule").map (⟨false, ·⟩)

/-- The rule elements that are not disabled. -/
def enabledElements (root : Element) : List RuleElement :=
  (ruleElements root).filter fun r => !isDisabled r.element

/-- The rule of an element that is not disabled. Its switch may still be one that is refused. -/
def RuleElement.compile (tables : LookupTables) (options : RuleOptions) (r : RuleElement) :
    Reading Rule :=
  switch r.element "enabled" true >>= fun _ => enabledRule tables options r.isGlobal r.element

variable {tables : LookupTables} {options : RuleOptions}

theorem sectionElements_name {root e : Element} {kind name : String}
    (member : e ∈ sectionElements root kind name) : e.name = name := by
  unfold sectionElements at member
  split at member
  · cases member
  · simpa using (List.mem_filter.mp member).2

/-- A rule element is dropped if it is disabled, else it is compiled. -/
theorem rule_eq {e : Element} (isRule : e.name = "rule") (isGlobal : Bool) :
    rule tables options isGlobal e =
      if isDisabled e then .ok none
      else (RuleElement.compile tables options ⟨isGlobal, e⟩).map some := by
  have disjoint : ∀ word, Text.sameAsciiCase word "true" = true →
      Text.sameAsciiCase word "false" = false := by
    intro word isTrue
    simp only [Text.sameAsciiCase, beq_iff_eq] at isTrue
    simp only [Text.sameAsciiCase, isTrue]
    decide
  unfold rule RuleElement.compile isDisabled switch
  rw [isRule]
  cases e.attribute? "enabled" with
  | none => rfl
  | some value =>
    dsimp only
    cases isTrue : Text.sameAsciiCase (Text.trim value) "true" with
    | true =>
      simp only [Option.any_some, disjoint _ isTrue]
      rfl
    | false =>
      cases isFalse : Text.sameAsciiCase (Text.trim value) "false" with
      | true =>
        simp only [Option.any_some, isFalse]
        rfl
      | false =>
        simp only [Option.any_some, isFalse]
        rfl

theorem rulesOf_cons (isGlobal : Bool) (e : Element) (rest : List Element) :
    rulesOf tables options isGlobal (e :: rest) =
      rule tables options isGlobal e >>= fun found =>
        (rulesOf tables options isGlobal rest).map fun more => found.toList ++ more := by
  rw [rulesOf, rulesOf, List.mapM_cons]
  cases rule tables options isGlobal e with
  | error e => rfl
  | ok found =>
    cases rest.mapM (rule tables options isGlobal) with
    | error e => rfl
    | ok others => cases found <;> rfl

theorem rulesOf_eq (isGlobal : Bool) {elements : List Element}
    (named : ∀ e ∈ elements, e.name = "rule") :
    rulesOf tables options isGlobal elements =
      ((elements.map (RuleElement.mk isGlobal)).filter fun r => !isDisabled r.element).mapM
        (RuleElement.compile tables options) := by
  induction elements with
  | nil => rfl
  | cons e rest ih =>
    obtain ⟨here, others⟩ := List.forall_mem_cons.mp named
    rw [rulesOf_cons, rule_eq here, ih others, List.map_cons, List.filter_cons]
    cases isDisabled e with
    | true =>
      simp only [↓reduceIte, Bool.not_true, Bool.false_eq_true]
      cases List.mapM (RuleElement.compile tables options) _ <;> rfl
    | false =>
      simp only [Bool.false_eq_true, ↓reduceIte, Bool.not_false, List.mapM_cons]
      cases RuleElement.compile tables options ⟨isGlobal, e⟩ <;> rfl

/-- The rules of a rewrite element come from its enabled rule elements, one by one. -/
theorem rulesIn_eq (root : Element) (tables : LookupTables) :
    rulesIn root tables options =
      addTables tables (sectionElements root "rewriteMaps" "rewriteMap") >>= fun known =>
        (enabledElements root).mapM (RuleElement.compile known options) := by
  unfold rulesIn enabledElements ruleElements
  refine bind_congr fun known => ?_
  rw [rulesOf_eq true fun _ => sectionElements_name, rulesOf_eq false fun _ => sectionElements_name,
    List.filter_append, List.mapM_append]
  rfl

theorem compile_isGlobal {r : RuleElement} {made : Rule}
    (compiles : r.compile tables options = .ok made) : made.isGlobal = r.isGlobal := by
  obtain ⟨_, _, compiles⟩ := bind_ok_iff.mp compiles
  obtain ⟨d, finished⟩ := enabledRule_build compiles
  obtain ⟨_, _, _, rfl, _⟩ := RuleDraft.build_ok_iff.mp finished
  rfl

theorem compile_offends {r : RuleElement} {x : Element} {fault : SectionFault}
    (fails : r.compile tables options = .error (x, fault)) :
    ∃ kind, Part r.element kind x ∧ Offends tables options kind x fault := by
  rcases bind_error_iff.mp fails with fails | ⟨_, _, fails⟩
  · exact Part.rule.offends (switch_offends .rule fails (by simp [PartKind.settings]))
  · exact enabledRule_offends fails

/-! ## 3. Documents -/

/-- The first element in a list that fails to compile, and its fault. -/
def FirstFault (known : LookupTables) (options : RuleOptions) (elements : List RuleElement)
    (r : RuleElement) (x : Element) (fault : SectionFault) : Prop :=
  ∃ front back, elements = front ++ r :: back ∧
    (∀ other ∈ front, ∃ made, other.compile known options = .ok made) ∧
    r.compile known options = .error (x, fault)

/-- The outcome of compiling rule elements one by one: the rules of all of them, or the first
fault, at the place of the element that is at fault. -/
structure OneByOne (text : String) (known : LookupTables) (options : RuleOptions)
    (elements : List RuleElement) (outcome : Except SectionError (List Rule)) : Prop where
  accepted : (∃ rules, outcome = .ok rules) ↔
    ∀ r ∈ elements, ∃ made, r.compile known options = .ok made
  rules : ∀ rules, outcome = .ok rules → List.Forall₂
    (fun r made => r.compile known options = .ok made ∧ made.isGlobal = r.isGlobal) elements rules
  refused : ∀ e, outcome = .error e ↔ ∃ r x fault, FirstFault known options elements r x fault ∧
    (∃ kind, Part r.element kind x ∧ Offends known options kind x fault) ∧
    e = .fault (placeOf text x) fault

theorem oneByOne (text : String) (known : LookupTables) (options : RuleOptions)
    (elements : List RuleElement) :
    OneByOne text known options elements
      ((elements.mapM (RuleElement.compile known options)).mapError
        fun found => .fault (placeOf text found.1) found.2) where
  accepted := by
    simp only [mapError_ok_iff]
    exact mapM_succeeds_iff
  rules made reads :=
    (mapM_ok_iff.mp (mapError_ok_iff.mp reads)).imp
      fun _ _ compiles => ⟨compiles, compile_isGlobal compiles⟩
  refused e := by
    rw [mapError_error_iff]
    constructor
    · rintro ⟨⟨x, fault⟩, fails, rfl⟩
      obtain ⟨front, r, back, whole, before, here⟩ := mapM_error_iff.mp fails
      exact ⟨r, x, fault, ⟨front, back, whole, before, here⟩, compile_offends here, rfl⟩
    · rintro ⟨r, x, fault, ⟨front, back, whole, before, here⟩, _, rfl⟩
      exact ⟨(x, fault), mapM_error_iff.mpr ⟨front, r, back, whole, before, here⟩, rfl⟩

theorem readRules_eq {text : String} {document root : Element}
    (reads : readDocument text = some document) (first : document.first? "rewrite" = some root)
    {tables known : LookupTables}
    (adds : addTables tables (sectionElements root "rewriteMaps" "rewriteMap") = .ok known)
    (options : RuleOptions) :
    readRules text tables options =
      ((enabledElements root).mapM (RuleElement.compile known options)).mapError
        fun found => .fault (placeOf text found.1) found.2 := by
  unfold readRules
  rw [reads]
  simp only [first, rulesIn_eq, adds]
  rfl

end Reroute.RewriteSection
