import Reroute.Apply

/-!
# References to captured groups

A template refers to groups by their numbers, at any depth below its functions and lookups.
Whether all of them are there is found out in two ways: a check collects the references and
resolves them one by one, and the expansion resolves them where they stand.

Results:
1. `get_ok_iff`: a group number is good exactly below the number of all captured groups.
2. `mem_references`: the check collects what the template mentions, at any depth.
3. `expand_outline`: check and expansion succeed together and fail with the same error, so
   neither the request nor the encoding of groups matters.
4. `check_ok_iff`, `checkActions_ok_iff`: the checks pass when no mentioned group is missing.
-/

namespace Reroute

/-! ## 1. Group numbers -/

namespace GroupSets

/-- Walking the sets is the same as counting through all groups. -/
theorem find_eq_getElem (sets : List (List String)) (index : Nat) :
    find? sets index = sets.flatten[index]? := by
  induction sets generalizing index with
  | nil => rfl
  | cons set rest ih =>
    rw [find?, List.flatten_cons]
    by_cases within : index < set.length
    · rw [List.getElem?_append_left within, List.getElem?_eq_getElem within]
    · rw [List.getElem?_append_right (Nat.le_of_not_lt within),
        List.getElem?_eq_none (Nat.le_of_not_lt within)]
      exact ih _

theorem get_ok_iff (g : GroupSets) (index : Nat) :
    (∃ group, g.get index = .ok group) ↔ index < g.toList.length := by
  rw [get, find_eq_getElem, ← toList]
  by_cases within : index < g.toList.length
  · simp [within]
  · simp [within]

end GroupSets

/-- The group that a reference stands for has not been captured. -/
def Reference.Missing (c : Captures) : Reference → Prop
  | .rule n => c.rule.toList.length ≤ n
  | .condition n => c.conditions.toList.length ≤ n

theorem Reference.resolve_ok_iff (c : Captures) (reference : Reference) :
    (∃ group, reference.resolve c = .ok group) ↔ ¬ reference.Missing c := by
  cases reference with
  | rule n => exact (c.rule.get_ok_iff n).trans Nat.not_le.symm
  | condition n => exact (c.conditions.get_ok_iff n).trans Nat.not_le.symm

/-! ## 2. What a template mentions -/

namespace Template

/-- A reference stands somewhere in a template, in the open or below functions and lookups. -/
inductive Mentions (reference : Reference) : Template → Prop
  | ruleGroup {t : Template} {n : Nat} :
      .ruleGroup n ∈ t → reference = .rule n → Mentions reference t
  | conditionGroup {t : Template} {n : Nat} :
      .conditionGroup n ∈ t → reference = .condition n → Mentions reference t
  | function {t inner : Template} {f : TextFunction} :
      .function f inner ∈ t → Mentions reference inner → Mentions reference t
  | lookup {t inner : Template} {table : LookupTable} :
      .lookup table inner ∈ t → Mentions reference inner → Mentions reference t

theorem Mentions.of_mem {reference : Reference} {segment : Segment} {t : Template}
    (h : Mentions reference [segment]) (member : segment ∈ t) : Mentions reference t := by
  cases h with
  | ruleGroup found same => exact .ruleGroup (List.mem_singleton.mp found ▸ member) same
  | conditionGroup found same => exact .conditionGroup (List.mem_singleton.mp found ▸ member) same
  | function found below => exact .function (List.mem_singleton.mp found ▸ member) below
  | lookup found below => exact .lookup (List.mem_singleton.mp found ▸ member) below

theorem references_eq_flatMap (t : Template) : references t = t.flatMap segmentReferences := by
  induction t with
  | nil => rfl
  | cons segment rest ih => rw [references, ih, List.flatMap_cons]

theorem mentions_of_segment {reference : Reference} (segment : Segment)
    (h : reference ∈ segmentReferences segment) : Mentions reference [segment] := by
  match segment with
  | .literal _ | .server _ | .currentUrl => cases h
  | .ruleGroup n => exact .ruleGroup List.mem_cons_self (List.mem_singleton.mp h)
  | .conditionGroup n => exact .conditionGroup List.mem_cons_self (List.mem_singleton.mp h)
  | .function f inner =>
    refine .function List.mem_cons_self ?_
    rw [segmentReferences, references_eq_flatMap, List.mem_flatMap] at h
    obtain ⟨below, member, held⟩ := h
    exact (mentions_of_segment below held).of_mem member
  | .lookup table inner =>
    refine .lookup List.mem_cons_self ?_
    rw [segmentReferences, references_eq_flatMap, List.mem_flatMap] at h
    obtain ⟨below, member, held⟩ := h
    exact (mentions_of_segment below held).of_mem member

theorem mem_references {reference : Reference} {t : Template} :
    reference ∈ references t ↔ Mentions reference t := by
  constructor
  · intro h
    rw [references_eq_flatMap, List.mem_flatMap] at h
    obtain ⟨segment, member, held⟩ := h
    exact (mentions_of_segment segment held).of_mem member
  · intro h
    induction h with
    | ruleGroup found same | conditionGroup found same =>
      rw [references_eq_flatMap, List.mem_flatMap]
      exact ⟨_, found, List.mem_singleton.mpr same⟩
    | function found _ ih | lookup found _ ih =>
      rw [references_eq_flatMap, List.mem_flatMap]
      exact ⟨_, found, ih⟩

/-! ## 3. Check and expansion -/

theorem resolveAll_append (c : Captures) (first second : List Reference) :
    resolveAll c (first ++ second) =
      match resolveAll c first with
      | .ok _ => resolveAll c second
      | .error e => .error e := by
  induction first with
  | nil => rfl
  | cons reference rest ih =>
    rw [List.cons_append, resolveAll, resolveAll]
    cases reference.resolve c with
    | ok _ => exact ih
    | error _ => rfl

theorem group_outline (s : Scene) (reference : Reference) :
    (s.group reference).map (fun _ => ()) = resolveAll s.captures [reference] := by
  rw [Scene.group, resolveAll]
  cases reference.resolve s.captures <;> rfl

mutual

theorem expandSegment_outline (s : Scene) (segment : Segment) :
    (expandSegment s segment).map (fun _ => ()) =
      resolveAll s.captures (segmentReferences segment) := by
  cases segment with
  | literal _ | server _ | currentUrl => simp only [expandSegment, segmentReferences]; rfl
  | ruleGroup n =>
    rw [expandSegment, segmentReferences]
    exact group_outline s (.rule n)
  | conditionGroup n =>
    rw [expandSegment, segmentReferences]
    exact group_outline s (.condition n)
  | function f inner =>
    rw [expandSegment, segmentReferences, ← check, ← expand_outline s inner]
    cases expand s inner <;> rfl
  | lookup table inner =>
    rw [expandSegment, segmentReferences, ← check, ← expand_outline s inner]
    cases expand s inner <;> rfl

/-- A template expands exactly if its check passes, and both fail with the same error. -/
theorem expand_outline (s : Scene) (t : List Segment) :
    (expand s t).map (fun _ => ()) = check t s.captures := by
  cases t with
  | nil => simp only [expand, check, references]; rfl
  | cons segment rest =>
    rw [check, references, resolveAll_append, ← expandSegment_outline s segment, expand]
    cases expandSegment s segment with
    | error e => rfl
    | ok text =>
      -- The first segment is there, so both go on with the rest.
      have rest := expand_outline s rest
      rw [check] at rest
      dsimp only [Except.map]
      rw [← rest]
      cases expand s _ <;> rfl

end

/-! ## 4. Checks that pass -/

theorem resolveAll_ok_iff (c : Captures) (references : List Reference) :
    resolveAll c references = .ok () ↔ ∀ reference ∈ references, ¬ reference.Missing c := by
  induction references with
  | nil => simp [resolveAll]
  | cons reference rest ih =>
    rw [resolveAll, List.forall_mem_cons, ← ih, ← reference.resolve_ok_iff c]
    cases reference.resolve c with
    | ok group => simp
    | error e => simp

theorem check_ok_iff (t : Template) (c : Captures) :
    check t c = .ok () ↔ ∀ reference, Mentions reference t → ¬ reference.Missing c := by
  rw [check, resolveAll_ok_iff]
  simp only [mem_references]

/-- A template whose check has passed can be expanded in every request. -/
theorem expands_of_check {t : Template} {c : Captures} (h : check t c = .ok ()) (s : Scene)
    (same : s.captures = c) : ∃ text, expand s t = .ok text := by
  have outline := expand_outline s t
  rw [same, h] at outline
  cases expanded : expand s t with
  | ok text => exact ⟨text, rfl⟩
  | error e => rw [expanded] at outline; cases outline

end Template

theorem Rule.checkActions_ok_iff (c : Captures) (actions : List Action) :
    checkActions c actions = .ok () ↔ ∀ a ∈ actions, Template.check a.url c = .ok () := by
  induction actions with
  | nil => simp [checkActions]
  | cons a rest ih =>
    rw [checkActions, List.forall_mem_cons, ← ih]
    cases Template.check a.url c with
    | ok _ => simp
    | error e => simp

end Reroute
