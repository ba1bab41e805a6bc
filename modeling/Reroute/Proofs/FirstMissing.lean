import Reroute.Proofs.References

/-!
# The first missing group

The check of a template and its expansion walk the template in their own ways. Both come to the same
first reference whose group is missing, in reading order and at any depth, and both fail for it with
its number and with how many groups of its kind there are. Nothing else makes either of them fail,
so the request, the scope of the rule and the encoding of groups have no say in it.

Results:
1. `resolve_error_iff`: what a reference fails with.
2. `check_error_iff`: the check fails for the first missing group.
3. `expand_ok_iff`, `expand_error_iff`: the expansion does what the check does.
4. `expansion_decided`: both as a whole.
-/

namespace Reroute

/-! ## 1. References that fail -/

/-- The number of a reference with how many groups of its kind there are. -/
def Reference.lack (c : Captures) : Reference → OutOfRange
  | .rule n => ⟨n, c.rule.len⟩
  | .condition n => ⟨n, c.conditions.len⟩

theorem GroupSets.get_error_iff (g : GroupSets) (index : Nat) (e : OutOfRange) :
    g.get index = .error e ↔ g.toList.length ≤ index ∧ e = ⟨index, g.len⟩ := by
  rw [get, find_eq_getElem, ← toList]
  by_cases within : index < g.toList.length
  · simp [within, Nat.not_le.mpr within]
  · simp [within, Nat.le_of_not_lt within, eq_comm]

theorem Reference.resolve_error_iff {c : Captures} {reference : Reference} {e : OutOfRange} :
    reference.resolve c = .error e ↔ reference.Missing c ∧ e = reference.lack c := by
  cases reference with
  | rule n => exact c.rule.get_error_iff n e
  | condition n => exact c.conditions.get_error_iff n e

namespace Template

/-! ## 2. The check -/

/-- `FirstMissing c t reference`: of the references of the template whose groups are missing this is
the first in reading order. -/
inductive FirstMissing (c : Captures) : Template → Reference → Prop
  | ruleGroup {n : Nat} {rest : Template} :
      (Reference.rule n).Missing c → FirstMissing c (.ruleGroup n :: rest) (.rule n)
  | conditionGroup {n : Nat} {rest : Template} :
      (Reference.condition n).Missing c →
      FirstMissing c (.conditionGroup n :: rest) (.condition n)
  | function {f : TextFunction} {inner rest : Template} {reference : Reference} :
      FirstMissing c inner reference → FirstMissing c (.function f inner :: rest) reference
  | lookup {table : LookupTable} {inner rest : Template} {reference : Reference} :
      FirstMissing c inner reference → FirstMissing c (.lookup table inner :: rest) reference
  | later {segment : Segment} {rest : Template} {reference : Reference} :
      (∀ other, Mentions other [segment] → ¬ other.Missing c) →
      FirstMissing c rest reference → FirstMissing c (segment :: rest) reference

theorem check_cons (segment : Segment) (rest : Template) (c : Captures) :
    check (segment :: rest) c =
      match check [segment] c with
      | .ok _ => check rest c
      | .error e => .error e := by
  have alone : check [segment] c = resolveAll c (segmentReferences segment) := by
    rw [check, references, references, List.append_nil]
  have split : check (segment :: rest) c = _ :=
    resolveAll_append c (segmentReferences segment) (references rest)
  cases found : resolveAll c (segmentReferences segment) with
  | ok _ =>
    rw [found] at split
    rw [alone, found]
    exact split
  | error e =>
    rw [found] at split
    rw [alone, found]
    exact split

theorem check_function (f : TextFunction) (inner : Template) (c : Captures) :
    check [.function f inner] c = check inner c := by
  simp only [check, references, segmentReferences, List.append_nil]

theorem check_lookup (table : LookupTable) (inner : Template) (c : Captures) :
    check [.lookup table inner] c = check inner c := by
  simp only [check, references, segmentReferences, List.append_nil]

theorem resolveAll_single_error_iff {c : Captures} {reference : Reference} {e : OutOfRange} :
    resolveAll c [reference] = .error e ↔ reference.Missing c ∧ e = reference.lack c := by
  rw [← Reference.resolve_error_iff, resolveAll]
  cases reference.resolve c <;> simp [resolveAll]

theorem FirstMissing.check_error {c : Captures} {t : Template} {reference : Reference}
    (first : FirstMissing c t reference) : check t c = .error (reference.lack c) := by
  induction first with
  | @ruleGroup n rest missing =>
    have fails : check [.ruleGroup n] c = .error ((Reference.rule n).lack c) :=
      resolveAll_single_error_iff.mpr ⟨missing, rfl⟩
    rw [check_cons, fails]
  | @conditionGroup n rest missing =>
    have fails : check [.conditionGroup n] c = .error ((Reference.condition n).lack c) :=
      resolveAll_single_error_iff.mpr ⟨missing, rfl⟩
    rw [check_cons, fails]
  | function _ ih => rw [check_cons, check_function, ih]
  | lookup _ ih => rw [check_cons, check_lookup, ih]
  | @later segment _ _ complete _ ih =>
    rw [check_cons, (check_ok_iff [segment] c).mpr complete]
    exact ih

theorem exists_firstMissing {c : Captures} {e : OutOfRange} (t : Template)
    (fails : check t c = .error e) :
    ∃ reference, FirstMissing c t reference ∧ e = reference.lack c := by
  match t with
  | [] => cases fails
  | segment :: rest =>
    rw [check_cons] at fails
    cases first : check [segment] c with
    | ok _ =>
      rw [first] at fails
      obtain ⟨reference, later, same⟩ := exists_firstMissing rest fails
      exact ⟨reference, .later ((check_ok_iff [segment] c).mp first) later, same⟩
    | error other =>
      rw [first] at fails
      cases fails
      cases segment with
      | literal _ | server _ | currentUrl => cases first
      | ruleGroup n =>
        obtain ⟨missing, same⟩ := resolveAll_single_error_iff.mp first
        exact ⟨.rule n, .ruleGroup missing, same⟩
      | conditionGroup n =>
        obtain ⟨missing, same⟩ := resolveAll_single_error_iff.mp first
        exact ⟨.condition n, .conditionGroup missing, same⟩
      | function f inner =>
        rw [check_function] at first
        obtain ⟨reference, below, same⟩ := exists_firstMissing inner first
        exact ⟨reference, .function below, same⟩
      | lookup table inner =>
        rw [check_lookup] at first
        obtain ⟨reference, below, same⟩ := exists_firstMissing inner first
        exact ⟨reference, .lookup below, same⟩

theorem check_error_iff {c : Captures} {t : Template} {e : OutOfRange} :
    check t c = .error e ↔ ∃ reference, FirstMissing c t reference ∧ e = reference.lack c := by
  constructor
  · exact exists_firstMissing t
  · rintro ⟨reference, first, rfl⟩
    exact first.check_error

/-! ## 3. The expansion -/

theorem expand_ok_iff {s : Scene} {t : Template} :
    (∃ text, expand s t = .ok text) ↔ check t s.captures = .ok () := by
  rw [← expand_outline]
  cases expand s t <;> simp [Except.map]

theorem expand_error_iff {s : Scene} {t : Template} {e : OutOfRange} :
    expand s t = .error e ↔ check t s.captures = .error e := by
  rw [← expand_outline]
  cases expand s t <;> simp [Except.map]

/-! ## 4. Both -/

/-- Whether a template expands is decided by its references and the captures: in every request, in
every scope and with or without encoding it expands exactly if its check passes, and fails exactly
as its check fails. The check passes if no group that the template mentions at any depth is missing,
and otherwise fails for the first missing one in reading order. -/
theorem expansion_decided (t : Template) (c : Captures) :
    (∀ request isGlobal escape,
      ((∃ text, expand ⟨request, c, isGlobal, escape⟩ t = .ok text) ↔ check t c = .ok ()) ∧
      ∀ e, expand ⟨request, c, isGlobal, escape⟩ t = .error e ↔ check t c = .error e) ∧
    (check t c = .ok () ↔ ∀ reference, Mentions reference t → ¬ reference.Missing c) ∧
    (∀ e, check t c = .error e ↔
      ∃ reference, FirstMissing c t reference ∧ e = reference.lack c) :=
  ⟨fun _ _ _ => ⟨expand_ok_iff, fun _ => expand_error_iff⟩, check_ok_iff t c,
    fun _ => check_error_iff⟩

/-- Of two missing groups the one below the function comes first. -/
example :
    check [.ruleGroup 0, .function .toLower [.literal "/", .conditionGroup 2], .ruleGroup 5]
      (({} : Captures).recordRule ["/a"]) = .error ⟨2, 0⟩ := rfl

end Template

end Reroute
