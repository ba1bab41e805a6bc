import Mathlib.Data.List.Perm.Subperm
import Reroute.Proofs.CaptureBounds
import Reroute.Proofs.FoundMatches

/-!
# Outcomes of matchers

A matcher and its negation never both succeed, and one of them does unless the test itself fails: a
search whose time is used up, or a file that cannot be looked at, makes both of them fail. Only a
success of a search that is not negated has groups, and they are those of a match of its pattern.

The number that a matcher answers for is not always the number of these groups: a group that the
pattern has dropped leaves a gap, and the groups behind it keep their numbers. The two are the same
for the patterns in which no group is missing before another one, and for no others;
`dropped_group_uncounted` is a matcher that answers for too few.

Results:
1. `gapless_iff`: when a pattern answers for all groups of a match.
2. `Test.success_iff`: when a matcher succeeds.
3. `outcomes_consistent`: a matcher beside its negation.
-/

namespace Reroute

namespace Regex

/-! ## 1. Groups that a pattern answers for -/

theorem compile_ok {pattern : String} {ignoreCase : Bool} {r : Regex}
    (compiles : compile pattern ignoreCase = .ok r) :
    ∃ e, ∃ reads : readExpr? pattern ignoreCase = some e,
      r = ofExpr e (groupCount_le_maxGroup reads) := by
  unfold compile at compiles
  split at compiles
  · cases compiles
  · next e reads =>
    split at compiles
    · cases compiles
      exact ⟨e, reads, rfl⟩
    · cases compiles

/-- A pattern answers for all groups of a match if no group is missing before another one. -/
theorem gapless_iff {pattern : String} {ignoreCase : Bool} {e : Expr}
    (reads : readExpr? pattern ignoreCase = some e) :
    e.groupCount = e.maxGroup ↔ ∀ n, 1 ≤ n → n ≤ e.maxGroup → n ∈ e.groupNumbers := by
  have once := (groupNumbers_read reads).1
  have within := groupNumbers_subset reads
  rw [← Expr.length_groupNumbers]
  constructor
  · intro full n positive inTree
    have same : e.groupNumbers.Perm (List.range' 1 e.maxGroup) :=
      (once.subperm within).perm_of_length_le (by simp [full])
    exact same.mem_iff.mpr (List.mem_range'_1.mpr ⟨positive, by omega⟩)
  · intro full
    have all : List.range' 1 e.maxGroup ⊆ e.groupNumbers := fun n member => by
      obtain ⟨positive, inTree⟩ := List.mem_range'_1.mp member
      exact full n positive (by omega)
    have most := once.length_le_of_subset within
    have least := (List.nodup_range' (s := 1)).length_le_of_subset all
    simp only [List.length_range'] at most least
    omega

end Regex

/-! ## 2. Successes -/

namespace Test

/-- The outcome of a test, or of its negation, whose search takes `took`. -/
def outcome (test : Test) (negate : Bool) (took : Nat) (candidate : String) (files : Files) :
    MatchResult :=
  Matcher.run ⟨test.after took, negate⟩ candidate files

/-- The search takes all of its time. -/
def UsesUp (test : Test) (took : Nat) : Prop :=
  match test with
  | .regex _ budget => budget ≤ took
  | _ => False

/-- The file of the test cannot be looked at. -/
def Unseen (test : Test) (candidate : String) (files : Files) : Prop :=
  match test with
  | .isFile => ∃ e, files.isFile candidate = .error e
  | .isDirectory => ∃ e, files.isDirectory candidate = .error e
  | _ => False

/-- Whether a candidate passes a test that can be made. -/
def holds (test : Test) (candidate : String) (files : Files) : Bool :=
  match test with
  | .regex r _ => (r.search candidate).isSome
  | .exact value ignoreCase =>
    if ignoreCase then Text.sameFolded candidate value else candidate == value
  | .isFile => (files.isFile candidate).toOption.getD false
  | .isDirectory => (files.isDirectory candidate).toOption.getD false
  | .compare op operand ignoreCase => op.compare candidate operand ignoreCase

variable {test : Test} {took : Nat} {candidate : String} {files : Files}

theorem timedOut_iff (negate : Bool) :
    (test.outcome negate took candidate files).timedOut = true ↔ test.UsesUp took := by
  cases test with
  | regex r budget =>
    simp only [outcome, after, Matcher.run, Matcher.searchResult, UsesUp, ← Nat.sub_eq_zero_iff_le]
    by_cases used : budget - took = 0
    · simp [used]
    · simp only [used, ↓reduceIte, iff_false, Bool.not_eq_true]
      cases r.search candidate with
      | none => rfl
      | some groups => cases negate <;> rfl
  | exact | compare => exact iff_of_false Bool.false_ne_true id
  | isFile | isDirectory =>
    refine iff_of_false ?_ id
    simp only [outcome, after, Matcher.run, Matcher.fileResult]
    split <;> exact Bool.false_ne_true

/-- A matcher succeeds if its test can be made and comes out as it should. -/
theorem success_iff (negate : Bool) :
    (test.outcome negate took candidate files).success = true ↔
      ¬ test.UsesUp took ∧ ¬ test.Unseen candidate files ∧
        test.holds candidate files = !negate := by
  cases test with
  | regex r budget =>
    simp only [outcome, after, Matcher.run, Matcher.searchResult, UsesUp, Unseen, holds,
      ← Nat.sub_eq_zero_iff_le]
    by_cases used : budget - took = 0
    · simp [used]
    · cases r.search candidate <;> cases negate <;> simp [used]
  | exact | compare =>
    simp only [outcome, after, Matcher.run, Matcher.plain, UsesUp, Unseen, holds]
    cases negate <;> simp
  | isFile | isDirectory =>
    simp only [outcome, after, Matcher.run, Matcher.fileResult, UsesUp, Unseen, holds]
    split
    · next found answer => cases negate <;> simp [answer, Matcher.plain, Except.toOption]
    · next e answer => simp [answer]

theorem groups_negated : (test.outcome true took candidate files).groups = [] := by
  cases success : (test.outcome true took candidate files).success with
  | false => exact Matcher.groups_of_failure success
  | true =>
    have none := Matcher.length_groups success
    cases test <;> exact List.length_eq_zero_iff.mp none

theorem groupCount_after : Matcher.groupCount ⟨test.after took, false⟩ =
    Matcher.groupCount ⟨test, false⟩ := by
  cases test <;> rfl

/-- A search that succeeds has the groups of a match. -/
theorem groups_of_compiled {pattern : String} {ignoreCase : Bool} {e : Regex.Expr} {r : Regex}
    {budget : Nat} (reads : Regex.readExpr? pattern ignoreCase = some e)
    (compiled : r = .ofExpr e (Regex.groupCount_le_maxGroup reads))
    (success : (outcome (.regex r budget) false took candidate files).success = true) :
    Regex.AnsweredBy e candidate (outcome (.regex r budget) false took candidate files).groups := by
  obtain ⟨once, counted⟩ := Regex.groupNumbers_read reads
  subst compiled
  simp only [outcome, after, Matcher.run, Matcher.searchResult] at success ⊢
  by_cases used : budget - took = 0
  · simp [used] at success
  · simp only [used, ↓reduceIte] at success ⊢
    cases found : (Regex.ofExpr e (Regex.groupCount_le_maxGroup reads)).search candidate with
    | none => simp [found] at success
    | some groups => exact Regex.search_matches once counted _ found

end Test

/-! ## 3. A matcher beside its negation -/

/-- A matcher and its negation never both succeed, also if their searches take different times. If
neither search uses up its time and the file, if there is one, can be looked at, exactly one of them
succeeds; else those that cannot be tested fail. Failures and negations have no groups. A success
has all groups of the pattern, and where the pattern has been compiled they are the groups of a
match. The matcher answers for exactly these if no group is missing before another one, and else
for too few. -/
theorem outcomes_consistent (test : Test) (candidate : String) (files : Files)
    (took negatedTook : Nat) {plain negated : MatchResult}
    (plainOutcome : test.outcome false took candidate files = plain)
    (negatedOutcome : test.outcome true negatedTook candidate files = negated) :
    ¬ (plain.success = true ∧ negated.success = true) ∧
    (plain.timedOut = false → negated.timedOut = false → ¬ test.Unseen candidate files →
      plain.success = !negated.success) ∧
    ((plain.timedOut = true ↔ test.UsesUp took) ∧
      (negated.timedOut = true ↔ test.UsesUp negatedTook)) ∧
    ((test.UsesUp took → plain.success = false) ∧
      (test.UsesUp negatedTook → negated.success = false) ∧
      (test.Unseen candidate files → plain.success = false ∧ negated.success = false)) ∧
    (plain.success = false → plain.groups = []) ∧
    (negated.groups = [] ∧ Matcher.captureCount ⟨test, true⟩ = 0) ∧
    (plain.success = true → plain.groups.length = Matcher.groupCount ⟨test, false⟩) ∧
    Matcher.captureCount ⟨test, false⟩ ≤ Matcher.groupCount ⟨test, false⟩ ∧
    ((∀ r budget, test ≠ .regex r budget) → Matcher.Gapless ⟨test, false⟩) ∧
    ∀ pattern ignoreCase r budget, test = .regex r budget →
      Regex.compile pattern ignoreCase = .ok r →
      ∃ e, Regex.readExpr? pattern ignoreCase = some e ∧
        (Matcher.Gapless ⟨test, false⟩ ↔
          ∀ n, 1 ≤ n → n ≤ e.maxGroup → n ∈ e.groupNumbers) ∧
        (plain.success = true → Regex.AnsweredBy e candidate plain.groups) := by
  subst plainOutcome negatedOutcome
  refine ⟨?_, ?_, ⟨Test.timedOut_iff false, Test.timedOut_iff true⟩, ⟨?_, ?_, ?_⟩,
    Matcher.groups_of_failure, ⟨Test.groups_negated, ?_⟩, ?_, Matcher.captureCount_le _, ?_, ?_⟩
  · rintro ⟨succeeds, other⟩
    have passes := ((Test.success_iff false).mp succeeds).2.2
    rw [((Test.success_iff true).mp other).2.2] at passes
    cases passes
  · intro inTime alsoInTime seen
    rw [← Bool.not_eq_true, Test.timedOut_iff] at inTime alsoInTime
    rw [Bool.eq_iff_iff, Bool.not_eq_true', ← Bool.not_eq_true, Test.success_iff, Test.success_iff]
    cases test.holds candidate files <;> simp [inTime, alsoInTime, seen]
  · intro used
    exact Bool.eq_false_iff.mpr fun succeeds => ((Test.success_iff false).mp succeeds).1 used
  · intro used
    exact Bool.eq_false_iff.mpr fun succeeds => ((Test.success_iff true).mp succeeds).1 used
  · intro unseen
    exact ⟨Bool.eq_false_iff.mpr fun succeeds => ((Test.success_iff false).mp succeeds).2.1 unseen,
      Bool.eq_false_iff.mpr fun succeeds => ((Test.success_iff true).mp succeeds).2.1 unseen⟩
  · cases test <;> rfl
  · intro succeeds
    rw [← Test.groupCount_after]
    exact Matcher.length_groups succeeds
  · intro searchless
    cases test with
    | regex r budget => exact absurd rfl (searchless r budget)
    | exact | isFile | isDirectory | compare => rfl
  · rintro pattern ignoreCase r budget rfl compiles
    obtain ⟨e, reads, compiled⟩ := Regex.compile_ok compiles
    refine ⟨e, reads, ?_, Test.groups_of_compiled reads compiled⟩
    rw [← Regex.gapless_iff reads, compiled]
    exact Nat.succ_inj

theorem compile_exRegex {pattern : String}
    (compiles : (Regex.compile pattern false).isOk = true) :
    Regex.compile pattern false = .ok (exRegex pattern) := by
  unfold exRegex
  cases compiled : Regex.compile pattern false with
  | ok r => rfl
  | error e =>
    rw [compiled] at compiles
    cases compiles

/-- The search for an optional group that takes no part, in time and too late. -/
theorem outcomes_consistent_optional :
    Regex.compile "^/(a)(x)?$" false = .ok (exRegex "^/(a)(x)?$") ∧
      (Test.outcome (.regex (exRegex "^/(a)(x)?$") 100) false 5 "/a" .none) =
        ⟨true, ["/a", "a", ""], false⟩ ∧
      (Test.outcome (.regex (exRegex "^/(a)(x)?$") 100) true 100 "/a" .none).timedOut = true ∧
      ∃ e, Regex.readExpr? "^/(a)(x)?$" false = some e ∧
        Regex.AnsweredBy e "/a" ["/a", "a", ""] := by
  have compiles : Regex.compile "^/(a)(x)?$" false = .ok (exRegex "^/(a)(x)?$") :=
    compile_exRegex (by decide +kernel)
  have plain : (Test.outcome (.regex (exRegex "^/(a)(x)?$") 100) false 5 "/a" .none) =
      ⟨true, ["/a", "a", ""], false⟩ := by decide +kernel
  obtain ⟨_, _, ⟨_, late⟩, _, _, _, _, _, _, answered⟩ :=
    outcomes_consistent (.regex (exRegex "^/(a)(x)?$") 100) "/a" .none 5 100 plain rfl
  obtain ⟨e, reads, _, groups⟩ := answered _ false _ _ rfl compiles
  exact ⟨compiles, plain, late.mpr (Nat.le_refl _), e, reads, groups rfl⟩

/-- A matcher whose pattern has dropped its first group answers for two groups, and its success has
three. -/
theorem dropped_group_uncounted :
    Matcher.captureCount ⟨.regex (exRegex "(a)\x7b0\x7d(b)") 100, false⟩ = 2 ∧
      Matcher.run ⟨.regex (exRegex "(a)\x7b0\x7d(b)") 100, false⟩ "b" .none =
        ⟨true, ["b", "", "b"], false⟩ := by
  decide +kernel

end Reroute
