import Mathlib.Data.List.SplitBy
import Reroute.Condition

/-!
# Conditions as a conjunction of chains

Conditions are evaluated by one pass over the list with three flags. What the pass computes is
said here without flags. The list falls into chains, each ending at the first condition that is
not joined with the next one, or at the end of the list. Then

* if only the last groups are kept, the chains are tested from the left, each up to its first
  success, and the first chain without one ends the evaluation (`testChains`);
* if all groups are kept, every condition is tested in order, and the list holds if every chain
  has a success (`testAll`, `testAllChains`).

A test makes a text from the condition's input with the groups captured so far, and matches it.
An input that refers to a group that is not there is the error of the evaluation.

Results:
1. `isCut_iff`: a list has one cut into chains, and `chains` finds it.
2. `runItems_last`: the pass that keeps the last groups, from any flags that it can reach.
3. `runItems_all`, `verdict_after`: the pass that keeps all groups, and what its flags say.
4. `run_eq_chains`: the evaluation is that of the chains, with its errors and its captures.
-/

namespace Reroute

namespace Captures

/-- Groups of a condition in place of the earlier ones; no groups leave them. -/
def replacing (c : Captures) (groups : List String) : Captures :=
  if groups = [] then c else { c with conditions := ⟨[groups], groups.length⟩ }

/-- Groups of a condition behind the earlier ones; no groups leave them. -/
def appending (c : Captures) (groups : List String) : Captures :=
  if groups = [] then c
  else { c with conditions := ⟨c.conditions.sets ++ [groups], c.conditions.len + groups.length⟩ }

theorem recordCondition_last (c : Captures) (groups : List String) :
    c.recordCondition groups false = c.replacing groups := by
  cases groups with
  | nil => rfl
  | cons group more => simp [recordCondition, replacing, GroupSets.empty, GroupSets.push]

theorem recordCondition_all (c : Captures) (groups : List String) :
    c.recordCondition groups true = c.appending groups := by
  cases groups with
  | nil => rfl
  | cons group more => rfl

end Captures

namespace Conditions

/-! ## 1. Chains -/

/-- The chains of a list: a condition stays with the next one if it is joined with it. -/
def chains (items : List Condition) : List (List Condition) := items.splitBy fun c _ => c.orNext

/-- A list cut into chains. Within a chain every condition is joined with the next one, and a
chain that another one follows ends with a condition that is not. -/
structure IsCut (items : List Condition) (cut : List (List Condition)) : Prop where
  flatten : cut.flatten = items
  nonempty : [] ∉ cut
  joined : ∀ chain ∈ cut, ∀ c ∈ chain.dropLast, c.orNext = true
  ended : cut.IsChain fun chain _ => ∃ last ∈ chain.getLast?, last.orNext = false

/-- Neighbours are linked when every condition but the last is joined with the next one. -/
theorem linked_iff (chain : List Condition) :
    (chain.IsChain fun c _ => c.orNext = true) ↔ ∀ c ∈ chain.dropLast, c.orNext = true := by
  induction chain with
  | nil => simp
  | cons c rest ih =>
    cases rest with
    | nil => simp
    | cons next rest =>
      rw [List.isChain_cons_cons, List.dropLast_cons_cons, List.forall_mem_cons, ih]

/-- There is only one way to cut a list into chains. -/
theorem isCut_iff {items : List Condition} {cut : List (List Condition)} :
    IsCut items cut ↔ cut = chains items := by
  constructor
  · intro h
    refine (List.splitBy_eq_iff.mpr ⟨h.flatten.symm, h.nonempty, ?_, ?_⟩).symm
    · intro chain member
      exact (linked_iff chain).mpr (h.joined chain member)
    · refine h.ended.imp_of_mem_imp fun chain next member isNext closed => ?_
      obtain ⟨last, isLast, apart⟩ := closed
      have filled : chain ≠ [] := fun empty => h.nonempty (empty ▸ member)
      refine ⟨filled, fun empty => h.nonempty (empty ▸ isNext), ?_⟩
      rw [List.getLast?_eq_some_getLast filled] at isLast
      cases isLast
      exact apart
  · rintro rfl
    refine ⟨List.flatten_splitBy _ items, List.nil_notMem_splitBy _ items, ?_, ?_⟩
    · intro chain member
      exact (linked_iff chain).mp (List.isChain_of_mem_splitBy member)
    · refine (List.isChain_getLast_head_splitBy _ items).imp fun chain _ apart => ?_
      obtain ⟨filled, _, last⟩ := apart
      exact ⟨chain.getLast filled, List.getLast_mem_getLast? filled, last⟩

/-- Puts an element in front of the first of several lists. -/
def joinFirst {α : Type} (a : α) : List (List α) → List (List α)
  | [] => [[a]]
  | chain :: more => (a :: chain) :: more

theorem splitBy_cons_closed {α : Type} (joined : α → Bool) {a : α} (h : joined a = false)
    (rest : List α) :
    (a :: rest).splitBy (fun x _ => joined x) = [a] :: rest.splitBy fun x _ => joined x :=
  List.splitBy_append (l := [a]) (m := rest) fun x hx _ _ => by
    rw [List.getLast?_singleton, Option.mem_some_iff] at hx
    exact hx ▸ h

theorem splitBy_cons_open {α : Type} (joined : α → Bool) {a : α} (h : joined a = true)
    (rest : List α) :
    (a :: rest).splitBy (fun x _ => joined x) =
      joinFirst a (rest.splitBy fun x _ => joined x) := by
  cases cut : rest.splitBy fun x _ => joined x with
  | nil =>
    rw [List.splitBy_eq_nil.mp cut]
    rfl
  | cons chain more =>
    obtain ⟨whole, nonempty, within, between⟩ := List.splitBy_eq_iff.mp cut
    have filled : chain ≠ [] := fun empty => nonempty (empty ▸ List.mem_cons_self)
    refine List.splitBy_eq_iff.mpr ⟨by simp [joinFirst, whole], ?_, ?_, ?_⟩
    · exact fun member => nonempty (by simpa [joinFirst] using Or.inr member)
    · intro c member
      rcases List.mem_cons.mp member with rfl | later
      · exact List.isChain_cons.mpr ⟨fun _ _ => h, within chain List.mem_cons_self⟩
      · exact within c (List.mem_cons_of_mem _ later)
    · rw [joinFirst]
      rw [List.isChain_cons] at between ⊢
      refine ⟨fun next isNext => ?_, between.2⟩
      obtain ⟨_, hb, apart⟩ := between.1 next isNext
      exact ⟨List.cons_ne_nil _ _, hb, by rwa [List.getLast_cons filled]⟩

theorem chains_cons_closed {c : Condition} (h : c.orNext = false) (rest : List Condition) :
    chains (c :: rest) = [c] :: chains rest := splitBy_cons_closed Condition.orNext h rest

theorem chains_cons_open {c : Condition} (h : c.orNext = true) (rest : List Condition) :
    chains (c :: rest) = joinFirst c (chains rest) := splitBy_cons_open Condition.orNext h rest

theorem chains_cons_head (c : Condition) (rest : List Condition) :
    ∃ chain more, chains (c :: rest) = (c :: chain) :: more := by
  cases joined : c.orNext with
  | false => exact ⟨[], chains rest, chains_cons_closed joined rest⟩
  | true =>
    rw [chains_cons_open joined]
    cases chains rest with
    | nil => exact ⟨[], [], rfl⟩
    | cons chain more => exact ⟨chain, more, rfl⟩

/-! ## 2. Keeping the last groups -/

variable (request : Request) (isGlobal : Bool)

/-- Tests the members of a chain in order up to the first success, whose groups replace those
of earlier conditions. The text to be tested is made with the groups captured so far, and a
reference to a group that is not there is the only way to fail. -/
def testChain : List Condition → Captures → Except OutOfRange Bool × Captures
  | [], captures => (.ok false, captures)
  | c :: rest, captures =>
    match Template.expand ⟨request, captures, isGlobal, false⟩ c.input with
    | .error e => (.error e, captures)
    | .ok candidate =>
      let result := c.matcher.run candidate request.files
      if result.success then (.ok true, captures.replacing result.groups)
      else testChain rest captures

/-- Tests chains in order up to the first without a success. -/
def testChains : List (List Condition) → Captures → Except OutOfRange Bool × Captures
  | [], captures => (.ok true, captures)
  | chain :: more, captures =>
    match testChain request isGlobal chain captures with
    | (.ok true, captures) => testChains more captures
    | stopped => stopped

/-- What the flags of the pass leave to be done: nothing is open, or the first of the remaining
chains goes on with one that has succeeded or with one that has not. -/
def resume (p : Progress) (cut : List (List Condition)) (captures : Captures) :
    Except OutOfRange Bool × Captures :=
  match p.isOpen, p.chainOk with
  | false, _ => testChains request isGlobal cut captures
  | true, true => testChains request isGlobal cut.tail captures
  | true, false =>
    if cut = [] then (.ok false, captures) else testChains request isGlobal cut captures

variable {request : Request} {isGlobal : Bool}

/-- The test of a chain's first member is that of the condition. -/
theorem testChain_cons (c : Condition) (rest : List Condition) (captures : Captures) :
    testChain request isGlobal (c :: rest) captures =
      match c.run request captures isGlobal with
      | .error e => (.error e, captures)
      | .ok result =>
        if result.success then (.ok true, captures.replacing result.groups)
        else testChain request isGlobal rest captures := by
  rw [testChain, Condition.run]
  cases Template.expand ⟨request, captures, isGlobal, false⟩ c.input <;> rfl

theorem testChains_error {c : Condition} {captures : Captures} {e : OutOfRange}
    (fails : c.run request captures isGlobal = .error e) (chain : List Condition)
    (more : List (List Condition)) :
    testChains request isGlobal ((c :: chain) :: more) captures = (.error e, captures) := by
  simp only [testChains, testChain_cons, fails]

theorem testChains_success {c : Condition} {captures : Captures} {result : MatchResult}
    (runs : c.run request captures isGlobal = .ok result) (succeeds : result.success = true)
    (chain : List Condition) (more : List (List Condition)) :
    testChains request isGlobal ((c :: chain) :: more) captures =
      testChains request isGlobal more (captures.replacing result.groups) := by
  simp only [testChains, testChain_cons, runs, succeeds, ↓reduceIte]

theorem testChains_failure {c : Condition} {captures : Captures} {result : MatchResult}
    (runs : c.run request captures isGlobal = .ok result) (fails : result.success = false)
    (chain : List Condition) (more : List (List Condition)) :
    testChains request isGlobal ((c :: chain) :: more) captures =
      testChains request isGlobal (chain :: more) captures := by
  simp only [testChains, testChain_cons, runs, fails, Bool.false_eq_true, ↓reduceIte]

/-- A condition that can no longer matter is passed without being tested. -/
theorem runItems_skip (c : Condition) (rest : List Condition) (captures : Captures) :
    runItems request isGlobal false (c :: rest) ⟨true, true, true⟩ captures =
      runItems request isGlobal false rest ⟨true, c.orNext, c.orNext⟩ captures := by
  simp [runItems, Progress.decided, Progress.pass]

/-- One step of the pass that keeps the last groups, at a condition that matters. -/
theorem runItems_test (c : Condition) (rest : List Condition) (isOpen : Bool)
    (captures : Captures) :
    runItems request isGlobal false (c :: rest) ⟨true, isOpen, false⟩ captures =
      match c.run request captures isGlobal with
      | .error e => (.error e, captures)
      | .ok result =>
        if result.success then
          runItems request isGlobal false rest ⟨true, c.orNext, c.orNext⟩
            (captures.replacing result.groups)
        else if c.orNext then runItems request isGlobal false rest ⟨true, true, false⟩ captures
        else (.ok false, captures) := by
  have undecided : Progress.decided ⟨true, isOpen, false⟩ = false := by simp [Progress.decided]
  rw [runItems, undecided]
  cases c.run request captures isGlobal with
  | error e => rfl
  | ok result =>
    cases succeeds : result.success <;> cases joined : c.orNext <;>
      simp [Progress.count, succeeds, Captures.recordCondition_last]

/-- The pass that keeps the last groups does what its flags leave to be done. It stops at a chain
without a success, so it never goes on with a false outcome. -/
theorem runItems_last (items : List Condition) (isOpen chainOk : Bool)
    (captures : Captures) (holds : chainOk = true → isOpen = true) :
    runItems request isGlobal false items ⟨true, isOpen, chainOk⟩ captures =
      resume request isGlobal ⟨true, isOpen, chainOk⟩ (chains items) captures := by
  induction items generalizing isOpen chainOk captures with
  | nil =>
    cases isOpen <;> cases chainOk <;>
      simp_all [runItems, resume, chains, testChains, Progress.verdict]
  | cons c rest ih =>
    -- A success leaves the rest of its chain to be skipped, if there is one.
    have skipped : ∀ left : Captures,
        runItems request isGlobal false rest ⟨true, c.orNext, c.orNext⟩ left =
          testChains request isGlobal (chains (c :: rest)).tail left := by
      intro left
      rw [ih _ _ _ id]
      cases joined : c.orNext with
      | false =>
        rw [chains_cons_closed joined]
        rfl
      | true =>
        rw [chains_cons_open joined]
        cases chains rest <;> rfl
    cases chainOk with
    | true =>
      rw [holds rfl, runItems_skip, skipped]
      rfl
    | false =>
      -- As this chain has no success yet, whether it was begun before makes no difference.
      have whole : resume request isGlobal ⟨true, isOpen, false⟩ (chains (c :: rest)) captures =
          testChains request isGlobal (chains (c :: rest)) captures := by
        have filled : chains (c :: rest) ≠ [] := by simp [chains]
        cases isOpen <;> simp [resume, filled]
      obtain ⟨chain, more, cut⟩ := chains_cons_head c rest
      rw [whole, runItems_test]
      simp only [skipped]
      cases runs : c.run request captures isGlobal with
      | error e => rw [cut, testChains_error runs]
      | ok result =>
        dsimp only
        cases succeeds : result.success with
        | true =>
          rw [cut, testChains_success runs succeeds]
          rfl
        | false =>
          cases joined : c.orNext with
          | false =>
            rw [chains_cons_closed joined, testChains_failure runs succeeds]
            rfl
          | true =>
            rw [chains_cons_open joined, if_neg Bool.false_ne_true, if_pos rfl,
              ih true false captures (by simp)]
            cases chains rest with
            | nil =>
              rw [joinFirst, testChains_failure runs succeeds]
              rfl
            | cons next later => exact (testChains_failure runs succeeds _ _).symm

/-! ## 3. Keeping all groups -/

variable (request isGlobal) in
/-- Tests all conditions in order; the groups of a success follow those of the ones before. The
texts to be tested are made, and fail, as in a chain. -/
def testAll : List Condition → Captures → Except OutOfRange (List (Condition × Bool)) × Captures
  | [], captures => (.ok [], captures)
  | c :: rest, captures =>
    match Template.expand ⟨request, captures, isGlobal, false⟩ c.input with
    | .error e => (.error e, captures)
    | .ok candidate =>
      let result := c.matcher.run candidate request.files
      let captures := if result.success then captures.appending result.groups else captures
      ((testAll rest captures).1.map ((c, result.success) :: ·), (testAll rest captures).2)

/-- The test of the first condition, as `testChain_cons` for a chain. -/
theorem testAll_cons (c : Condition) (rest : List Condition) (captures : Captures) :
    testAll request isGlobal (c :: rest) captures =
      match c.run request captures isGlobal with
      | .error e => (.error e, captures)
      | .ok result =>
        let captures := if result.success then captures.appending result.groups else captures
        ((testAll request isGlobal rest captures).1.map ((c, result.success) :: ·),
          (testAll request isGlobal rest captures).2) := by
  rw [testAll, Condition.run]
  cases Template.expand ⟨request, captures, isGlobal, false⟩ c.input <;> rfl

/-- Whether a chain of tested conditions has a success. -/
def succeeds (chain : List (Condition × Bool)) : Bool := chain.any (·.2)

/-- The chains of tested conditions. -/
def testedChains (tested : List (Condition × Bool)) : List (List (Condition × Bool)) :=
  tested.splitBy fun t _ => t.1.orNext

variable (request isGlobal) in
/-- Tests all conditions; they hold if every chain has a success. -/
def testAllChains (items : List Condition) (captures : Captures) :
    Except OutOfRange Bool × Captures :=
  ((testAll request isGlobal items captures).1.map fun tested =>
      (testedChains tested).all succeeds,
    (testAll request isGlobal items captures).2)

/-- The flags behind a tested condition. -/
def flagsBehind (p : Progress) (t : Condition × Bool) : Progress :=
  if p.decided then p.pass t.1.orNext else p.count t.1.orNext t.2

/-- The pass that keeps all groups tests all conditions and only carries its flags along. -/
theorem runItems_all (items : List Condition) (p : Progress) (captures : Captures) :
    runItems request isGlobal true items p captures =
      ((testAll request isGlobal items captures).1.map fun tested =>
          (tested.foldl flagsBehind p).verdict,
        (testAll request isGlobal items captures).2) := by
  induction items generalizing p captures with
  | nil => rfl
  | cons c rest ih =>
    rw [runItems, testAll_cons]
    cases c.run request captures isGlobal with
    | error e => simp [Except.map]
    | ok result =>
      simp only [Bool.not_true, Bool.and_false, Bool.false_eq_true, ↓reduceIte, ih,
        Captures.recordCondition_all]
      generalize (if result.success = true then captures.appending result.groups else captures)
        = left
      cases testAll request isGlobal rest left with
      | mk tested last =>
        cases decided : p.decided <;> cases tested <;> simp [Except.map, flagsBehind, decided]

/-- What the flags say about the chains to come: nothing is open, or the first of them goes on
with a chain that has succeeded or with one that has not. -/
def flagsHold (p : Progress) (cut : List (List (Condition × Bool))) : Bool :=
  p.outcome &&
    match p.isOpen, p.chainOk with
    | false, _ => cut.all succeeds
    | true, true => cut.tail.all succeeds
    | true, false => !cut.isEmpty && cut.all succeeds

theorem testedChains_cons_closed {t : Condition × Bool} (h : t.1.orNext = false)
    (rest : List (Condition × Bool)) : testedChains (t :: rest) = [t] :: testedChains rest :=
  splitBy_cons_closed (fun t : Condition × Bool => t.1.orNext) h rest

theorem testedChains_cons_open {t : Condition × Bool} (h : t.1.orNext = true)
    (rest : List (Condition × Bool)) :
    testedChains (t :: rest) = joinFirst t (testedChains rest) :=
  splitBy_cons_open (fun t : Condition × Bool => t.1.orNext) h rest

/-- The flags behind a chain's member that has settled it: the rest of the chain is skipped. -/
theorem flagsHold_settled (t : Condition × Bool) (rest : List (Condition × Bool)) :
    flagsHold ⟨true, t.1.orNext, t.1.orNext⟩ (testedChains rest) =
      (testedChains (t :: rest)).tail.all succeeds := by
  cases joined : t.1.orNext with
  | false =>
    rw [testedChains_cons_closed joined]
    rfl
  | true =>
    rw [testedChains_cons_open joined]
    cases testedChains rest <;> rfl

/-- A condition that matters settles its chain by a success. Else it ends the chain, or leaves it
to the next condition. -/
theorem flagsHold_counted (t : Condition × Bool) (rest : List (Condition × Bool))
    (isOpen : Bool) :
    flagsHold (Progress.count ⟨true, isOpen, false⟩ t.1.orNext t.2) (testedChains rest) =
      (testedChains (t :: rest)).all succeeds := by
  cases joined : t.1.orNext with
  | false =>
    rw [testedChains_cons_closed joined, List.all_cons]
    cases ok : t.2 <;> simp [Progress.count, flagsHold, succeeds, ok]
  | true =>
    have settled := flagsHold_settled t rest
    rw [testedChains_cons_open joined] at settled ⊢
    cases ok : t.2 with
    | true =>
      rw [joined] at settled
      simp only [Progress.count, Bool.true_or, Bool.and_self, settled]
      cases testedChains rest <;> simp [joinFirst, succeeds, ok]
    | false =>
      cases testedChains rest <;>
        simp [Progress.count, flagsHold, joinFirst, succeeds, ok]

theorem flagsHold_of_failed (isOpen chainOk : Bool) (cut : List (List (Condition × Bool))) :
    flagsHold ⟨false, isOpen, chainOk⟩ cut = false := rfl

/-- The flags at the end of the list say whether every chain has a success. -/
theorem verdict_after (tested : List (Condition × Bool)) (outcome isOpen chainOk : Bool)
    (holds : chainOk = true → isOpen = true) :
    (tested.foldl flagsBehind ⟨outcome, isOpen, chainOk⟩).verdict =
      flagsHold ⟨outcome, isOpen, chainOk⟩ (testedChains tested) := by
  induction tested generalizing outcome isOpen chainOk with
  | nil =>
    cases outcome <;> cases isOpen <;> cases chainOk <;>
      simp_all [Progress.verdict, flagsHold, testedChains]
  | cons t rest ih =>
    rw [List.foldl_cons]
    -- Once a chain has failed, no flag matters any more.
    cases outcome with
    | false =>
      have failed : flagsBehind ⟨false, isOpen, chainOk⟩ t =
          ⟨false, t.1.orNext, t.1.orNext && chainOk⟩ := rfl
      rw [failed, ih _ _ _ (by simp_all), flagsHold_of_failed, flagsHold_of_failed]
    | true =>
      cases chainOk with
      | true =>
        have passed : flagsBehind ⟨true, isOpen, true⟩ t = ⟨true, t.1.orNext, t.1.orNext⟩ := by
          rw [holds rfl]
          simp [flagsBehind, Progress.decided, Progress.pass]
        rw [passed, ih _ _ _ id, flagsHold_settled, holds rfl]
        rfl
      | false =>
        have counted : flagsBehind ⟨true, isOpen, false⟩ t =
            Progress.count ⟨true, isOpen, false⟩ t.1.orNext t.2 := by
          simp [flagsBehind, Progress.decided]
        have whole : flagsHold ⟨true, isOpen, false⟩ (testedChains (t :: rest)) =
            (testedChains (t :: rest)).all succeeds := by
          have filled : testedChains (t :: rest) ≠ [] := by simp [testedChains]
          cases isOpen <;> simp [flagsHold, filled]
        rw [counted, whole, ← flagsHold_counted t rest isOpen]
        exact ih _ _ _ (by simp_all [Progress.count])

/-! ## 4. The evaluation -/

/-- An evaluation is that of the chains: with the last groups kept it tests chain by chain and
stops early, with all groups kept it tests everything. Errors and captures are the same. The list
has only this cut into chains, and an empty one holds. -/
theorem run_eq_chains (cs : Conditions) (request : Request) (captures : Captures)
    (isGlobal : Bool) :
    (∀ cut, IsCut cs.items cut ↔ cut = chains cs.items) ∧
    cs.run request captures isGlobal =
      (if cs.trackAll then testAllChains request isGlobal cs.items captures
        else testChains request isGlobal (chains cs.items) captures) ∧
    ({ cs with items := [] } : Conditions).run request captures isGlobal =
      (.ok true, captures) := by
  refine ⟨fun _ => isCut_iff, ?_, rfl⟩
  rw [run]
  cases cs.trackAll with
  | false => exact runItems_last cs.items false false captures (by simp)
  | true =>
    rw [runItems_all, if_pos rfl, testAllChains]
    simp only [verdict_after _ true false false (by simp)]
    rfl

end Conditions

end Reroute
