import Reroute.Url

/-!
# Parts of a url

A url splits at its first question mark, so its target has none. A query is joined to such a target
with a question mark, and splitting gives both back. Joined again, the parts of a url are the url,
unless it ends in its only question mark. An absolute target is its scheme, its authority and its
path, one behind the other.

Results:
1. `splitFirst_before`, `splitFirst_eq_none_iff`, `splitFirst_of_free`, `splitAtText_append`,
   `splitAtText_of_free`: splitting texts.
2. `target_free`, `splitQuery_joinQuery`, `splitQuery_append_of_free`, `splitQuery_append_of_split`,
   `joinQuery_inj`: targets and queries.
3. `joinQuery_joinQueries`, `joinQuery_splitQuery`: what a url loses when its parts are joined.
4. `origin_whole`: the parts of an absolute target.
-/

namespace Reroute

/-! ## 1. Texts -/

namespace Text

variable {p : Char → Bool}

/-- In front of the place where a text splits no character satisfies the test. -/
theorem splitFirst_before {s before rest : List Char}
    (h : splitFirst? p s = some (before, rest)) {c : Char} (member : c ∈ before) :
    p c = false := by
  induction s generalizing before with
  | nil => cases h
  | cons d tail ih =>
    rw [splitFirst?] at h
    cases here : p d with
    | true =>
      simp only [here, ↓reduceIte, Option.some.injEq, Prod.mk.injEq] at h
      obtain ⟨rfl, _⟩ := h
      cases member
    | false =>
      simp only [here, Bool.false_eq_true, ↓reduceIte, Option.map_eq_some_iff] at h
      obtain ⟨⟨front, back⟩, splits, parts⟩ := h
      obtain ⟨rfl, rfl⟩ := Prod.mk.inj parts
      rcases List.mem_cons.mp member with rfl | later
      · exact here
      · exact ih splits later

theorem splitFirst_eq_none_iff {s : List Char} :
    splitFirst? p s = none ↔ ∀ c ∈ s, p c = false := by
  induction s with
  | nil => simp [splitFirst?]
  | cons c tail ih => cases here : p c <;> simp [splitFirst?, here, ih]

theorem splitFirst_of_free {before : List Char} (free : ∀ c ∈ before, p c = false) {mark : Char}
    (stops : p mark = true) (rest : List Char) :
    splitFirst? p (before ++ mark :: rest) = some (before, rest) := by
  induction before with
  | nil => simp [splitFirst?, stops]
  | cons c tail ih =>
    obtain ⟨here, later⟩ := List.forall_mem_cons.mp free
    simp [splitFirst?, here, ih later]

theorem splitAtText_append {mark s before rest : List Char}
    (h : splitAtText? mark s = some (before, rest)) : s = before ++ mark ++ rest := by
  induction s generalizing before with
  | nil =>
    rw [splitAtText?] at h
    split at h
    · next empty =>
      cases h
      simpa using empty
    · cases h
  | cons c tail ih =>
    rw [splitAtText?] at h
    split at h
    · next isPrefix =>
      obtain ⟨more, whole⟩ := List.isPrefixOf_iff_prefix.mp isPrefix
      cases h
      rw [← whole]
      simp
    · simp only [Option.map_eq_some_iff] at h
      obtain ⟨⟨front, back⟩, splits, parts⟩ := h
      obtain ⟨rfl, rfl⟩ := Prod.mk.inj parts
      rw [ih splits, List.cons_append, List.cons_append]

/-- A text splits at a mark whose first character does not stand before it. -/
theorem splitAtText_of_free {first : Char} {mark before : List Char} (free : first ∉ before)
    (rest : List Char) :
    splitAtText? (first :: mark) (before ++ (first :: mark) ++ rest) = some (before, rest) := by
  induction before with
  | nil =>
    have starts : (first :: mark).isPrefixOf (first :: (mark ++ rest)) = true := by
      rw [List.isPrefixOf_iff_prefix]
      exact ⟨rest, rfl⟩
    show splitAtText? (first :: mark) (first :: (mark ++ rest)) = _
    rw [splitAtText?, if_pos starts]
    simp
  | cons c tail ih =>
    rw [List.mem_cons, not_or] at free
    obtain ⟨other, later⟩ := free
    have apart : (first :: mark).isPrefixOf (c :: (tail ++ (first :: mark) ++ rest)) = false := by
      simp [List.isPrefixOf, other]
    show splitAtText? (first :: mark) (c :: (tail ++ (first :: mark) ++ rest)) = _
    rw [splitAtText?, apart, ih later]
    rfl

end Text

namespace Url

open Reroute.Text

/-! ## 2. Targets and queries -/

/-- The target of a url has no question mark. -/
theorem target_free (url : String) : '?' ∉ (splitQuery url).1.toList := by
  intro member
  unfold splitQuery at member
  cases splits : splitFirst? (· == '?') url.toList with
  | some parts =>
    rw [splits, String.toList_ofList] at member
    simpa using splitFirst_before splits member
  | none =>
    rw [splits] at member
    simpa using splitFirst_eq_none_iff.mp splits '?' member

theorem unmarked_of_free {s : List Char} (free : '?' ∉ s) : ∀ c ∈ s, (c == '?') = false := by
  intro c member
  simp only [beq_eq_false_iff_ne, ne_eq]
  rintro rfl
  exact free member

/-- A target without a question mark splits from any query that is joined to it. -/
theorem splitQuery_joinQuery {target : String} (free : '?' ∉ target.toList) (query : String) :
    splitQuery (joinQuery target query) = (target, query) := by
  have unmarked := unmarked_of_free free
  unfold joinQuery
  by_cases empty : query = ""
  · subst empty
    simp [splitQuery, splitFirst_eq_none_iff.mpr unmarked]
  · have joined : (target ++ "?" ++ query).toList = target.toList ++ '?' :: query.toList := by
      simp
    rw [if_neg (by simpa using empty), if_neg (by simpa using free), splitQuery, joined,
      splitFirst_of_free unmarked (by rfl)]
    simp

/-- A text without a question mark belongs to the target of what it stands before. -/
theorem splitQuery_append_of_free {front : String} (free : '?' ∉ front.toList) (url : String) :
    splitQuery (front ++ url) = (front ++ (splitQuery url).1, (splitQuery url).2) := by
  have unmarked := unmarked_of_free free
  unfold splitQuery
  rw [String.toList_append]
  cases splits : splitFirst? (· == '?') url.toList with
  | none =>
    have whole : splitFirst? (· == '?') (front.toList ++ url.toList) = none := by
      rw [splitFirst_eq_none_iff] at splits ⊢
      intro c member
      exact (List.mem_append.mp member).elim (unmarked c) (splits c)
    simp [whole]
  | some parts =>
    obtain ⟨target, query⟩ := parts
    obtain ⟨mark, stops, whole⟩ := splitFirst?_append splits
    have split : splitFirst? (· == '?') (front.toList ++ (target ++ mark :: query)) =
        some (front.toList ++ target, query) := by
      rw [← List.append_assoc]
      refine splitFirst_of_free (p := (· == '?')) (fun c member => ?_) stops query
      exact (List.mem_append.mp member).elim (unmarked c) (splitFirst_before splits)
    rw [whole, split]
    simp

/-- Where a text splits, every text that it begins splits as well. -/
theorem splitQuery_append_of_split {text : String} {before after : List Char}
    (splits : splitFirst? (· == '?') text.toList = some (before, after)) (more : String) :
    splitQuery (text ++ more) = (String.ofList before, String.ofList after ++ more) := by
  obtain ⟨mark, stops, whole⟩ := splitFirst?_append splits
  have split : splitFirst? (· == '?') (text ++ more).toList =
      some (before, after ++ more.toList) := by
    rw [String.toList_append, whole, List.append_assoc, List.cons_append]
    exact splitFirst_of_free (p := (· == '?')) (fun _ => splitFirst_before splits) stops _
  rw [splitQuery, split]
  simp

/-- Urls with the same query are only the same if they are so without it. -/
theorem joinQuery_inj {first second query : String} :
    joinQuery first query = joinQuery second query ↔ first = second := by
  constructor
  · intro same
    unfold joinQuery at same
    by_cases empty : query = ""
    · simpa [empty] using same
    · -- The two marks may differ, but they are one character each.
      have filled : query.isEmpty = false := by simpa using empty
      simp only [filled, Bool.false_eq_true, ↓reduceIte] at same
      have lists := congrArg String.toList same
      simp only [String.toList_append, List.append_assoc] at lists
      exact String.toList_inj.mp (List.append_inj_left' lists (by split <;> split <;> simp))
  · rintro rfl
    rfl

/-! ## 3. Parts joined again -/

/-- A url is its target, or its target with a question mark and its query. -/
theorem splitQuery_whole (url : String) :
    (url = (splitQuery url).1 ∧ (splitQuery url).2 = "") ∨
      url = (splitQuery url).1 ++ "?" ++ (splitQuery url).2 := by
  unfold splitQuery
  cases splits : Text.splitFirst? (· == '?') url.toList with
  | none => exact .inl ⟨rfl, rfl⟩
  | some parts =>
    obtain ⟨mark, stops, whole⟩ := Text.splitFirst?_append splits
    obtain rfl := beq_iff_eq.mp stops
    right
    apply String.toList_inj.mp
    rw [whole]
    simp

/-- The url without its last character if this is its only question mark. -/
def dropMark (url : String) : String :=
  if url.toList.count '?' = 1 ∧ url.toList.getLast? = some '?' then
    String.ofList url.toList.dropLast
  else url

theorem dropMark_free {url : String} (free : '?' ∉ url.toList) : dropMark url = url := by
  rw [dropMark, List.count_eq_zero.mpr free]
  simp

theorem dropMark_bare {target : String} (free : '?' ∉ target.toList) :
    dropMark (target ++ "?") = target := by
  have split : (target ++ "?").toList = target.toList ++ ['?'] := by simp
  rw [dropMark, split, List.count_append, List.count_eq_zero.mpr free]
  simp

theorem dropMark_filled (target : String) {query : String} (filled : query ≠ "") :
    dropMark (target ++ "?" ++ query) = target ++ "?" ++ query := by
  unfold dropMark
  refine if_neg ?_
  rintro ⟨once, ends⟩
  have split : (target ++ "?" ++ query).toList = target.toList ++ '?' :: query.toList := by simp
  rw [split] at once ends
  -- The mark at the end is not the one before the query.
  have listed : query.toList ≠ [] := by simpa using filled
  have found := List.getLast?_eq_some_getLast listed
  rw [List.getLast?_append, List.getLast?_cons_of_ne_nil listed, found, Option.some_or] at ends
  have later : 0 < query.toList.count '?' :=
    List.count_pos_iff.mpr (List.mem_of_getLast? (found.trans ends))
  rw [List.count_append, List.count_cons_self] at once
  omega

/-- A query is put behind the one of a url as it is joined to the url, but a question mark with
nothing behind it does not count. -/
theorem joinQuery_joinQueries (url more : String) :
    joinQuery (splitQuery url).1 (joinQueries (splitQuery url).2 more) =
      joinQuery (dropMark url) more := by
  have free := target_free url
  have whole := splitQuery_whole url
  generalize (splitQuery url).1 = target at free whole ⊢
  generalize (splitQuery url).2 = query at whole ⊢
  by_cases empty : query = ""
  · subst empty
    have dropped : dropMark url = target := by
      rcases whole with ⟨rfl, _⟩ | rfl
      · exact dropMark_free free
      · rw [String.append_empty]
        exact dropMark_bare free
    rw [dropped]
    rfl
  · obtain rfl : url = target ++ "?" ++ query := whole.resolve_left fun short => empty short.2
    have filled : query.isEmpty = false := by simpa using empty
    rw [dropMark_filled target empty, joinQueries, filled]
    by_cases none : more = ""
    · subst none
      simp [joinQuery, filled, free]
    · have filledToo : more.isEmpty = false := by simpa using none
      simp [joinQuery, filledToo, free, String.append_assoc]

/-- A url is its target with its query behind it, up to a question mark with nothing behind it. -/
theorem joinQuery_splitQuery (url : String) :
    joinQuery (splitQuery url).1 (splitQuery url).2 = dropMark url := by
  have joined := joinQuery_joinQueries url ""
  have alone : joinQueries (splitQuery url).2 "" = (splitQuery url).2 := by
    unfold joinQueries
    split
    · next empty => exact (String.isEmpty_iff.mp empty).symm
    · rfl
  rwa [alone] at joined

/-! ## 4. Absolute targets -/

theorem origin_whole {target : String} {o : Origin} (h : splitOrigin? target = some o) :
    target = o.scheme ++ "://" ++ o.host ++ o.path := by
  unfold splitOrigin? at h
  cases splits : splitAtText? [':', '/', '/'] target.toList with
  | none => simp [splits] at h
  | some parts =>
    obtain ⟨scheme, rest⟩ := parts
    simp only [splits] at h
    split at h
    · cases h
    · cases h
      apply String.toList_inj.mp
      rw [splitAtText_append splits]
      simp [List.takeWhile_append_dropWhile]

end Url

end Reroute
