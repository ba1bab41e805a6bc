import Mathlib.Data.List.TakeWhile
import Reroute.Proofs.PathAndQuery

/-!
# Targets are kept whole

A rewrite takes the url of its template apart: at the first question mark, at the `://` behind its
scheme, and at the slash behind its authority. The pieces go into four fields of the request, and
other functions join them again. Put together they are the url as it was expanded, except that its
last character is lost where this is its only question mark, and that an empty path becomes `/`.

Results:
1. `splitQuery_target`, `joinQuery_free`: urls up to their queries, and targets with theirs.
2. `splitOrigin_eq_some_iff`: which targets are absolute.
3. `Action.rewrite_apply`, `Action.rewrite_keeps_target`: what a rewrite leaves of its url.
-/

namespace Reroute

/-! ## 1. Urls and their queries -/

namespace Url

/-- What stands before the first question mark of a url. -/
def beforeMark (url : String) : String := String.ofList (url.toList.takeWhile (· != '?'))

theorem splitQuery_target (url : String) : (splitQuery url).1 = beforeMark url := by
  have unmarked := unmarked_of_free (target_free url)
  have kept : ∀ c ∈ (splitQuery url).1.toList, (c != '?') = true := by
    intro c member
    simp [bne, unmarked c member]
  unfold beforeMark
  rcases splitQuery_whole url with ⟨whole, _⟩ | whole
  · rw [← whole] at kept ⊢
    rw [List.takeWhile_eq_self_iff.mpr kept, String.ofList_toList]
  · have split : url.toList = (splitQuery url).1.toList ++ '?' :: (splitQuery url).2.toList := by
      conv => lhs; rw [whole]
      simp
    rw [split, List.takeWhile_append_of_pos kept]
    simp

/-- A query as it stands behind a target. -/
def markedQuery (query : String) : String := if query = "" then "" else "?" ++ query

theorem joinQuery_free {target : String} (free : '?' ∉ target.toList) (query : String) :
    joinQuery target query = target ++ markedQuery query := by
  unfold joinQuery markedQuery
  by_cases empty : query = ""
  · simp [empty]
  · simp [empty, free, String.append_assoc]

/-! ## 2. Absolute targets -/

/-- `IsAbsolute target scheme host path`: the target consists of a scheme, an authority and a
path. -/
structure IsAbsolute (target scheme host path : String) : Prop where
  whole : target = scheme ++ "://" ++ host ++ path
  scheme_filled : scheme ≠ ""
  scheme_chars : ∀ c ∈ scheme.toList, c.isAlphanum = true ∨ c = '+' ∨ c = '-' ∨ c = '.'
  host_free : '/' ∉ host.toList
  path_rooted : path = "" ∨ ∃ rest, path = "/" ++ rest

theorem isSchemeChar_iff {c : Char} :
    isSchemeChar c = true ↔ c.isAlphanum = true ∨ c = '+' ∨ c = '-' ∨ c = '.' := by
  simp [isSchemeChar, or_assoc]

theorem absolute_of_origin {target : String} {o : Origin} (found : splitOrigin? target = some o) :
    IsAbsolute target o.scheme o.host o.path := by
  have whole := origin_whole found
  unfold splitOrigin? at found
  cases splits : Text.splitAtText? [':', '/', '/'] target.toList with
  | none => simp [splits] at found
  | some parts =>
    obtain ⟨scheme, rest⟩ := parts
    simp only [splits] at found
    split at found
    · cases found
    · next allowed =>
      cases found
      simp only [Bool.or_eq_true, Bool.not_eq_true', not_or, Bool.not_eq_false,
        List.all_eq_true] at allowed
      refine ⟨whole, ?_, ?_, ?_, ?_⟩
      · simpa using allowed.1
      · intro c member
        rw [String.toList_ofList] at member
        exact isSchemeChar_iff.mp (allowed.2 c member)
      · intro member
        rw [String.toList_ofList] at member
        simpa using List.mem_takeWhile_imp member
      · cases behind : rest.dropWhile (· != '/') with
        | nil => exact .inl rfl
        | cons c tail =>
          have stops := List.head_dropWhile_not (· != '/') (l := rest) (by simp [behind])
          simp only [behind, List.head_cons, bne_eq_false_iff_eq] at stops
          subst stops
          exact .inr ⟨String.ofList tail, by
            apply String.toList_inj.mp
            simp⟩

theorem origin_of_absolute {target scheme host path : String}
    (absolute : IsAbsolute target scheme host path) :
    splitOrigin? target = some ⟨scheme, host, path⟩ := by
  have noColon : ':' ∉ scheme.toList := by
    intro member
    rcases absolute.scheme_chars ':' member with letter | other
    · exact absurd letter (by decide)
    · revert other
      decide
  have allowed : (scheme.toList.isEmpty || !scheme.toList.all isSchemeChar) = false := by
    have all : scheme.toList.all isSchemeChar = true := by
      rw [List.all_eq_true]
      exact fun c member => isSchemeChar_iff.mpr (absolute.scheme_chars c member)
    have filled : scheme.toList.isEmpty = false := by
      simpa using absolute.scheme_filled
    rw [all, filled]
    rfl
  have split : target.toList = scheme.toList ++ [':', '/', '/'] ++ (host ++ path).toList := by
    rw [absolute.whole]
    simp
  have inside : ∀ c ∈ host.toList, (c != '/') = true := by
    intro c member
    simp only [bne_iff_ne, ne_eq]
    rintro rfl
    exact absolute.host_free member
  have ends : path.toList.takeWhile (· != '/') = [] ∧
      path.toList.dropWhile (· != '/') = path.toList := by
    rcases absolute.path_rooted with rfl | ⟨rest, rfl⟩ <;> simp
  unfold splitOrigin?
  rw [split, Text.splitAtText_of_free noColon]
  simp only [allowed, Bool.false_eq_true, ↓reduceIte, String.toList_append,
    List.takeWhile_append_of_pos inside, List.dropWhile_append_of_pos inside, ends,
    List.append_nil, String.ofList_toList]

/-- A target is taken for absolute if it is a scheme, an authority and a path, and there is only one
way in which it is. -/
theorem splitOrigin_eq_some_iff {target : String} {o : Origin} :
    splitOrigin? target = some o ↔ IsAbsolute target o.scheme o.host o.path :=
  ⟨absolute_of_origin, origin_of_absolute⟩

end Url

/-! ## 3. Rewrites -/

namespace Action

variable {a : Action} {request : Request} {captures : Captures} {isGlobal : Bool} {url : String}

theorem rewrite_apply (kind : a.kind = .rewrite)
    (expanded : a.expandUrl request captures isGlobal = .ok url) :
    a.apply request captures isGlobal =
      .ok (a.going, retarget request (Url.splitQuery url).1 (a.queryFor request url)) := by
  simp only [Action.apply, kind, expanded]
  rfl

/-- A rewrite that does not append the query of the request takes all of its url over, up to a last
character that is the only question mark. From an absolute url the request has scheme and host, and
with its path and its query they make up the url again, with a slash behind the host if there was no
path. Any other url leaves scheme and host alone and is path and query. -/
theorem rewrite_keeps_target (kind : a.kind = .rewrite) (alone : a.appendQuery = false)
    (expanded : a.expandUrl request captures isGlobal = .ok url) :
    ∃ next, a.apply request captures isGlobal = .ok (a.going, next) ∧
      (∀ scheme host path, Url.IsAbsolute (Url.beforeMark url) scheme host path →
        next.scheme = scheme ∧ next.host = host ∧
        ∃ rest, Url.dropMark url = scheme ++ "://" ++ host ++ rest ∧
          next.scheme ++ "://" ++ next.host ++ next.pathAndQuery =
            scheme ++ "://" ++ host ++ (if path = "" then "/" ++ rest else rest)) ∧
      ((∀ scheme host path, ¬ Url.IsAbsolute (Url.beforeMark url) scheme host path) →
        next.scheme = request.scheme ∧ next.host = request.host ∧
        next.pathAndQuery = Url.dropMark url) := by
  have query : a.queryFor request url = (Url.splitQuery url).2 := by simp [queryFor, alone]
  have free := Url.target_free url
  have joined := Url.joinQuery_splitQuery url
  refine ⟨_, rewrite_apply kind expanded, ?_, ?_⟩
  · intro scheme host path absolute
    rw [← Url.splitQuery_target] at absolute
    have found := Url.origin_of_absolute absolute
    refine ⟨by simp [found], by simp [found], path ++ Url.markedQuery (Url.splitQuery url).2, ?_, ?_⟩
    · rw [← joined, Url.joinQuery_free free, absolute.whole]
      simp only [String.append_assoc]
    · have pathFree : '?' ∉ (if path.isEmpty then "/" else path).toList := by
        have ofTarget := targetPath_free free
        rwa [targetPath, found] at ofTarget
      have left : (retarget request (Url.splitQuery url).1 (a.queryFor request url)).pathAndQuery =
          (if path.isEmpty then "/" else path) ++ Url.markedQuery (Url.splitQuery url).2 := by
        rw [Request.pathAndQuery, retarget_path, retarget_query, query, targetPath, found,
          Url.joinQuery_free pathFree]
      rw [left]
      by_cases empty : path = "" <;> simp [found, empty, String.append_assoc]
  · intro relative
    have found : Url.splitOrigin? (Url.splitQuery url).1 = none := by
      rw [Option.eq_none_iff_forall_not_mem]
      intro o origin
      rw [← Url.splitQuery_target] at relative
      exact relative _ _ _ (Url.absolute_of_origin origin)
    refine ⟨by simp [found], by simp [found], ?_⟩
    rw [← joined, Request.pathAndQuery, retarget_path, retarget_query, query, targetPath, found]

/-- An absolute target without a path, and another `://` in its query. -/
def exAbsolute : Action :=
  { kind := .rewrite, url := Template.literal "svn+ssh://h?x?://y", appendQuery := false }

theorem rewrite_keeps_absolute :
    exAbsolute.kind = .rewrite ∧ exAbsolute.appendQuery = false ∧
    exAbsolute.expandUrl (Request.ofUrl "/a?b") {} false = .ok "svn+ssh://h?x?://y" ∧
    Url.IsAbsolute (Url.beforeMark "svn+ssh://h?x?://y") "svn+ssh" "h" "" ∧
    ∃ next, exAbsolute.apply (Request.ofUrl "/a?b") {} false = .ok (.next, next) ∧
      next.scheme = "svn+ssh" ∧ next.host = "h" ∧
      next.scheme ++ "://" ++ next.host ++ next.pathAndQuery = "svn+ssh://h/?x?://y" := by
  have expanded : exAbsolute.expandUrl (Request.ofUrl "/a?b") {} false = .ok "svn+ssh://h?x?://y" :=
    rfl
  have absolute : Url.IsAbsolute (Url.beforeMark "svn+ssh://h?x?://y") "svn+ssh" "h" "" :=
    ⟨by decide, by decide, by simp [Char.isAlphanum], by decide, .inl rfl⟩
  obtain ⟨next, taken, kept, _⟩ := rewrite_keeps_target (a := exAbsolute) rfl rfl expanded
  obtain ⟨scheme, host, rest, whole, joined⟩ := kept _ _ _ absolute
  have behind : rest = "?x?://y" := by
    have dropped : Url.dropMark "svn+ssh://h?x?://y" = "svn+ssh" ++ "://" ++ "h" ++ "?x?://y" := by
      decide
    exact (String.append_right_inj _).mp (whole.symm.trans dropped)
  exact ⟨rfl, rfl, expanded, absolute, next, taken, scheme, host,
    joined.trans (by rw [behind]; decide)⟩

end Action

end Reroute
