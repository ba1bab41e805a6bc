import Reroute.Proofs.UriForms
import Reroute.Proofs.UrlParts

/-!
# Relative results

What the rules leave of a url is made a uri with scheme and authority of the request. A result that
does not begin with a slash is rooted, unless it is taken for an absolute uri. The rules look for a
scheme of ordinary characters at its beginning to find this out, and here any `://` in it will do,
also one in the query. So a relative result with `://` in it is not rooted but read as it is, and
that is refused whatever the request was (`marked_result_refused`); only behind nothing or behind
characters with a tilde among them `://` is taken for the end of a scheme.

Results:
1. `scheme_of_relative`: what stands before `://` in a relative result.
2. `readList_marked`: uris that are read from texts with `://` in them.
3. `join_relative`: relative results without `://` are rooted, and what becomes of the others.
-/

namespace Reroute

open Reroute.Text

/-! ## 1. Schemes of relative results -/

namespace Url

/-- Rules take a text for relative whose first characters make a scheme of uris only if there are
none of them or a tilde is among them. -/
theorem scheme_of_relative {url : String} (relative : splitOrigin? (splitQuery url).1 = none)
    {scheme rest : List Char} (text : url.toList = scheme ++ "://".toList ++ rest)
    (chars : ∀ c ∈ scheme, Http.Uri.isSchemeChar c = true) : scheme = [] ∨ '~' ∈ scheme := by
  by_contra neither
  rw [not_or] at neither
  obtain ⟨filled, noTilde⟩ := neither
  have noMark : '?' ∉ (String.ofList (scheme ++ "://".toList)).toList := by
    rw [String.toList_ofList, List.mem_append, not_or]
    exact ⟨fun member => absurd (chars _ member) (by decide), by decide⟩
  have noColon : ':' ∉ scheme := fun member => absurd (chars _ member) (by decide)
  have whole : url = String.ofList (scheme ++ "://".toList) ++ String.ofList rest := by
    rw [← String.ofList_append, ← text, String.ofList_toList]
  have allowed : (scheme.isEmpty || !scheme.all isSchemeChar) = false := by
    have all : scheme.all isSchemeChar = true := by
      rw [List.all_eq_true]
      intro c member
      have allowed := chars c member
      have other : c ≠ '~' := by
        rintro rfl
        exact noTilde member
      simpa [Http.Uri.isSchemeChar, isSchemeChar, other] using allowed
    simpa [all] using filled
  rw [whole, splitQuery_append_of_free noMark] at relative
  unfold splitOrigin? at relative
  rw [String.toList_append, String.toList_ofList] at relative
  have mark : "://".toList = [':', '/', '/'] := rfl
  rw [mark, splitAtText_of_free noColon (splitQuery (String.ofList rest)).1.toList] at relative
  simp [allowed] at relative

end Url

namespace Http.Uri

/-! ## 2. Uris of texts with a mark -/

theorem containsMark_iff {cs : List Char} :
    containsMark cs = true ↔ ∃ before rest, splitAtText? "://".toList cs = some (before, rest) := by
  rw [containsMark, Option.isSome_iff_exists, Prod.exists]

theorem slash_mem_of_marked {cs : List Char} (marked : containsMark cs = true) : '/' ∈ cs := by
  obtain ⟨before, rest, splits⟩ := containsMark_iff.mp marked
  rw [splitAtText_append splits]
  simp

/-- A text with a mark that is not rooted is read as an absolute uri or refused. -/
theorem readList_marked {cs : List Char} {u : Uri} (unrooted : cs.head? ≠ some '/')
    (marked : containsMark cs = true) (reads : readList cs = .ok u) :
    u.scheme = some (canonicalScheme (cs.takeWhile isSchemeChar)) ∧
      (∃ authority, u.authority = some authority) ∧
      ∃ rest, cs = cs.takeWhile isSchemeChar ++ "://".toList ++ rest := by
  have full : readFull cs = .ok u := by
    unfold readList at reads
    split at reads
    · cases reads
    · split at reads
      · cases reads
      · exact absurd marked (by decide)
      · have slash := List.mem_singleton.mp (slash_mem_of_marked marked)
        rw [← slash] at unrooted
        exact absurd rfl unrooted
      · exact absurd rfl unrooted
      · exact reads
  obtain ⟨⟨scheme, behind⟩, hasScheme, afterScheme⟩ := bind_ok_iff.mp full
  obtain ⟨⟨authority, rest⟩, hasAuthority, afterAuthority⟩ := bind_ok_iff.mp afterScheme
  cases scheme with
  | none =>
    -- The mark has a slash, so more than an authority is there.
    obtain ⟨whole, isAuthority, _⟩ := readAuthority_ok hasAuthority
    dsimp only [Option.isNone] at afterAuthority
    rw [if_pos rfl] at afterAuthority
    split at afterAuthority
    · next ended =>
      have nothing : rest = [] := by simpa using ended
      rw [readScheme_none hasScheme, nothing, List.append_nil] at whole
      have inside := isAuthority.inside '/' (whole ▸ slash_mem_of_marked marked)
      cases inside
    · cases afterAuthority
  | some scheme =>
    dsimp only [Option.isNone] at afterAuthority
    rw [if_neg Bool.false_ne_true] at afterAuthority
    split at afterAuthority
    · cases afterAuthority
    · obtain ⟨⟨path, query⟩, _, same⟩ := bind_ok_iff.mp afterAuthority
      cases same
      obtain ⟨_, _, rfl, spelling, whole⟩ := readScheme_some hasScheme
      exact ⟨congrArg some spelling.symm, ⟨authority, rfl⟩, behind, whole⟩

theorem marked_scheme {scheme : List Char} (chars : ∀ c ∈ scheme, isSchemeChar c = true)
    (rest : List Char) :
    (scheme ++ "://".toList ++ rest).head? ≠ some '/' ∧
      containsMark (scheme ++ "://".toList ++ rest) = true ∧
      (scheme ++ "://".toList ++ rest).takeWhile isSchemeChar = scheme := by
  have noColon : ':' ∉ scheme := fun member => absurd (chars _ member) (by decide)
  refine ⟨?_, ?_, ?_⟩
  · cases scheme with
    | nil => simp
    | cons c more =>
      intro first
      have slash : c = '/' := Option.some.inj first
      exact absurd (chars c List.mem_cons_self) (slash ▸ by decide)
  · rw [containsMark]
    exact Option.isSome_iff_exists.mpr ⟨_, splitAtText_of_free noColon rest⟩
  · rw [List.append_assoc]
    refine (span_append chars ?_).1
    intro c first
    cases first
    decide

/-! ## 3. Relative results -/

/-- What a result with a mark becomes has nothing of the request. -/
theorem join_marked {after : String} (unrooted : after.toList.head? ≠ some '/')
    (marked : containsMark after.toList = true) (before other : Uri) :
    before.join after = other.join after := by
  unfold join
  simp only [marked, Bool.or_true, ↓reduceIte]
  cases reads : readList after.toList with
  | error e => rfl
  | ok found =>
    obtain ⟨scheme, ⟨authority, authorityIs⟩, _⟩ := readList_marked unrooted marked reads
    simp only [bind, Except.bind, scheme, authorityIs, Option.orElse_eq_orElse,
      Option.orElse_eq_or, Option.some_or]

/-- A relative result without a mark is rooted. One with a mark comes to the same whatever the
request was, and it is refused unless it begins with a scheme that the rules do not know: an empty
one or one with a tilde. The uri has that scheme then, and is not rooted. -/
theorem join_relative (before : Uri) (after : String) (unrooted : after.toList.head? ≠ some '/')
    (relative : Url.splitOrigin? (Url.splitQuery after).1 = none) :
    (containsMark after.toList = false → before.join after = before.join ("/" ++ after)) ∧
    (containsMark after.toList = true →
      (∀ other : Uri, before.join after = other.join after) ∧
      ∀ u, before.join after = .ok u →
        ∃ scheme rest, after.toList = scheme ++ "://".toList ++ rest ∧
          (scheme = [] ∨ '~' ∈ scheme) ∧ u.scheme = some (canonicalScheme scheme)) := by
  refine ⟨fun unmarked => ?_, fun marked => ⟨join_marked unrooted marked before, ?_⟩⟩
  · have rooted : ("/" ++ after).toList = '/' :: after.toList := by simp
    unfold join
    dsimp only
    rw [rooted, unmarked, Bool.or_false]
    simp [unrooted]
  · intro u joins
    unfold join at joins
    simp only [marked, Bool.or_true, ↓reduceIte] at joins
    obtain ⟨found, reads, writes⟩ := bind_ok_iff.mp joins
    obtain ⟨scheme, ⟨authority, authorityIs⟩, rest, text⟩ :=
      readList_marked unrooted marked reads
    have chars : ∀ c ∈ after.toList.takeWhile isSchemeChar, isSchemeChar c = true :=
      fun c member => List.mem_takeWhile_imp member
    refine ⟨_, rest, text, Url.scheme_of_relative relative text chars, ?_⟩
    -- The uri is read again from its parts, and its scheme with them.
    rw [scheme, authorityIs] at writes
    simp only [Option.orElse_eq_orElse, Option.orElse_eq_or, Option.some_or, Option.getD_some,
      writeScheme] at writes
    obtain ⟨unrootedToo, markedToo, same⟩ := marked_scheme (canonicalScheme_chars chars)
      (authority ++ found.target?.getD ['/'])
    rw [← List.append_assoc] at unrootedToo markedToo same
    obtain ⟨written, _⟩ := readList_marked unrootedToo markedToo writes
    rw [same, canonicalScheme_canonical] at written
    exact written

/-- The uri of a request that names its host. -/
def exHosted : Uri :=
  { scheme := some "http".toList, authority := some "h".toList, path := "/a".toList }

theorem join_relative_unmarked :
    "docs/x:y//?u=a~b".toList.head? ≠ some '/' ∧
    Url.splitOrigin? (Url.splitQuery "docs/x:y//?u=a~b").1 = none ∧
    containsMark "docs/x:y//?u=a~b".toList = false ∧
    exHosted.join "docs/x:y//?u=a~b" = exHosted.join "/docs/x:y//?u=a~b" ∧
    exHosted.join "/docs/x:y//?u=a~b" =
      .ok { exHosted with path := "/docs/x:y//".toList, query := some "u=a~b".toList } := by
  have unrooted : "docs/x:y//?u=a~b".toList.head? ≠ some '/' := by decide
  have relative : Url.splitOrigin? (Url.splitQuery "docs/x:y//?u=a~b").1 = none := by
    decide +kernel
  have unmarked : containsMark "docs/x:y//?u=a~b".toList = false := by decide +kernel
  exact ⟨unrooted, relative, unmarked,
    (join_relative exHosted "docs/x:y//?u=a~b" unrooted relative).1 unmarked, by decide +kernel⟩

/-- With an absolute url in its query a relative result is refused, where the rooted one is not.
Behind a tilde the mark leads to another host. -/
theorem marked_result_refused :
    ("b?next=http://c/".toList.head? ≠ some '/' ∧
      Url.splitOrigin? (Url.splitQuery "b?next=http://c/").1 = none ∧
      exHosted.join "b?next=http://c/" = .error .invalidFormat ∧
      exHosted.join "/b?next=http://c/" =
        .ok { exHosted with path := "/b".toList, query := some "next=http://c/".toList }) ∧
    (Url.splitOrigin? (Url.splitQuery "a~b://c/d").1 = none ∧
      exHosted.join "a~b://c/d" =
        .ok { scheme := some "a~b".toList, authority := some "c".toList, path := "/d".toList } ∧
      exHosted.join "/a~b://c/d" = .ok { exHosted with path := "/a~b://c/d".toList }) := by
  refine ⟨⟨by decide, by decide +kernel, by decide +kernel, by decide +kernel⟩,
    by decide +kernel, by decide +kernel, by decide +kernel⟩

end Http.Uri

end Reroute
