import Mathlib.Data.Bool.AllAny
import Mathlib.Data.List.TakeWhile
import Reroute.Http.Uri
import Reroute.Proofs.Loading

/-!
# Forms of uris

A uri that is read is an asterisk, a path with a query, an authority, or a scheme with an authority
and perhaps a path and a query (`Form`). What it keeps of the text is a text that reads as the same
uri: nothing is lost but a fragment, and the case of a well-known scheme.

Results:
1. `readTarget_ok`, `readTarget_eq`, `readAuthority_ok`, `readAuthority_eq`, `readScheme_some`,
   `readScheme_eq`: the parts of a uri, read and read again.
2. `readList_form`: what is read has one of the forms.
3. `readList_kept`: a uri with a path is read from what is kept of it; `readList_unschemed`: an
   authority alone has no path.
-/

namespace Reroute.Http.Uri

open Reroute.Text

/-! ## 1. Texts and their lengths -/

/-- Characters that satisfy a test, up to one that does not. -/
theorem span_append {p : Char → Bool} {front rest : List Char} (inside : ∀ c ∈ front, p c = true)
    (stops : ∀ c, rest.head? = some c → p c = false) :
    (front ++ rest).takeWhile p = front ∧ (front ++ rest).dropWhile p = rest := by
  rw [List.takeWhile_append_of_pos inside, List.dropWhile_append_of_pos inside]
  cases rest with
  | nil => exact ⟨List.append_nil front, rfl⟩
  | cons c more =>
    have stop : p c = false := stops c rfl
    rw [List.takeWhile_cons, List.dropWhile_cons, stop]
    exact ⟨List.append_nil front, rfl⟩

theorem length_le_byteLength (cs : List Char) : cs.length ≤ byteLength cs := by
  induction cs with
  | nil => exact Nat.le_refl 0
  | cons c rest ih =>
    have filled := c.utf8Size_pos
    rw [byteLength_cons, List.length_cons]
    omega

theorem byteLength_mono {first whole : List Char} (starts : first <+: whole) :
    byteLength first ≤ byteLength whole := by
  obtain ⟨rest, rfl⟩ := starts
  rw [byteLength_append]
  exact Nat.le_add_right _ _

/-! ## 2. Path and query -/

/-- The query as it is written behind a path. -/
def queryText (query : Option (List Char)) : List Char := ({ query } : Uri).writeQuery

@[simp] theorem queryText_none : queryText none = [] := rfl

@[simp] theorem queryText_some (q : List Char) : queryText (some q) = '?' :: q := rfl

/-- Path and query have only characters that may stand in them. -/
structure IsTarget (path : List Char) (query : Option (List Char)) : Prop where
  path : ∀ c ∈ path, isPathChar c = true
  query : ∀ q, query = some q → ∀ c ∈ q, isQueryChar c = true

theorem readQuery_ok {cs query : List Char} (reads : readQuery cs = .ok query) :
    (∀ c ∈ query, isQueryChar c = true) ∧ query <+: cs := by
  induction cs generalizing query with
  | nil =>
    cases reads
    exact ⟨by simp, List.nil_prefix⟩
  | cons c rest ih =>
    rw [readQuery] at reads
    split at reads
    · cases reads
      exact ⟨by simp, List.nil_prefix⟩
    · split at reads
      · next allowed =>
        obtain ⟨more, later, rfl⟩ := map_ok_iff.mp reads
        obtain ⟨chars, starts⟩ := ih later
        exact ⟨List.forall_mem_cons.mpr ⟨allowed, chars⟩, List.cons_prefix_cons.mpr ⟨rfl, starts⟩⟩
      · cases reads

theorem readQuery_eq {query : List Char} (chars : ∀ c ∈ query, isQueryChar c = true) :
    readQuery query = .ok query := by
  induction query with
  | nil => rfl
  | cons c rest ih =>
    obtain ⟨here, later⟩ := List.forall_mem_cons.mp chars
    have noFragment : c ≠ '#' := by
      rintro rfl
      exact absurd here (by decide)
    rw [readQuery, if_neg noFragment, if_pos here, ih later]
    rfl

/-- Path and query are the beginning of the text that they are read from. -/
theorem readTarget_ok {cs path : List Char} {query : Option (List Char)}
    (reads : readTarget cs = .ok (path, query)) :
    IsTarget path query ∧ path ++ queryText query <+: cs := by
  induction cs generalizing path query with
  | nil =>
    cases reads
    exact ⟨⟨by simp, by simp⟩, List.nil_prefix⟩
  | cons c rest ih =>
    rw [readTarget] at reads
    split at reads
    · next mark =>
      obtain ⟨q, behind, same⟩ := map_ok_iff.mp reads
      cases same
      obtain ⟨chars, starts⟩ := readQuery_ok behind
      refine ⟨⟨by simp, ?_⟩, ?_⟩
      · intro q' same
        cases same
        exact chars
      · rw [mark]
        exact List.cons_prefix_cons.mpr ⟨rfl, starts⟩
    · split at reads
      · cases reads
        exact ⟨⟨by simp, by simp⟩, List.nil_prefix⟩
      · split at reads
        · next allowed =>
          obtain ⟨⟨path', query'⟩, later, same⟩ := map_ok_iff.mp reads
          cases same
          obtain ⟨target, starts⟩ := ih later
          exact ⟨⟨List.forall_mem_cons.mpr ⟨allowed, target.path⟩, target.query⟩,
            List.cons_prefix_cons.mpr ⟨rfl, starts⟩⟩
        · cases reads

theorem readTarget_eq {path : List Char} {query : Option (List Char)}
    (target : IsTarget path query) : readTarget (path ++ queryText query) = .ok (path, query) := by
  obtain ⟨chars, queryChars⟩ := target
  induction path with
  | nil =>
    cases query with
    | none => rfl
    | some q =>
      show readTarget ('?' :: q) = .ok ([], some q)
      rw [readTarget, if_pos rfl, readQuery_eq (queryChars q rfl)]
      rfl
  | cons c rest ih =>
    obtain ⟨here, later⟩ := List.forall_mem_cons.mp chars
    have noMark : c ≠ '?' := by
      rintro rfl
      exact absurd here (by decide)
    have noFragment : c ≠ '#' := by
      rintro rfl
      exact absurd here (by decide)
    rw [List.cons_append, readTarget, if_neg noMark, if_neg noFragment, if_pos here, ih later]
    rfl

/-- A path that is read from a rooted text is rooted. -/
theorem readTarget_rooted {cs path : List Char} {query : Option (List Char)}
    (reads : readTarget ('/' :: cs) = .ok (path, query)) : path.head? = some '/' := by
  rw [readTarget, if_neg (by decide), if_neg (by decide), if_pos (by decide)] at reads
  obtain ⟨found, _, same⟩ := map_ok_iff.mp reads
  cases same
  rfl

/-- No more of the text can belong to an authority in front of it. -/
def EndsAuthority (rest : List Char) : Prop := ∀ c, rest.head? = some c → endsAuthority c = true

/-- Behind an authority the path is rooted or missing. -/
theorem readTarget_behind {rest path : List Char} {query : Option (List Char)}
    (ends : EndsAuthority rest) (reads : readTarget rest = .ok (path, query)) :
    path = [] ∨ path.head? = some '/' := by
  cases rest with
  | nil =>
    cases reads
    exact .inl rfl
  | cons c more =>
    have stops : endsAuthority c = true := ends c rfl
    simp only [endsAuthority, Bool.or_eq_true, beq_iff_eq] at stops
    rcases stops with (rfl | rfl) | rfl
    · exact .inr (readTarget_rooted reads)
    · rw [readTarget, if_pos rfl] at reads
      obtain ⟨q, _, same⟩ := map_ok_iff.mp reads
      cases same
      exact .inl rfl
    · cases reads
      exact .inl rfl

/-! ## 3. Authority and scheme -/

/-- The text can stand as an authority. -/
structure IsAuthority (authority : List Char) : Prop where
  inside : ∀ c ∈ authority, endsAuthority c = false
  scans : ∃ s, scanAuthority {} authority = .ok s ∧ s.accepts = true

theorem readAuthority_ok {cs authority rest : List Char}
    (reads : readAuthority cs = .ok (authority, rest)) :
    cs = authority ++ rest ∧ IsAuthority authority ∧ EndsAuthority rest := by
  unfold readAuthority at reads
  dsimp only at reads
  split at reads
  · cases reads
  · next s scans =>
    split at reads
    · next accepts =>
      cases reads
      refine ⟨(List.takeWhile_append_dropWhile).symm, ⟨?_, s, scans, accepts⟩, ?_⟩
      · intro c member
        simpa using List.mem_takeWhile_imp member
      · intro c first
        have stops := List.head?_dropWhile_not (fun c => !endsAuthority c) cs
        rw [first] at stops
        simpa using stops
    · cases reads

theorem readAuthority_eq {authority rest : List Char} (holds : IsAuthority authority)
    (ends : EndsAuthority rest) : readAuthority (authority ++ rest) = .ok (authority, rest) := by
  have inside : ∀ c ∈ authority, (!endsAuthority c) = true := by
    intro c member
    simp [holds.inside c member]
  have stops : ∀ c, rest.head? = some c → (!endsAuthority c) = false := by
    intro c first
    simp [ends c first]
  obtain ⟨front, behind⟩ := span_append inside stops
  obtain ⟨s, scans, accepts⟩ := holds.scans
  unfold readAuthority
  rw [front, behind]
  simp only [scans, accepts, ↓reduceIte]

/-- The text can stand as a scheme, and is the one way to write it. -/
structure IsScheme (scheme : List Char) : Prop where
  chars : ∀ c ∈ scheme, isSchemeChar c = true
  short : scheme.length ≤ schemeLimit
  canonical : canonicalScheme scheme = scheme

/-- A scheme in its own spelling takes no more room than in another. -/
theorem canonicalScheme_short (scheme : List Char) :
    (canonicalScheme scheme).length = scheme.length ∧
      byteLength (canonicalScheme scheme) ≤ byteLength scheme := by
  unfold canonicalScheme
  dsimp only
  split
  · next known =>
    have same : byteLength (scheme.map Char.toLower) = (scheme.map Char.toLower).length := by
      rcases known with known | known
      · rw [known]
        decide
      · rw [known]
        decide
    rw [same, List.length_map]
    exact ⟨rfl, length_le_byteLength scheme⟩
  · exact ⟨rfl, Nat.le_refl _⟩

theorem canonicalScheme_chars {scheme : List Char} (chars : ∀ c ∈ scheme, isSchemeChar c = true) :
    ∀ c ∈ canonicalScheme scheme, isSchemeChar c = true := by
  unfold canonicalScheme
  dsimp only
  split
  · next known =>
    rcases known with known | known
    · rw [known]
      exact List.all_eq_true.mp (by decide)
    · rw [known]
      exact List.all_eq_true.mp (by decide)
  · exact chars

theorem canonicalScheme_canonical (scheme : List Char) :
    canonicalScheme (canonicalScheme scheme) = canonicalScheme scheme := by
  unfold canonicalScheme
  dsimp only
  split
  · next known =>
    rcases known with known | known
    · rw [known]
      decide
    · rw [known]
      decide
  · rfl

theorem readScheme_some {cs scheme rest : List Char}
    (reads : readScheme cs = .ok (some scheme, rest)) :
    IsScheme scheme ∧
      ∃ spelt, spelt = cs.takeWhile isSchemeChar ∧ canonicalScheme spelt = scheme ∧
        cs = spelt ++ "://".toList ++ rest := by
  unfold readScheme at reads
  dsimp only at reads
  split at reads
  · next behind found =>
    split at reads
    · cases reads
    · next short =>
      cases reads
      have chars : ∀ c ∈ cs.takeWhile isSchemeChar, isSchemeChar c = true :=
        fun c member => List.mem_takeWhile_imp member
      refine ⟨⟨canonicalScheme_chars chars, ?_, canonicalScheme_canonical _⟩, _, rfl, rfl, ?_⟩
      · rw [(canonicalScheme_short _).1]
        exact Nat.not_lt.mp short
      · have whole := List.takeWhile_append_dropWhile (p := isSchemeChar) (l := cs)
        rw [found] at whole
        simpa using whole.symm
  · cases reads

theorem readScheme_none {cs rest : List Char} (reads : readScheme cs = .ok (none, rest)) :
    rest = cs := by
  unfold readScheme at reads
  dsimp only at reads
  split at reads
  · split at reads <;> cases reads
  · cases reads
    rfl

theorem readScheme_eq {scheme : List Char} (holds : IsScheme scheme) (rest : List Char) :
    readScheme (scheme ++ "://".toList ++ rest) = .ok (some scheme, rest) := by
  have text : scheme ++ "://".toList ++ rest = scheme ++ ':' :: '/' :: '/' :: rest := by simp
  have stops : ∀ c, (':' :: '/' :: '/' :: rest).head? = some c → isSchemeChar c = false := by
    intro c first
    cases first
    decide
  obtain ⟨front, behind⟩ := span_append holds.chars stops
  unfold readScheme
  rw [text, front, behind]
  show (if schemeLimit < scheme.length then Except.error UriError.schemeTooLong
    else .ok (some (canonicalScheme scheme), rest)) = _
  rw [if_neg (Nat.not_lt.mpr holds.short), holds.canonical]

/-! ## 4. Whole uris -/

/-- The forms that a uri can have. -/
inductive Form : Uri → Prop
  | asterisk : Form { path := ['*'] }
  | origin {path : List Char} {query : Option (List Char)} :
      path.head? = some '/' → IsTarget path query → Form { path, query }
  | authority {authority : List Char} :
      IsAuthority authority → authority ≠ [] → Form { authority := some authority }
  | absolute {scheme authority path : List Char} {query : Option (List Char)} :
      IsScheme scheme → IsAuthority authority → authority ≠ [] →
      (path = [] ∨ path.head? = some '/') → IsTarget path query →
      Form { scheme := some scheme, authority := some authority, path, query }

/-- What a uri keeps of the text that it is read from. -/
def kept (u : Uri) : List Char :=
  u.writeScheme ++ u.authority.getD [] ++ (u.path ++ queryText u.query)

theorem endsAuthority_target {path : List Char} {query : Option (List Char)}
    (rooted : path = [] ∨ path.head? = some '/') : EndsAuthority (path ++ queryText query) := by
  intro c first
  rcases rooted with rfl | rooted
  · cases query with
    | none => cases first
    | some q =>
      cases first
      rfl
  · rw [List.head?_append, rooted] at first
    cases first
    rfl

/-- A scheme and an authority with a slash, a query or nothing behind it. -/
theorem readFull_form {cs : List Char} {u : Uri} (filled : cs ≠ [])
    (reads : readFull cs = .ok u) : u.Form ∧ byteLength u.kept ≤ byteLength cs := by
  obtain ⟨⟨scheme, behind⟩, hasScheme, afterScheme⟩ := bind_ok_iff.mp reads
  obtain ⟨⟨authority, rest⟩, hasAuthority, afterAuthority⟩ := bind_ok_iff.mp afterScheme
  obtain ⟨whole, isAuthority, ends⟩ := readAuthority_ok hasAuthority
  cases scheme with
  | none =>
    dsimp only [Option.isNone] at afterAuthority
    rw [if_pos rfl] at afterAuthority
    split at afterAuthority
    · next ended =>
      cases afterAuthority
      have nothing : rest = [] := by simpa using ended
      rw [nothing, List.append_nil] at whole
      obtain rfl := readScheme_none hasScheme
      refine ⟨.authority isAuthority (whole ▸ filled), ?_⟩
      rw [whole]
      simp [kept, writeScheme]
    · cases afterAuthority
  | some scheme =>
    dsimp only [Option.isNone] at afterAuthority
    rw [if_neg Bool.false_ne_true] at afterAuthority
    split at afterAuthority
    · cases afterAuthority
    · next known =>
      obtain ⟨⟨path, query⟩, hasTarget, same⟩ := bind_ok_iff.mp afterAuthority
      cases same
      obtain ⟨isScheme, spelt, _, spelling, text⟩ := readScheme_some hasScheme
      obtain ⟨isTarget, starts⟩ := readTarget_ok hasTarget
      have nonempty : authority ≠ [] := by simpa using known
      refine ⟨.absolute isScheme isAuthority nonempty (readTarget_behind ends hasTarget) isTarget,
        ?_⟩
      have scheme_le := (canonicalScheme_short spelt).2
      rw [spelling] at scheme_le
      have target_le := byteLength_mono starts
      rw [text, whole]
      simp only [kept, writeScheme, Option.getD_some, byteLength_append] at target_le ⊢
      omega

theorem readList_form {cs : List Char} {u : Uri} (reads : readList cs = .ok u) :
    u.Form ∧ byteLength u.kept ≤ lengthLimit := by
  unfold readList at reads
  split at reads
  · cases reads
  · next fits =>
    have short : byteLength cs ≤ lengthLimit := Nat.not_lt.mp fits
    split at reads
    · cases reads
    · cases reads
      exact ⟨.asterisk, by decide⟩
    · split at reads
      · cases reads
        exact ⟨.origin rfl ⟨List.all_eq_true.mp (by decide), by simp⟩, by decide⟩
      · split at reads
        · cases reads
        · obtain ⟨form, kept_le⟩ := readFull_form (List.cons_ne_nil _ _) reads
          exact ⟨form, kept_le.trans short⟩
    · obtain ⟨⟨path, query⟩, hasTarget, same⟩ := map_ok_iff.mp reads
      cases same
      obtain ⟨isTarget, starts⟩ := readTarget_ok hasTarget
      refine ⟨.origin (readTarget_rooted hasTarget) isTarget, ?_⟩
      exact (byteLength_mono starts).trans short
    · next filled _ _ _ =>
      obtain ⟨form, kept_le⟩ := readFull_form filled reads
      exact ⟨form, kept_le.trans short⟩

/-! ## 5. Reading again -/

theorem readList_rooted {path : List Char} {query : Option (List Char)}
    (rooted : path.head? = some '/') (target : IsTarget path query)
    (fits : byteLength (path ++ queryText query) ≤ lengthLimit) :
    readList (path ++ queryText query) = .ok { path, query } := by
  obtain ⟨more, rfl⟩ : ∃ more, path = '/' :: more := by
    cases path with
    | nil => cases rooted
    | cons c more =>
      cases rooted
      exact ⟨more, rfl⟩
  have reads := readTarget_eq target
  unfold readList
  rw [if_neg (Nat.not_lt.mpr fits)]
  rw [List.cons_append] at reads ⊢
  cases behind : more ++ queryText query with
  | nil =>
    rw [behind] at reads
    cases reads
    rfl
  | cons c rest =>
    rw [behind] at reads
    show (readTarget ('/' :: c :: rest)).map _ = _
    rw [reads]
    rfl

/-- A text of two characters and more that is not rooted begins with a scheme or an authority. -/
theorem readList_full {c d : Char} {rest : List Char} (unrooted : c ≠ '/')
    (fits : byteLength (c :: d :: rest) ≤ lengthLimit) :
    readList (c :: d :: rest) = readFull (c :: d :: rest) := by
  unfold readList
  rw [if_neg (Nat.not_lt.mpr fits)]
  split
  · next same => cases same
  · next same => cases same
  · next same => cases same
  · next same =>
    cases same
    exact absurd rfl unrooted
  · rfl

theorem readFull_absolute {scheme authority path : List Char} {query : Option (List Char)}
    (isScheme : IsScheme scheme) (isAuthority : IsAuthority authority) (filled : authority ≠ [])
    (rooted : path = [] ∨ path.head? = some '/') (target : IsTarget path query) :
    readFull (scheme ++ "://".toList ++ (authority ++ (path ++ queryText query))) =
      .ok { scheme := some scheme, authority := some authority, path, query } := by
  have nonempty : authority.isEmpty = false := by simpa using filled
  unfold readFull
  rw [readScheme_eq isScheme]
  show (readAuthority (authority ++ (path ++ queryText query)) >>= fun found => _) = _
  rw [readAuthority_eq isAuthority (endsAuthority_target rooted)]
  show (if authority.isEmpty then _
    else readTarget (path ++ queryText query) >>= fun found => _) = _
  rw [nonempty, readTarget_eq target]
  rfl

/-- A uri with a path is read again from what it has kept of its text. -/
theorem readList_kept {u : Uri} (form : u.Form) (pathful : u.hasPath = true)
    (fits : byteLength u.kept ≤ lengthLimit) : readList u.kept = .ok u := by
  cases form with
  | asterisk => rfl
  | origin rooted target => exact readList_rooted rooted target fits
  | authority => cases pathful
  | @absolute scheme authority path query isScheme isAuthority filled rooted target =>
    have text : kept { scheme := some scheme, authority := some authority, path, query } =
        scheme ++ "://".toList ++ (authority ++ (path ++ queryText query)) := by
      simp [kept, writeScheme]
    have reads := readFull_absolute isScheme isAuthority filled rooted target
    rw [text] at fits ⊢
    -- A scheme has no slash, so the text is not taken for a path.
    obtain ⟨c, d, rest, split, unrooted⟩ : ∃ c d rest,
        scheme ++ "://".toList ++ (authority ++ (path ++ queryText query)) = c :: d :: rest ∧
          c ≠ '/' := by
      cases scheme with
      | nil => exact ⟨':', '/', _, rfl, by decide⟩
      | cons c more =>
        have allowed := isScheme.chars c List.mem_cons_self
        have unrooted : c ≠ '/' := by
          rintro rfl
          exact absurd allowed (by decide)
        cases more with
        | nil => exact ⟨c, ':', _, rfl, unrooted⟩
        | cons d more => exact ⟨c, d, _, rfl, unrooted⟩
    rw [split] at fits reads ⊢
    rw [readList_full unrooted fits, reads]

/-- A scheme ends with two slashes, so a text with one of them has none. -/
theorem readScheme_unschemed {cs : List Char} (slashes : cs.count '/' ≤ 1) :
    readScheme cs = .ok (none, cs) := by
  unfold readScheme
  dsimp only
  split
  · next rest found =>
    have whole := List.takeWhile_append_dropWhile (p := isSchemeChar) (l := cs)
    rw [found] at whole
    have more : (cs.takeWhile isSchemeChar ++ ':' :: '/' :: '/' :: rest).count '/' ≤ 1 := by
      rwa [whole]
    rw [List.count_append, List.count_cons_of_ne (by decide), List.count_cons_self,
      List.count_cons_self] at more
    omega
  · rfl

/-- Without a scheme an authority has no path behind it. -/
theorem readList_unschemed {authority : List Char} (isAuthority : IsAuthority authority)
    (filled : authority ≠ []) (fits : byteLength (authority ++ ['/']) ≤ lengthLimit) :
    readList (authority ++ ['/']) = .error .invalidFormat := by
  have noSlash : '/' ∉ authority := by
    intro member
    cases isAuthority.inside '/' member
  have slashes : (authority ++ ['/']).count '/' ≤ 1 := by
    rw [List.count_append, List.count_eq_zero_of_not_mem noSlash]
    decide
  have ends : EndsAuthority ['/'] := by
    intro c first
    cases first
    rfl
  have reads : readFull (authority ++ ['/']) = .error .invalidFormat := by
    unfold readFull
    rw [readScheme_unschemed slashes]
    show (readAuthority (authority ++ ['/']) >>= fun found => _) = _
    rw [readAuthority_eq isAuthority ends]
    rfl
  obtain ⟨c, d, rest, split, unrooted⟩ : ∃ c d rest, authority ++ ['/'] = c :: d :: rest ∧
      c ≠ '/' := by
    cases authority with
    | nil => exact absurd rfl filled
    | cons c more =>
      have unrooted : c ≠ '/' := by
        rintro rfl
        exact noSlash List.mem_cons_self
      cases more with
      | nil => exact ⟨c, '/', [], rfl, unrooted⟩
      | cons d more => exact ⟨c, d, _, rfl, unrooted⟩
  rw [split] at fits reads ⊢
  rw [readList_full unrooted fits, reads]

theorem readList_tooLong {cs : List Char} (long : lengthLimit < byteLength cs) :
    readList cs = .error .tooLong := by
  unfold readList
  rw [if_pos long]

end Reroute.Http.Uri
