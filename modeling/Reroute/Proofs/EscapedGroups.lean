import Reroute.Proofs.UrlParts
import Reroute.Template.Expand

/-!
# Groups that are percent-encoded

Texts that a request was matched with are put into urls. Where they are percent-encoded first, none
of the characters that divide a url comes from them, so that all of its divisions are those which
the literal text of the template writes. The one between target and query is the first question mark
of the literal text, and the template can be cut there before it is expanded.

Results:
1. `encodeByte_free`, `percentEncode_free`: encoded texts have no delimiters.
2. `segment_count`, `expand_count`: the delimiters of an expansion are those of the literal text.
3. `splitQuery_expand`: cutting the template and splitting the url come to the same.
4. `expand_escaped`: both for templates of texts and groups.
-/

namespace Reroute

/-! ## 1. Encoded texts -/

namespace Text

/-- The characters that divide a url into its parts. -/
def delimiters : List Char := ['/', '?', '&', '=', '#', ':', ';', '@']

theorem upperHex_free : ∀ n < 16, upperHex n ∉ delimiters := by decide

/-- Kept bytes are no delimiters, and all others are written with a percent sign and digits. -/
theorem encodeByte_free {b : UInt8} {c : Char} (member : c ∈ encodeByte b) :
    c ∉ delimiters := by
  have small : b.toNat < 256 := b.toNat_lt
  unfold encodeByte at member
  split at member
  · next kept =>
    obtain rfl := List.mem_singleton.mp member
    intro delimits
    simp only [isKept, Bool.and_eq_true, Bool.not_eq_true', List.contains_eq_mem,
      decide_eq_false_iff_not] at kept
    have escaped : ∀ d ∈ delimiters, d ∈ ['~', '\'', '"', '\x60', '#', '<', '>', '?', '^', '\x7b',
        '\x7d', '/', ':', ';', '=', '@', '[', ']', '$', '&', '+', ','] := by simp [delimiters]
    exact kept.2 (escaped _ delimits)
  · simp only [List.mem_cons, List.not_mem_nil, or_false] at member
    rcases member with rfl | rfl | rfl
    · decide
    · exact upperHex_free _ (by omega)
    · exact upperHex_free _ (by omega)

theorem percentEncode_free {s : String} {c : Char} (delimits : c ∈ delimiters) :
    c ∉ (percentEncode s).toList := by
  intro member
  rw [percentEncode, String.toList_ofList, percentEncodeList, List.mem_flatMap] at member
  obtain ⟨b, _, written⟩ := member
  exact encodeByte_free written delimits

end Text

/-! ## 2. Delimiters of an expansion -/

/-- Whether the segment is literal text or a captured group. -/
def Segment.isPlain : Segment → Bool
  | .literal _ | .ruleGroup _ | .conditionGroup _ => true
  | _ => false

def Segment.literalText : Segment → List Char
  | .literal text => text.toList
  | _ => []

namespace Template

open Reroute.Text

/-- The literal text of a template, without what stands between its pieces. -/
def literalText (t : Template) : List Char := t.flatMap Segment.literalText

theorem expand_cons_ok_iff {s : Scene} {segment : Segment} {rest : Template} {url : String} :
    expand s (segment :: rest) = .ok url ↔
      ∃ text more, expandSegment s segment = .ok text ∧ expand s rest = .ok more ∧
        url = text ++ more := by
  rw [expand]
  cases expandSegment s segment with
  | error e => simp
  | ok text => cases expand s rest <;> simp [Except.map, eq_comm]

variable {s : Scene} {c : Char}

theorem group_count (escapes : s.escape = true) (delimits : c ∈ delimiters)
    {reference : Reference} {text : String} (h : s.group reference = .ok text) :
    text.toList.count c = 0 := by
  rw [Scene.group] at h
  cases found : reference.resolve s.captures with
  | error e => simp [found, Except.map] at h
  | ok group =>
    simp only [found, Except.map, escapes, ↓reduceIte, Except.ok.injEq] at h
    subst h
    exact List.count_eq_zero.mpr (percentEncode_free delimits)

theorem segment_count (escapes : s.escape = true) (delimits : c ∈ delimiters)
    {segment : Segment} (plain : segment.isPlain = true) {text : String}
    (h : expandSegment s segment = .ok text) :
    text.toList.count c = segment.literalText.count c := by
  cases segment with
  | literal written =>
    rw [expandSegment] at h
    cases h
    rfl
  | ruleGroup n =>
    rw [expandSegment] at h
    exact group_count escapes delimits h
  | conditionGroup n =>
    rw [expandSegment] at h
    exact group_count escapes delimits h
  | server _ | currentUrl | function _ _ | lookup _ _ => cases plain

theorem expand_count (escapes : s.escape = true) (delimits : c ∈ delimiters) {t : Template}
    (plain : ∀ segment ∈ t, segment.isPlain = true) {url : String}
    (h : expand s t = .ok url) : url.toList.count c = (literalText t).count c := by
  induction t generalizing url with
  | nil =>
    rw [expand] at h
    cases h
    rfl
  | cons segment rest ih =>
    obtain ⟨here, later⟩ := List.forall_mem_cons.mp plain
    obtain ⟨text, more, first, others, rfl⟩ := expand_cons_ok_iff.mp h
    rw [String.toList_append, List.count_append, segment_count escapes delimits here first,
      ih later others, literalText, literalText, List.flatMap_cons, List.count_append]

/-! ## 3. Target and query -/

/-- The parts of a template before and after the first question mark of its literal text; without
one the second part is empty. -/
def splitQuery : Template → Template × Template
  | [] => ([], [])
  | segment :: rest =>
    match splitFirst? (· == '?') segment.literalText with
    | some (before, after) =>
      ([.literal (String.ofList before)], .literal (String.ofList after) :: rest)
    | none => (segment :: (splitQuery rest).1, (splitQuery rest).2)

/-- Only literal text is cut. -/
theorem eq_literal_of_split {segment : Segment} {parts : List Char × List Char}
    (h : splitFirst? (· == '?') segment.literalText = some parts) :
    ∃ text, segment = .literal text := by
  cases segment with
  | literal text => exact ⟨text, rfl⟩
  | ruleGroup _ | conditionGroup _ | server _ | currentUrl | function _ _ | lookup _ _ => cases h

theorem splitQuery_expand (escapes : s.escape = true) {t : Template}
    (plain : ∀ segment ∈ t, segment.isPlain = true) {url : String} (h : expand s t = .ok url) :
    expand s (splitQuery t).1 = .ok (Url.splitQuery url).1 ∧
      expand s (splitQuery t).2 = .ok (Url.splitQuery url).2 := by
  induction t generalizing url with
  | nil =>
    rw [expand] at h
    cases h
    exact ⟨rfl, rfl⟩
  | cons segment rest ih =>
    obtain ⟨here, later⟩ := List.forall_mem_cons.mp plain
    obtain ⟨text, more, first, others, rfl⟩ := expand_cons_ok_iff.mp h
    rw [splitQuery]
    cases splits : splitFirst? (· == '?') segment.literalText with
    | some parts =>
      -- The mark stands in literal text, and the url splits at it.
      obtain ⟨before, after⟩ := parts
      obtain ⟨written, rfl⟩ := eq_literal_of_split splits
      rw [expandSegment] at first
      cases first
      rw [Url.splitQuery_append_of_split splits]
      refine ⟨?_, ?_⟩
      · exact expand_cons_ok_iff.mpr ⟨_, "", rfl, by rw [expand], by simp⟩
      · exact expand_cons_ok_iff.mpr ⟨_, more, rfl, others, rfl⟩
    | none =>
      -- No mark is in the literal text of the segment, and so none is in what it expands to.
      have unmarked : '?' ∉ text.toList := by
        rw [← List.count_eq_zero, segment_count escapes (by decide) here first,
          List.count_eq_zero]
        intro member
        simpa using splitFirst_eq_none_iff.mp splits '?' member
      obtain ⟨target, query⟩ := ih later others
      rw [Url.splitQuery_append_of_free unmarked]
      exact ⟨expand_cons_ok_iff.mpr ⟨text, _, first, target, rfl⟩, query⟩

/-! ## 4. Escaped expansions -/

/-- Where groups are encoded, a url made of literal texts and groups has every delimiter exactly as
often as the literal texts do. It splits into a target and a query that are what the template
expands to before and after the first question mark of its literal text. -/
theorem expand_escaped (t : Template) (plain : ∀ segment ∈ t, segment.isPlain = true)
    (request : Request) (captures : Captures) (isGlobal : Bool) (url : String)
    (expands : expand ⟨request, captures, isGlobal, true⟩ t = .ok url) :
    (∀ c ∈ delimiters, url.toList.count c = (literalText t).count c) ∧
    ∃ target query, Url.splitQuery url = (target, query) ∧
      expand ⟨request, captures, isGlobal, true⟩ (splitQuery t).1 = .ok target ∧
      expand ⟨request, captures, isGlobal, true⟩ (splitQuery t).2 = .ok query := by
  refine ⟨fun c delimits => expand_count rfl delimits plain expands, ?_⟩
  obtain ⟨target, query⟩ := splitQuery_expand rfl plain expands
  exact ⟨_, _, rfl, target, query⟩

/-- A url with two question marks of its own, the first of them between two groups. -/
def exMarked : Template :=
  [.literal "/x/", .ruleGroup 1, .literal "?q=", .conditionGroup 0, .literal "&r?"]

/-- Groups that try to divide it further. -/
def exHostile : Captures :=
  (({} : Captures).recordRule ["/a", "a?b/c&d"]).recordCondition ["=#:;@é%3F"] false

theorem expand_escaped_hostile :
    (∀ segment ∈ exMarked, segment.isPlain = true) ∧
    expand ⟨Request.ofUrl "/a", exHostile, false, true⟩ exMarked =
      .ok "/x/a%3Fb%2Fc%26d?q=%3D%23%3A%3B%40%C3%A9%3F&r?" ∧
    (∀ c ∈ delimiters, "/x/a%3Fb%2Fc%26d?q=%3D%23%3A%3B%40%C3%A9%3F&r?".toList.count c =
      "/x/?q=&r?".toList.count c) ∧
    ∃ target query, target = "/x/a%3Fb%2Fc%26d" ∧ query = "q=%3D%23%3A%3B%40%C3%A9%3F&r?" ∧
      expand ⟨Request.ofUrl "/a", exHostile, false, true⟩ [.literal "/x/", .ruleGroup 1,
        .literal ""] = .ok target ∧
      expand ⟨Request.ofUrl "/a", exHostile, false, true⟩ [.literal "q=", .conditionGroup 0,
        .literal "&r?"] = .ok query := by
  have plain : ∀ segment ∈ exMarked, segment.isPlain = true := by decide
  have expands : expand ⟨Request.ofUrl "/a", exHostile, false, true⟩ exMarked =
      .ok "/x/a%3Fb%2Fc%26d?q=%3D%23%3A%3B%40%C3%A9%3F&r?" := by rfl
  obtain ⟨counts, target, query, splits, before, after⟩ :=
    expand_escaped exMarked plain (Request.ofUrl "/a") exHostile false _ expands
  obtain ⟨rfl, rfl⟩ := Prod.mk.inj splits
  exact ⟨plain, expands, counts, _, _, by decide, by decide, before, after⟩

end Template

end Reroute
