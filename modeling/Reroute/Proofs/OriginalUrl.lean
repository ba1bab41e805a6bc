import Reroute.Proofs.RunSteps
import Reroute.Proofs.UrlParts

/-!
# The url that global rules see

Global rules are matched with the absolute url of the request as it came. Its path and its query
are remembered, but scheme and host are those of the moment: a rewrite to an absolute target
replaces them, and rules behind it see a url that was never asked for, with the path of one origin
behind another.

Results:
1. `fullUrl_eq_iff`: while path and query are remembered, only the origin counts.
2. `Action.origin_after`: the origin that an action leaves.
3. `apply_fullUrl`: what a run leaves of the url, at each of its points, and when that is all.
4. `moved_url_seen`: the second of two global rules with the same pattern never matches.
-/

namespace Reroute

/-! ## 1. Origins -/

namespace Url.Origin

/-- What an absolute url begins with. -/
def text (o : Origin) : String := o.scheme ++ "://" ++ o.host

end Url.Origin

namespace Request

/-- What the absolute url of a request begins with. -/
def origin (r : Request) : String := r.scheme ++ "://" ++ r.host

theorem fullUrl_eq_iff {r s : Request} (path : r.initialPath = s.initialPath)
    (query : r.initialQuery = s.initialQuery) : r.fullUrl = s.fullUrl ↔ r.origin = s.origin := by
  unfold fullUrl
  rw [path, query, Url.joinQuery_inj, ← origin, ← origin, String.append_left_inj]

end Request

/-! ## 2. Actions -/

namespace Action

/-- The origin of the target of a rewrite, if it is an absolute one. -/
def origin? (a : Action) (request : Request) (captures : Captures) (isGlobal : Bool) :
    Option Url.Origin :=
  match a.kind, a.expandUrl request captures isGlobal with
  | .rewrite, .ok url => Url.splitOrigin? (Url.splitQuery url).1
  | _, _ => none

variable {a : Action} {request next : Request} {captures : Captures} {isGlobal : Bool}
  {flow : ActionFlow}

/-- No action forgets the path and the query that the request came with. -/
theorem initial_after (h : a.apply request captures isGlobal = .ok (flow, next)) :
    next.initialPath = request.initialPath ∧ next.initialQuery = request.initialQuery := by
  cases effect h with
  | keeps | redirects | answers => exact ⟨rfl, rfl⟩
  | rewrites => exact ⟨retarget_initialPath _ _ _, retarget_initialQuery _ _ _⟩

/-- The origin changes to that of an absolute target, and in no other way. -/
theorem origin_after (h : a.apply request captures isGlobal = .ok (flow, next)) :
    next.origin = request.origin ∨
      ∃ o, a.origin? request captures isGlobal = some o ∧ next.origin = o.text := by
  cases effect h with
  | keeps | redirects | answers => exact .inl rfl
  | @rewrites url kind expanded =>
    cases found : Url.splitOrigin? (Url.splitQuery url).1 with
    | none =>
      left
      simp [Request.origin, found]
    | some o =>
      right
      exact ⟨o, by simp only [origin?, kind, expanded, found],
        by simp [Request.origin, Url.Origin.text, found]⟩

end Action

/-! ## 3. Runs -/

namespace Rule

/-- In a run of the rules that begins with `request`, a rewrite to an absolute target is taken
whose origin is `o`. -/
def Moves (rules : List Rule) (request : Request) (o : Url.Origin) : Prop :=
  ∃ v a now, Acts rules request v a now ∧ a.origin? now v.captures v.rule.isGlobal = some o

variable {rules : List Rule} {request now : Request}

theorem Comes.initial (comes : Comes rules request now) :
    now.initialPath = request.initialPath ∧ now.initialQuery = request.initialQuery :=
  comes.keeps (P := fun r =>
      r.initialPath = request.initialPath ∧ r.initialQuery = request.initialQuery)
    (fun _ _ _ _ _ _ taken kept =>
      let ⟨path, query⟩ := Action.initial_after taken
      ⟨path.trans kept.1, query.trans kept.2⟩)
    ⟨rfl, rfl⟩

/-- The origin is always the one that the request came with, or one that it was moved to. -/
theorem Comes.origin (comes : Comes rules request now) :
    now.origin = request.origin ∨ ∃ o, Moves rules request o ∧ now.origin = o.text := by
  refine comes.keeps (P := fun r =>
    r.origin = request.origin ∨ ∃ o, Moves rules request o ∧ r.origin = o.text) ?_ (.inl rfl)
  -- An action that leaves the origin keeps the reason for it; one that changes it is the reason.
  intro v a before acts flow next taken kept
  rcases Action.origin_after taken with same | ⟨o, found, moved⟩
  · rwa [same]
  · exact .inr ⟨o, ⟨v, a, before, acts, found⟩, moved⟩

end Rule

/-! ## 4. The engine -/

open Rule in
/-- At every point of a run the path and the query of the absolute url are those that the request
came with, so the url is the original one exactly if the origin is. The origin is the original one
or that of an absolute target that has been taken. Where all these have the origin of the request,
global rules see the original url at all points, in their match as in their templates. -/
theorem Engine.apply_fullUrl (e : Engine) (request : Request) :
    (∀ now, Comes e.rules request now →
      now.initialPath = request.initialPath ∧ now.initialQuery = request.initialQuery ∧
      (now.fullUrl = request.fullUrl ↔ now.origin = request.origin) ∧
      (now.origin = request.origin ∨ ∃ o, Moves e.rules request o ∧ now.origin = o.text)) ∧
    ((∀ o, Moves e.rules request o → o.text = request.origin) →
      (e.apply request).fullUrl = request.fullUrl ∧
      ∀ now, Comes e.rules request now →
        (∀ rule : Rule, rule.isGlobal = true → rule.candidate now = request.fullUrl) ∧
        ∀ captures escape,
          Template.expandSegment ⟨now, captures, true, escape⟩ .currentUrl =
            .ok request.fullUrl) := by
  have seen : ∀ now, Comes e.rules request now →
      (now.fullUrl = request.fullUrl ↔ now.origin = request.origin) := fun now comes =>
    Request.fullUrl_eq_iff comes.initial.1 comes.initial.2
  refine ⟨fun now comes => ⟨comes.initial.1, comes.initial.2, seen now comes, comes.origin⟩, ?_⟩
  intro still
  have original : ∀ now, Comes e.rules request now → now.fullUrl = request.fullUrl := by
    intro now comes
    rcases comes.origin with same | ⟨o, moves, moved⟩
    · exact (seen now comes).mpr same
    · exact (seen now comes).mpr (moved.trans (still o moves))
  refine ⟨original _ .ended, fun now comes => ⟨fun rule isGlobal => ?_, fun captures escape => ?_⟩⟩
  · exact (if_pos isGlobal).trans (original now comes)
  · rw [← original now comes]
    simp [Template.expandSegment, Scene.currentUrl]

/-- A rewrite to an absolute target of the same origin, and a global rule behind it. -/
def exStaying : List Rule :=
  [exRule .rewrite "http://localhost/b?c",
    { exRule .forbidden "" with
      initialMatch := .exact "http://localhost/a" false false, isGlobal := true }]

theorem exStaying_moves {o : Url.Origin}
    (moves : Rule.Moves exStaying (Request.ofUrl "/a") o) :
    o.text = (Request.ofUrl "/a").origin := by
  obtain ⟨v, a, now, acts, found⟩ := moves
  obtain ⟨listed, member⟩ := acts.mem
  simp only [exStaying, List.mem_cons, List.not_mem_nil, or_false] at listed
  rcases listed with rule | rule
  · rw [rule] at member
    obtain rfl := List.mem_singleton.mp member
    have split : Action.origin? { kind := .rewrite, url := Template.literal "http://localhost/b?c" }
        now v.captures v.rule.isGlobal = some ⟨"http", "localhost", "/b"⟩ := rfl
    rw [split] at found
    cases found
    decide
  · rw [rule] at member
    obtain rfl := List.mem_singleton.mp member
    cases found

theorem apply_fullUrl_staying :
    (∀ o, Rule.Moves exStaying (Request.ofUrl "/a") o →
      o.text = (Request.ofUrl "/a").origin) ∧
    (Engine.apply ⟨exStaying, {}⟩ (Request.ofUrl "/a")).path = "/b" ∧
    (Engine.apply ⟨exStaying, {}⟩ (Request.ofUrl "/a")).resolution = some (.response 403 none) ∧
    (Engine.apply ⟨exStaying, {}⟩ (Request.ofUrl "/a")).fullUrl = "http://localhost/a" :=
  ⟨fun _ => exStaying_moves, by decide, by decide,
    ((Engine.apply_fullUrl ⟨exStaying, {}⟩ (Request.ofUrl "/a")).2 fun _ => exStaying_moves).1⟩

/-- A rule that moves requests to another origin, and one that refuses them, both global and both
for the url `http://localhost/a`. -/
def exMoving : List Rule :=
  [{ exRule .rewrite "https://other.example/b" with
      initialMatch := .exact "http://localhost/a" false false, isGlobal := true },
    { exRule .forbidden "" with
      initialMatch := .exact "http://localhost/a" false false, isGlobal := true }]

/-- Behind a rewrite to another origin a global rule sees a url that was never asked for. -/
theorem moved_url_seen :
    (Request.ofUrl "/a").fullUrl = "http://localhost/a" ∧
    (Engine.apply ⟨exMoving, {}⟩ (Request.ofUrl "/a")).fullUrl = "https://other.example/a" ∧
    (Engine.apply ⟨exMoving, {}⟩ (Request.ofUrl "/a")).resolution = none ∧
    (Engine.apply ⟨exMoving.drop 1, {}⟩ (Request.ofUrl "/a")).resolution =
      some (.response 403 none) :=
  ⟨by decide, by decide, by decide, by decide⟩

end Reroute
