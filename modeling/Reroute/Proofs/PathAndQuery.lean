import Reroute.Proofs.RunSteps
import Reroute.Proofs.UrlParts

/-!
# Paths without queries

A request keeps its path and its query apart. Templates may insert any number of question marks,
but the url they give is split at the first of them before it is put in place, and so the path never
has one. Then path and query are found again in the text that they are joined to, and so are target
and query in the location of a redirect.

Results:
1. `Reachable`: the requests that can be made, told more, and run through engines.
2. `Action.path_after`, `Action.redirect_apply`, `Action.redirect_after`: what an action leaves of
   the path, and where it redirects to.
3. `Reachable.path_free`: paths have no question mark.
4. `Reachable.reads_back`: what is written is read back.
-/

namespace Reroute

/-! ## 1. Requests that can come about -/

namespace Request

/-- A request is made for a url. What else is known of it may be set at any time, and it may be run
through any engines. -/
inductive Reachable : Request → Prop
  | ofUrl (url : String) : Reachable (ofUrl url)
  | known {r : Request} (scheme host method protocol : Option String)
      (headers : CaselessMap String) (remote localEnd : Option SocketAddress) (files : Files)
      (environment : List (String × String)) (clock : Moment) :
      Reachable r →
      Reachable { r with
        givenScheme := scheme, givenHost := host, givenMethod := method,
        givenProtocol := protocol, headers, remote, localEnd, files, environment, clock }
  | applied {r : Request} (e : Engine) : Reachable r → Reachable (e.apply r)

end Request

/-! ## 2. Actions -/

namespace Action

/-- The path of a target has no question mark, whether the target is absolute or not. -/
theorem targetPath_free {target : String} (free : '?' ∉ target.toList) :
    '?' ∉ (targetPath target).toList := by
  unfold targetPath
  cases found : Url.splitOrigin? target with
  | none => exact free
  | some o =>
    dsimp only
    split
    · decide
    · -- The path of an absolute target is its end.
      intro member
      rw [Url.origin_whole found] at free
      exact free (by simp [member])

variable {a : Action} {request next : Request} {captures : Captures} {isGlobal : Bool}
  {flow : ActionFlow}

theorem path_after (h : a.apply request captures isGlobal = .ok (flow, next))
    (free : '?' ∉ request.path.toList) : '?' ∉ next.path.toList := by
  cases effect h with
  | keeps | redirects | answers => exact free
  | rewrites =>
    rw [retarget_path]
    exact targetPath_free (Url.target_free _)

theorem redirect_apply {status : Nat} {url : String} (kind : a.kind = .redirect status)
    (expanded : a.expandUrl request captures isGlobal = .ok url) :
    a.apply request captures isGlobal =
      .ok (.halt, request.resolve
        (.redirect status (Url.joinQuery (Url.splitQuery url).1 (a.queryFor request url)))) := by
  simp only [Action.apply, kind, expanded]
  rfl

/-- Only an action that redirects leaves a redirect where there was none. -/
theorem redirect_after (h : a.apply request captures isGlobal = .ok (flow, next))
    {status : Nat} {location : String}
    (redirected : next.resolution = some (.redirect status location)) :
    request.resolution = some (.redirect status location) ∨ a.kind = .redirect status := by
  cases effect h with
  | keeps => exact .inl redirected
  | rewrites =>
    rw [retarget_resolution] at redirected
    exact .inl redirected
  | answers _ other => exact absurd (Option.some.inj redirected) (other status location)
  | redirects kind =>
    obtain ⟨rfl, _⟩ := Resolution.redirect.inj (Option.some.inj redirected)
    exact .inr kind

end Action

/-! ## 3. Runs -/

namespace Rule

variable {rules : List Rule} {request now : Request} {status : Nat}

theorem Comes.path_free (comes : Comes rules request now) (free : '?' ∉ request.path.toList) :
    '?' ∉ now.path.toList :=
  comes.keeps (P := fun r => '?' ∉ r.path.toList)
    (fun _ _ _ _ _ _ taken => Action.path_after taken) free

/-- An action that redirects decides the answer of the run: its target and its query, joined. -/
theorem Acts.redirects {v : Visit} {a : Action} (acts : Acts rules request v a now)
    (kind : a.kind = .redirect status) :
    ∃ url location, a.expandUrl now v.captures v.rule.isGlobal = .ok url ∧
      (runAll rules request).resolution = some (.redirect status location) ∧
      Url.splitQuery location = ((Url.splitQuery url).1, a.queryFor now url) := by
  obtain ⟨url, expanded⟩ := acts.expands
  refine ⟨url, _, expanded, ?_, Url.splitQuery_joinQuery (Url.target_free url) _⟩
  rw [acts.halts (Action.redirect_apply kind expanded)]
  rfl

/-- A run that leaves a redirect was given it, or takes an action that redirects. -/
theorem redirect_taken {location : String}
    (redirected : (runAll rules request).resolution = some (.redirect status location)) :
    request.resolution = some (.redirect status location) ∨
      ∃ v a now, Acts rules request v a now ∧ a.kind = .redirect status := by
  -- Kept is that a point with this answer was given it or lies behind an action that redirects.
  have comes : Comes rules request (runAll rules request) := .ended
  refine comes.keeps (P := fun r =>
    r.resolution = some (.redirect status location) →
      request.resolution = some (.redirect status location) ∨
        ∃ v a now, Acts rules request v a now ∧ a.kind = .redirect status) ?_ .inl redirected
  intro v a now acts flow next taken kept redirected
  rcases Action.redirect_after taken redirected with before | kind
  · exact kept before
  · exact .inr ⟨v, a, now, acts, kind⟩

end Rule

/-! ## 4. Written and read back -/

namespace Request

theorem Reachable.path_free {r : Request} (reachable : r.Reachable) : '?' ∉ r.path.toList := by
  induction reachable with
  | ofUrl url => exact Url.target_free url
  | known _ _ _ _ _ _ _ _ _ _ _ ih => exact ih
  | applied e _ ih => exact Rule.Comes.ended.path_free ih

/-- The path of a request never has a question mark, and a request for its path with its query has
both of them. A redirect that an engine answers with comes from one of the actions it takes. Every
such action decides the answer, and the location splits at its first question mark into the target
of the expanded url and the query that is wanted behind it. -/
theorem Reachable.reads_back {r : Request} (reachable : r.Reachable) :
    '?' ∉ r.path.toList ∧
    (Request.ofUrl r.pathAndQuery).path = r.path ∧
    (Request.ofUrl r.pathAndQuery).query = r.query ∧
    ∀ e : Engine,
      (∀ v a now status, Rule.Acts e.rules r v a now → a.kind = .redirect status →
        ∃ url location, a.expandUrl now v.captures v.rule.isGlobal = .ok url ∧
          (e.apply r).resolution = some (.redirect status location) ∧
          Url.splitQuery location = ((Url.splitQuery url).1, a.queryFor now url)) ∧
      (∀ status location, (e.apply r).resolution = some (.redirect status location) →
        r.resolution = some (.redirect status location) ∨
          ∃ v a now, Rule.Acts e.rules r v a now ∧ a.kind = .redirect status) := by
  have split : Url.splitQuery r.pathAndQuery = (r.path, r.query) :=
    Url.splitQuery_joinQuery reachable.path_free r.query
  refine ⟨reachable.path_free, congrArg Prod.fst split, congrArg Prod.snd split, fun e => ⟨?_, ?_⟩⟩
  · intro v a now status acts kind
    exact acts.redirects kind
  · intro status location redirected
    exact Rule.redirect_taken redirected

/-- A rewrite to an absolute target without a path, with two question marks behind it. -/
def exQuestions : Engine := ⟨[exRule .rewrite "http://h?x?y"], {}⟩

theorem reads_back_questions :
    (exQuestions.apply (Request.ofUrl "/a?q?r")).Reachable ∧
    (exQuestions.apply (Request.ofUrl "/a?q?r")).pathAndQuery = "/?x?y&q?r" ∧
    (Request.ofUrl (exQuestions.apply (Request.ofUrl "/a?q?r")).pathAndQuery).path = "/" ∧
    (Request.ofUrl (exQuestions.apply (Request.ofUrl "/a?q?r")).pathAndQuery).query =
      "x?y&q?r" := by
  have reachable : (exQuestions.apply (Request.ofUrl "/a?q?r")).Reachable :=
    .applied exQuestions (.ofUrl "/a?q?r")
  obtain ⟨_, path, query, _⟩ := reachable.reads_back
  exact ⟨reachable, by decide, path.trans (by decide), query.trans (by decide)⟩

end Request

end Reroute
