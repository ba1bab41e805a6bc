import Reroute.Proofs.OriginalUrl

/-!
# The query of the client

An action that appends puts the query of the moment behind the one of its target. Where all actions
do so, the query that the request came with is never lost: it is the whole query or its end behind
an ampersand, however often targets with queries of their own are put in front of it, and it is the
end of the location of a redirect.

That the query was given at all is needed: an empty one leaves no trace when queries are joined.

Results:
1. `Carries.joinQueries`, `Carries.joinQuery`: what joining queries and urls keeps.
2. `Action.keeps_after`: an action that appends.
3. `Engine.apply_keeps_query`: a run of rules that append.
-/

namespace Reroute

/-! ## 1. Queries behind others -/

namespace Url

/-- The query is the given one, or ends with it behind an ampersand. -/
def Carries (given query : String) : Prop :=
  query = given ∨ ∃ front, query = front ++ "&" ++ given

/-- The url ends with the given query, behind the mark that begins a query or one that parts it. -/
def ClosesWith (given url : String) : Prop :=
  ∃ front, url = front ++ "?" ++ given ∨ url = front ++ "&" ++ given

variable {given query : String}

theorem Carries.ne_empty (carries : Carries given query) (filled : given ≠ "") : query ≠ "" := by
  rcases carries with rfl | ⟨front, rfl⟩
  · exact filled
  · simp

/-- A query that is joined in front of another one leaves its end. -/
theorem Carries.joinQueries (carries : Carries given query) (filled : given ≠ "")
    (first : String) : Carries given (joinQueries first query) := by
  have filledToo : query.isEmpty = false := by simpa using carries.ne_empty filled
  unfold Url.joinQueries
  rw [filledToo]
  cases first.isEmpty with
  | true => exact carries
  | false =>
    show Carries given (first ++ "&" ++ query)
    rcases carries with rfl | ⟨front, rfl⟩
    · exact .inr ⟨first, rfl⟩
    · exact .inr ⟨first ++ "&" ++ front, by simp only [String.append_assoc]⟩

/-- A url ends with the query that is joined to its target. -/
theorem Carries.joinQuery (carries : Carries given query) (filled : given ≠ "")
    {target : String} (free : '?' ∉ target.toList) : ClosesWith given (joinQuery target query) := by
  have filledToo : ¬ query.isEmpty := by simpa using carries.ne_empty filled
  have joined : Url.joinQuery target query = target ++ "?" ++ query := by
    unfold Url.joinQuery
    rw [if_neg filledToo, if_neg (by simpa using free)]
  rw [joined]
  rcases carries with rfl | ⟨front, rfl⟩
  · exact ⟨target, .inl rfl⟩
  · exact ⟨target ++ "?" ++ front, .inr (by simp only [String.append_assoc])⟩

end Url

/-! ## 2. Actions -/

/-- The request still has the given query, and so has the redirect that answers it, if one does. -/
structure Request.Keeps (given : String) (r : Request) : Prop where
  query : Url.Carries given r.query
  location : ∀ status location, r.resolution = some (.redirect status location) →
    Url.ClosesWith given location

namespace Action

variable {a : Action} {request next : Request} {captures : Captures} {isGlobal : Bool}
  {flow : ActionFlow} {given : String}

/-- Behind the query of its url an action that appends has the query of the request. -/
theorem queryFor_carries (appends : a.appendQuery = true) (filled : given ≠ "")
    (carries : Url.Carries given request.query) (url : String) :
    Url.Carries given (a.queryFor request url) := by
  unfold queryFor
  rw [if_pos appends]
  exact carries.joinQueries filled _

theorem keeps_after (appends : a.appendQuery = true) (filled : given ≠ "")
    (h : a.apply request captures isGlobal = .ok (flow, next)) (keeps : request.Keeps given) :
    next.Keeps given := by
  cases effect h with
  | keeps => exact keeps
  | @rewrites url =>
    refine ⟨?_, ?_⟩
    · rw [retarget_query]
      exact queryFor_carries appends filled keeps.query url
    · rw [retarget_resolution]
      exact keeps.location
  | @redirects status url =>
    refine ⟨keeps.query, ?_⟩
    intro status location redirected
    cases redirected
    exact (queryFor_carries appends filled keeps.query url).joinQuery filled (Url.target_free url)
  | answers _ other =>
    refine ⟨keeps.query, ?_⟩
    intro status location redirected
    exact absurd (Option.some.inj redirected) (other status location)

end Action

/-! ## 3. Runs -/

/-- All actions of the rules append the query of the request. -/
def Rule.AllAppend (rules : List Rule) : Prop :=
  ∀ rule ∈ rules, ∀ a ∈ rule.actions, a.appendQuery = true

theorem Rule.Comes.keeps_query {rules : List Rule} {request now : Request} {given : String}
    (comes : Comes rules request now) (append : AllAppend rules) (filled : given ≠ "")
    (keeps : request.Keeps given) : now.Keeps given := by
  refine comes.keeps (P := Request.Keeps given) ?_ keeps
  intro v a before acts flow next taken kept
  obtain ⟨listed, member⟩ := acts.mem
  exact Action.keeps_after (append v.rule listed a member) filled taken kept

/-- A request that comes with a query keeps it in a run of rules that append, at all points of the
run: where rules are evaluated, where actions are taken, and at the end. The same holds of every
further run, since what is needed of the request is no more than that it keeps its query. -/
theorem Engine.apply_keeps_query {e : Engine} {request : Request}
    (append : Rule.AllAppend e.rules) (filled : request.initialQuery ≠ "") :
    (request.query = request.initialQuery → request.resolution = none →
      request.Keeps request.initialQuery) ∧
    (request.Keeps request.initialQuery →
      (e.apply request).Keeps request.initialQuery ∧
      (e.apply request).initialQuery = request.initialQuery ∧
      ∀ now, Rule.Comes e.rules request now → now.Keeps request.initialQuery) := by
  refine ⟨?_, ?_⟩
  · intro asCame unanswered
    refine ⟨.inl asCame, ?_⟩
    intro status location redirected
    rw [unanswered] at redirected
    cases redirected
  · intro keeps
    have all : ∀ now, Rule.Comes e.rules request now → now.Keeps request.initialQuery :=
      fun now comes => comes.keeps_query append filled keeps
    exact ⟨all _ .ended, Rule.Comes.ended.initial.2, all⟩

/-- A rewrite to an absolute target with a query that repeats the current one, a rewrite to the
empty target, and a redirect to a target with two question marks. -/
def exAppending : List Rule :=
  [{ exRule .rewrite "" with
      actions := [
        { kind := .rewrite, url := [.literal "http://h?", .server .queryString] },
        { kind := .rewrite, url := Template.literal "?" }] },
    { exRule (.redirect 302) "" with
      initialMatch := .exact "" false false
      actions := [{ kind := .redirect 302, url := Template.literal "/b?x?y" }] }]

theorem apply_keeps_query_repeated :
    Rule.AllAppend exAppending ∧ (Request.ofUrl "/a?q").initialQuery ≠ "" ∧
    (Engine.apply ⟨exAppending, {}⟩ (Request.ofUrl "/a?q")).Keeps "q" ∧
    (Engine.apply ⟨exAppending, {}⟩ (Request.ofUrl "/a?q")).query = "q&q" ∧
    (Engine.apply ⟨exAppending, {}⟩ (Request.ofUrl "/a?q")).resolution =
      some (.redirect 302 "/b?x?y&q&q") := by
  have append : Rule.AllAppend exAppending := by
    intro rule listed a member
    simp only [exAppending, List.mem_cons, List.not_mem_nil, or_false] at listed
    rcases listed with rfl | rfl
    · simp only [List.mem_cons, List.not_mem_nil, or_false] at member
      rcases member with rfl | rfl <;> rfl
    · obtain rfl := List.mem_singleton.mp member
      rfl
  have given : (Request.ofUrl "/a?q").initialQuery = "q" := by decide
  have filled : (Request.ofUrl "/a?q").initialQuery ≠ "" := by simp [given]
  obtain ⟨start, run⟩ := Engine.apply_keeps_query (e := ⟨exAppending, {}⟩) append filled
  have kept := (run (start (by decide) rfl)).1
  rw [given] at kept
  exact ⟨append, filled, kept, by decide +kernel, by decide +kernel⟩

end Reroute
