import Reroute.Apply

/-!
# What an action does

An action that succeeds does one of four things: it leaves the request alone, puts a new target in
place, answers with a redirect, or gives another answer. Everything that is said of actions
elsewhere is read off these (`Action.Effect`).

A new target changes path and query, and if it is absolute scheme and host; nothing else of the
request.

Results:
1. `Action.effect`: the effect of an action that succeeds.
2. `retarget_path`, `retarget_query`, `retarget_scheme`, `retarget_host`: what a new target gives, and
   what it leaves.
-/

namespace Reroute.Action

/-! ## 1. Effects -/

/-- What follows an action that does not end the request. -/
def going (a : Action) : ActionFlow := if a.stop then .stop else .next

theorem going_ne_halt (a : Action) : a.going ≠ .halt := by
  unfold going
  cases a.stop <;> simp

/-- The query that stands behind the target of a url: its own one, or its own one and that of the
request behind it. -/
def queryFor (a : Action) (request : Request) (url : String) : String :=
  if a.appendQuery then Url.joinQueries (Url.splitQuery url).2 request.query
  else (Url.splitQuery url).2

/-- `Effect a request captures isGlobal flow next`: taken in `request`, the action leaves `next`,
and `flow` follows. -/
inductive Effect (a : Action) (request : Request) (captures : Captures) (isGlobal : Bool) :
    ActionFlow → Request → Prop
  | keeps : a.kind = .keep → Effect a request captures isGlobal a.going request
  | rewrites {url : String} :
      a.kind = .rewrite → a.expandUrl request captures isGlobal = .ok url →
      Effect a request captures isGlobal a.going
        (retarget request (Url.splitQuery url).1 (a.queryFor request url))
  | redirects {status : Nat} {url : String} :
      a.kind = .redirect status → a.expandUrl request captures isGlobal = .ok url →
      Effect a request captures isGlobal .halt
        (request.resolve
          (.redirect status (Url.joinQuery (Url.splitQuery url).1 (a.queryFor request url))))
  | answers {answer : Resolution} :
      a.kind.isTerminal = true → (∀ status location, answer ≠ .redirect status location) →
      Effect a request captures isGlobal .halt (request.resolve answer)

theorem effect {a : Action} {request next : Request} {captures : Captures} {isGlobal : Bool}
    {flow : ActionFlow} (h : a.apply request captures isGlobal = .ok (flow, next)) :
    a.Effect request captures isGlobal flow next := by
  unfold Action.apply at h
  cases kind : a.kind with
  | keep =>
    simp only [kind, Except.ok.injEq, Prod.mk.injEq] at h
    obtain ⟨rfl, rfl⟩ := h
    exact .keeps kind
  | rewrite =>
    simp only [kind] at h
    cases expanded : a.expandUrl request captures isGlobal with
    | error e => simp [expanded, Except.map] at h
    | ok url =>
      simp only [expanded, Except.map, Except.ok.injEq, Prod.mk.injEq] at h
      obtain ⟨rfl, rfl⟩ := h
      exact .rewrites kind expanded
  | redirect status =>
    simp only [kind] at h
    cases expanded : a.expandUrl request captures isGlobal with
    | error e => simp [expanded, Except.map] at h
    | ok url =>
      simp only [expanded, Except.map, Except.ok.injEq, Prod.mk.injEq] at h
      obtain ⟨rfl, rfl⟩ := h
      exact .redirects kind expanded
  | forbidden | gone | respond | abort =>
    simp only [kind, Except.ok.injEq, Prod.mk.injEq] at h
    obtain ⟨rfl, rfl⟩ := h
    exact .answers (by rw [kind]; rfl) (by simp)

/-! ## 2. New targets -/

variable (request : Request) (target query : String)

/-- The path of a target; that of an absolute one is never empty. -/
def targetPath (target : String) : String :=
  match Url.splitOrigin? target with
  | none => target
  | some origin => if origin.path.isEmpty then "/" else origin.path

@[simp] theorem retarget_path : (retarget request target query).path = targetPath target := by
  unfold retarget targetPath
  cases Url.splitOrigin? target <;> rfl

@[simp] theorem retarget_query : (retarget request target query).query = query := by
  unfold retarget
  split <;> rfl

@[simp] theorem retarget_initialPath :
    (retarget request target query).initialPath = request.initialPath := by
  unfold retarget
  split <;> rfl

@[simp] theorem retarget_initialQuery :
    (retarget request target query).initialQuery = request.initialQuery := by
  unfold retarget
  split <;> rfl

@[simp] theorem retarget_resolution :
    (retarget request target query).resolution = request.resolution := by
  unfold retarget
  split <;> rfl

@[simp] theorem retarget_scheme :
    (retarget request target query).scheme =
      ((Url.splitOrigin? target).map (·.scheme)).getD request.scheme := by
  unfold retarget
  split <;> next found => simp [found, Request.withTarget, Request.withOrigin, Request.scheme]

@[simp] theorem retarget_host :
    (retarget request target query).host =
      ((Url.splitOrigin? target).map (·.host)).getD request.host := by
  unfold retarget
  split <;> next found => simp [found, Request.withTarget, Request.withOrigin, Request.host]

end Reroute.Action
