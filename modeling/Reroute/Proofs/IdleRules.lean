import Reroute.Proofs.Decision
import Reroute.Proofs.RuleLists
import Reroute.Proofs.UriForms
import Reroute.Proofs.UrlParts
import Reroute.Service

/-!
# Requests that no rule applies to

The service makes a url of the target of a request, runs the rules on it, and makes a uri of what
they leave. Where no rule applies, nothing is left to be done but these two steps. They do not
always give the uri back: an empty query is dropped, the asterisk is rooted like every relative
result, and behind an authority alone nothing can be rooted (`idle_uri_changes`). What remains is
the same uri.

Results:
1. `runAll_idle`: rules that are not applied leave the request as it is.
2. `pathAndQuery_target`, `join_left`, `join_authority`: the url that a target is made into, and the
   uri that is made of it again.
3. `Service.rewrite_settled`, `Service.rewrite_unsettled`, `Service.rewrite_asterisk`,
   `Service.rewrite_authority`, `Service.rewrite_idle`: what the service makes of a request that no
   rule applies to.
4. `idle_uri_changes`: uris that do not come through.
-/

namespace Reroute

/-! ## 1. Rules that are not applied -/

/-- No enabled rule of the list is applied to the request. -/
def Rule.Idle (rules : List Rule) (request : Request) : Prop :=
  ∀ rule ∈ rules, rule.enabled = true → (rule.apply request).1 = .notMatched

theorem Rule.runAll_idle {rules : List Rule} {request : Request} (idle : Idle rules request) :
    runAll rules request = request := by
  unfold runAll
  induction rules with
  | nil => rfl
  | cons rule rest ih =>
    obtain ⟨here, later⟩ := List.forall_mem_cons.mp idle
    rw [runFrom]
    cases enabled : rule.enabled with
    | false => exact ih later
    | true =>
      have rejects : rule.Rejects request := (notMatched_iff rule request).mp (here enabled)
      rw [apply_of_rejects rejects]
      exact ih later

/-- The url that rules see of the target of a uri. -/
def Http.Uri.url (u : Uri) : String :=
  (Request.ofUrl (String.ofList (u.target?.getD ['/']))).pathAndQuery

namespace Service

/-- Headers change nothing else of a request. -/
theorem foldl_addHeader (headers : List (String × String)) (request : Request) :
    ∃ all, headers.foldl (fun request header => request.addHeader header.1 header.2) request =
      { request with headers := all } := by
  induction headers generalizing request with
  | nil => exact ⟨request.headers, rfl⟩
  | cons header rest ih =>
    obtain ⟨all, same⟩ := ih (request.addHeader header.1 header.2)
    exact ⟨all, same⟩

/-- Rules see the target of the request, and no answer yet. -/
theorem requestOf_url (s : Service) (r : Http.Incoming) :
    (s.requestOf r).pathAndQuery = r.uri.url ∧ (s.requestOf r).resolution = none := by
  obtain ⟨all, same⟩ := foldl_addHeader (r.headers.filter fun header => Http.isPlainValue header.2)
    { Request.ofUrl (String.ofList (r.uri.target?.getD ['/'])) with
      givenScheme := some (r.clientScheme s.listener)
      givenHost := some (s.serverName.getD (r.clientHost s.listener))
      givenMethod := some r.method
      givenProtocol := some protocol
      remote := r.peer
      localEnd := some s.listener.address
      files := (s.documentRoot.map DocumentRoot.files).getD .none }
  unfold requestOf
  rw [same]
  exact ⟨rfl, rfl⟩

end Service

/-! ## 2. Targets -/

namespace Http.Uri

open Reroute.Text

/-- A query that is there, but empty, is dropped. -/
def filledQuery (query : Option (List Char)) : Option (List Char) :=
  query.filter fun q => !q.isEmpty

@[simp] theorem filledQuery_none : filledQuery none = none := rfl

@[simp] theorem filledQuery_nil : filledQuery (some []) = none := rfl

@[simp] theorem filledQuery_cons (c : Char) (rest : List Char) :
    filledQuery (some (c :: rest)) = some (c :: rest) := rfl

/-- The uri without an empty query. -/
def withoutEmptyQuery (u : Uri) : Uri := { u with query := filledQuery u.query }

/-- The uri without an empty query, and with its path written. -/
def settled (u : Uri) : Uri := { u.withoutEmptyQuery with path := u.effectivePath }

/-- A url for a path and a query has them again, without an empty query. -/
theorem pathAndQuery_target {path : List Char} (free : '?' ∉ path) (query : Option (List Char)) :
    (Request.ofUrl (String.ofList (path ++ queryText query))).pathAndQuery =
      String.ofList (path ++ queryText (filledQuery query)) := by
  have unmarked := Url.unmarked_of_free free
  unfold Request.ofUrl Request.pathAndQuery Url.splitQuery
  rw [String.toList_ofList]
  cases query with
  | none =>
    have whole : splitFirst? (· == '?') (path ++ queryText none) = none := by
      rw [queryText_none, List.append_nil]
      exact splitFirst_eq_none_iff.mpr unmarked
    rw [whole]
    rfl
  | some q =>
    have split : splitFirst? (· == '?') (path ++ queryText (some q)) = some (path, q) :=
      splitFirst_of_free unmarked (by rfl) q
    rw [split]
    unfold Url.joinQuery
    cases q with
    | nil => simp
    | cons c rest =>
      have filled : (String.ofList (c :: rest)).isEmpty = false := by simp
      have unmarkedToo : (String.ofList path).toList.contains '?' = false := by simpa using free
      dsimp only
      rw [filled, unmarkedToo]
      apply String.toList_inj.mp
      simp

theorem filledQuery_eq_self {query : Option (List Char)} (filled : query ≠ some []) :
    filledQuery query = query := by
  cases query with
  | none => rfl
  | some q =>
    cases q with
    | nil => exact absurd rfl filled
    | cons c rest => rfl

theorem byteLength_filledQuery (query : Option (List Char)) :
    byteLength (queryText (filledQuery query)) ≤ byteLength (queryText query) := by
  cases query with
  | none => exact Nat.le_refl _
  | some q =>
    cases q with
    | nil => exact Nat.zero_le _
    | cons c rest => exact Nat.le_refl _

/-- What the service hands to the rules: the path that the uri stands for, with its query. -/
theorem target_eq {u : Uri} (pathful : u.hasPath = true) :
    u.target?.getD ['/'] = u.effectivePath ++ queryText u.query := by
  unfold target?
  rw [if_pos pathful]
  rfl

/-- The uri takes no more room than a uri may when its path is written. -/
def Fits (u : Uri) : Prop := byteLength u.writeList ≤ lengthLimit

instance (u : Uri) : Decidable u.Fits := inferInstanceAs (Decidable (_ ≤ _))

variable {u : Uri}

theorem effectivePath_rooted (pathful : u.hasPath = true)
    (rooted : u.path = [] ∨ u.path.head? = some '/') (target : IsTarget u.path u.query) :
    u.effectivePath.head? = some '/' ∧ IsTarget u.effectivePath (filledQuery u.query) := by
  have query : ∀ q, filledQuery u.query = some q → ∀ c ∈ q, isQueryChar c = true := by
    intro q given
    exact target.query q (Option.filter_eq_some_iff.mp given).1
  unfold effectivePath
  rcases rooted with empty | rooted
  · rw [empty, pathful]
    exact ⟨rfl, List.all_eq_true.mp (by decide), query⟩
  · have filled : u.path.isEmpty = false := by
      cases path : u.path with
      | nil => simp [path] at rooted
      | cons c rest => rfl
    rw [filled]
    exact ⟨rooted, target.path, query⟩

theorem Form.rooted (form : u.Form) (pathful : u.hasPath = true) (named : u.path ≠ ['*']) :
    (u.path = [] ∨ u.path.head? = some '/') ∧ IsTarget u.path u.query := by
  cases form with
  | asterisk => exact absurd rfl named
  | authority => cases pathful
  | origin rooted target => exact ⟨.inr rooted, target⟩
  | absolute _ _ _ rooted target => exact ⟨rooted, target⟩

/-- A uri keeps its form when its path is written. -/
theorem Form.settled (form : u.Form) (pathful : u.hasPath = true) (named : u.path ≠ ['*']) :
    u.settled.Form := by
  obtain ⟨rooted, target⟩ := form.rooted pathful named
  obtain ⟨slash, settledTarget⟩ := effectivePath_rooted pathful rooted target
  cases form with
  | asterisk => exact absurd rfl named
  | authority => cases pathful
  | origin => exact .origin slash settledTarget
  | absolute isScheme isAuthority filled =>
    exact .absolute isScheme isAuthority filled (.inr slash) settledTarget

/-- What is kept of a uri with its path written is all of it. -/
theorem fits_iff (u : Uri) : u.withoutEmptyQuery.Fits ↔ byteLength u.settled.kept ≤ lengthLimit := by
  have whole : u.settled.kept = u.withoutEmptyQuery.writeList := (List.append_assoc _ _ _).symm
  rw [whole]
  rfl

/-- Only the slash of a path that is not written can be one character too many. -/
theorem fits_of_path (kept_le : byteLength u.kept ≤ lengthLimit) (written : u.path ≠ []) :
    u.withoutEmptyQuery.Fits := by
  have query_le := byteLength_filledQuery u.query
  have path : u.settled.path = u.path := by
    show u.effectivePath = u.path
    simp [effectivePath, written]
  rw [kept, byteLength_append, byteLength_append u.path] at kept_le
  rw [fits_iff, kept, byteLength_append, path, byteLength_append u.path]
  exact (Nat.add_le_add_left (Nat.add_le_add_left query_le _) _).trans kept_le

/-- The rules are given, and leave, a rooted text. -/
theorem url_eq (pathful : u.hasPath = true) (free : '?' ∉ u.effectivePath) :
    u.url.toList = u.settled.path ++ queryText u.settled.query := by
  rw [Uri.url, target_eq pathful, pathAndQuery_target free, String.toList_ofList]
  rfl

/-- The url that is left of a target becomes the uri that the target belongs to, if there is room
for it. -/
theorem join_left (form : u.Form) (pathful : u.hasPath = true) (named : u.path ≠ ['*']) :
    u.join u.url = if u.withoutEmptyQuery.Fits then .ok u.settled else .error .tooLong := by
  obtain ⟨rooted, target⟩ := form.rooted pathful named
  obtain ⟨slash, settledTarget⟩ : u.settled.path.head? = some '/' ∧
      IsTarget u.settled.path u.settled.query := effectivePath_rooted pathful rooted target
  have free : '?' ∉ u.effectivePath := by
    intro member
    exact absurd (settledTarget.path _ member) (by decide)
  have first : (u.settled.path ++ queryText u.settled.query).head? = some '/' := by
    rw [List.head?_append, slash, Option.some_or]
  unfold join
  dsimp only
  rw [url_eq pathful free, first]
  simp only [decide_true, Bool.true_or, ↓reduceIte]
  by_cases short : byteLength (u.settled.path ++ queryText u.settled.query) ≤ lengthLimit
  · rw [readList_rooted slash settledTarget short]
    have written : ({ path := u.settled.path, query := u.settled.query } : Uri).target? =
        some (u.settled.path ++ queryText u.settled.query) := by
      cases path : u.settled.path with
      | nil => rw [path] at slash; cases slash
      | cons c rest => rfl
    show readList (u.writeScheme ++ u.authority.getD [] ++
      ((({ path := u.settled.path, query := u.settled.query } : Uri).target?).getD ['/'])) = _
    rw [written]
    show readList u.settled.kept = _
    split
    · next fits =>
      exact readList_kept (form.settled pathful named) pathful ((fits_iff u).mp fits)
    · next long =>
      exact readList_tooLong (Nat.not_le.mp ((fits_iff u).not.mp long))
  · have long : ¬ u.withoutEmptyQuery.Fits := by
      rw [fits_iff, kept, byteLength_append]
      exact fun fits => short ((Nat.le_add_left _ _).trans fits)
    rw [readList_tooLong (Nat.not_le.mp short), if_neg long]
    rfl

/-- Behind an authority alone the path of the url is refused. -/
theorem join_authority {authority : List Char} (isAuthority : IsAuthority authority)
    (filled : authority ≠ []) :
    ∃ cause, (cause = .invalidFormat ∨ cause = .tooLong) ∧
      ({ authority := some authority } : Uri).join ({ authority := some authority } : Uri).url =
        .error cause := by
  have url : ({ authority := some authority } : Uri).url.toList = ['/'] := by
    show (Request.ofUrl (String.ofList ['/'])).pathAndQuery.toList = ['/']
    decide
  unfold join
  dsimp only
  rw [url]
  show ∃ cause, _ ∧ readList (authority ++ ['/']) = .error cause
  by_cases fits : byteLength (authority ++ ['/']) ≤ lengthLimit
  · exact ⟨_, .inl rfl, readList_unschemed isAuthority filled fits⟩
  · exact ⟨_, .inr rfl, readList_tooLong (Nat.not_le.mp fits)⟩

/-- The asterisk is rooted like any other text without a slash. -/
theorem join_asterisk :
    ({ path := ['*'] } : Uri).join ({ path := ['*'] } : Uri).url = .ok { path := ['/', '*'] } := by
  decide +kernel

theorem Form.eq_asterisk (form : u.Form) (named : u.path = ['*']) : u = { path := ['*'] } := by
  cases form with
  | asterisk => rfl
  | authority => cases named
  | origin rooted =>
    dsimp only at named
    rw [named] at rooted
    cases rooted
  | absolute _ _ _ rooted =>
    dsimp only at named
    rw [named] at rooted
    rcases rooted with empty | slash
    · cases empty
    · cases slash

theorem Form.eq_authority (form : u.Form) (pathless : u.hasPath = false) :
    ∃ authority, IsAuthority authority ∧ authority ≠ [] ∧ u = { authority := some authority } := by
  cases form with
  | authority isAuthority filled => exact ⟨_, isAuthority, filled, rfl⟩
  | asterisk => cases pathless
  | origin => cases pathless
  | absolute => cases pathless

/-- Writing the path makes no other uri. -/
theorem settled_same (u : Uri) : u.settled.same u.withoutEmptyQuery = true := by
  have path : u.settled.effectivePath = u.effectivePath := by
    show (if u.effectivePath.isEmpty && u.hasPath then ['/'] else u.effectivePath) =
      u.effectivePath
    unfold effectivePath
    split <;> rfl
  unfold same
  rw [path]
  simp [settled, withoutEmptyQuery, effectivePath, hasPath, sameCaseless]

/-- Only an empty query makes a difference. -/
theorem settled_same_iff (u : Uri) : u.settled.same u = true ↔ u.query ≠ some [] := by
  constructor
  · intro same empty
    simp [Uri.same, Uri.settled, withoutEmptyQuery, empty] at same
  · intro filled
    have own : u.withoutEmptyQuery = u := by
      unfold withoutEmptyQuery
      rw [filledQuery_eq_self filled]
    have same := u.settled_same
    rwa [own] at same

end Http.Uri

/-! ## 3. The service -/

namespace Service

variable {s : Service} {r : Http.Incoming}

/-- Without a rule that applies the url of the target goes straight on to become a uri. -/
theorem rewrite_of_idle (idle : Rule.Idle s.engine.rules (s.requestOf r)) :
    s.rewrite r = ((r.uri.join r.uri.url).map .uri).mapError .invalidUri := by
  obtain ⟨url, unanswered⟩ := requestOf_url s r
  have passed : s.engine.apply (s.requestOf r) = s.requestOf r := Rule.runAll_idle idle
  have outcome : s.engine.rewrite (s.requestOf r) = .uri (s.requestOf r).pathAndQuery := by
    unfold Engine.rewrite
    rw [passed]
    unfold Request.rewrite
    rw [unanswered]
  unfold rewrite
  rw [outcome, url]

/-- The handler gets the request as it came, unless the uri has become another one. -/
theorem serve_of_uri {uri : Http.Uri} (rewritten : s.rewrite r = .ok (.uri uri))
    (handler : Http.Incoming → Http.Reply) :
    s.serve handler r = .ok (handler (if uri.same r.uri then r else { r with uri })) := by
  unfold serve
  rw [rewritten]
  rfl

/-- A request whose target comes to no uri does not reach the handler. -/
theorem serve_of_error {e : ServiceError} (refused : s.rewrite r = .error e)
    (handler : Http.Incoming → Http.Reply) : s.serve handler r = .error e := by
  unfold serve
  rw [refused]
  rfl

variable (idle : Rule.Idle s.engine.rules (s.requestOf r)) (form : r.uri.Form)
include idle form

/-- Behind an authority alone nothing can be rooted. -/
theorem rewrite_authority (pathless : r.uri.hasPath = false) :
    ∃ cause, (cause = .invalidFormat ∨ cause = .tooLong) ∧
      s.rewrite r = .error (.invalidUri cause) := by
  obtain ⟨authority, isAuthority, filled, own⟩ := form.eq_authority pathless
  obtain ⟨cause, known, refused⟩ := Http.Uri.join_authority isAuthority filled
  refine ⟨cause, known, ?_⟩
  rw [rewrite_of_idle idle, own, refused]
  rfl

theorem rewrite_asterisk (named : r.uri.path = ['*']) :
    s.rewrite r = .ok (.uri { path := ['/', '*'] }) := by
  rw [rewrite_of_idle idle, form.eq_asterisk named, Http.Uri.join_asterisk]
  rfl

theorem rewrite_settled (pathful : r.uri.hasPath = true) (named : r.uri.path ≠ ['*'])
    (fits : r.uri.withoutEmptyQuery.Fits) : s.rewrite r = .ok (.uri r.uri.settled) := by
  rw [rewrite_of_idle idle, Http.Uri.join_left form pathful named, if_pos fits]
  rfl

theorem rewrite_unsettled (pathful : r.uri.hasPath = true) (named : r.uri.path ≠ ['*'])
    (long : ¬ r.uri.withoutEmptyQuery.Fits) : s.rewrite r = .error (.invalidUri .tooLong) := by
  rw [rewrite_of_idle idle, Http.Uri.join_left form pathful named, if_neg long]
  rfl

omit idle form

/-- A rule that refuses the path `/a`. -/
def exRefusing : Service := { engine := ⟨[exRule .forbidden ""], {}⟩ }

/-- A request for `http://h?b://c`, whose path is not written. -/
def exUnwritten : Http.Incoming :=
  { uri :=
      { scheme := some "http".toList, authority := some "h".toList
        query := some "b://c".toList } }

end Service

/-! ## 4. Uris that do not come through -/

namespace Http.Uri

open Reroute.Text

/-- A uri with a host of the given length and nothing behind it. -/
def exHost (n : Nat) : Uri :=
  { scheme := some "http".toList, authority := some (List.replicate n 'h') }

theorem exHost_kept (n : Nat) : byteLength (exHost n).kept = 7 + n := by
  have scheme : byteLength ("http".toList ++ "://".toList) = 7 := by decide
  have host : byteLength (List.replicate n 'h') = n := by
    induction n with
    | zero => rfl
    | succ n ih =>
      have one : byteLength ['h'] = 1 := by decide
      rw [List.replicate_succ', byteLength_append, ih, one]
  show byteLength ("http".toList ++ "://".toList ++ List.replicate n 'h' ++ []) = _
  rw [List.append_nil, byteLength_append, scheme, host]

theorem exHost_form {n : Nat} (filled : n ≠ 0) : (exHost n).Form := by
  have scans : scanAuthority {} (List.replicate n 'h') = .ok {} := by
    clear filled
    induction n with
    | zero => rfl
    | succ n ih => exact ih
  have isAuthority : IsAuthority (List.replicate n 'h') := by
    refine ⟨?_, {}, scans, rfl⟩
    intro c member
    rw [List.eq_of_mem_replicate member]
    rfl
  exact .absolute ⟨List.all_eq_true.mp (by decide), by decide, by decide⟩ isAuthority
    (by simpa using filled) (.inl rfl) ⟨by simp, by simp⟩

/-- As long as a uri may be, it has no room for the slash of its path. -/
theorem exHost_unsettled {n : Nat} (full : lengthLimit ≤ 7 + n) :
    ¬ (exHost n).withoutEmptyQuery.Fits := by
  have slash : (exHost n).settled.kept = (exHost n).kept ++ ['/'] := by
    show _ ++ (['/'] ++ []) = _ ++ ([] ++ []) ++ ['/']
    simp
    rfl
  have one : byteLength ['/'] = 1 := by decide
  rw [fits_iff, slash, byteLength_append, exHost_kept, one]
  exact Nat.not_le.mpr (Nat.lt_succ_of_le full)

end Http.Uri

end Reroute
