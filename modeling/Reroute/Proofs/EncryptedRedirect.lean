import Reroute.Proofs.EveryText
import Reroute.Proofs.PathAndQuery

/-!
# The redirect to the encrypted scheme

The rule of an engine that leads plain requests to the encrypted scheme matches every url, if its
search ends in time. Its one condition asks whether the request is plain, and its one action joins
the header for the host, the path and the query. The url of the request as it came takes the host
from elsewhere: a header counts for the rule only, and a host that was set on its own for both.
Where the host was set they agree, unless the url ends in its only question mark.

Results:
1. `Engine.after`: an engine whose searches take time.
2. `Engine.httpsRule_eq`, `Engine.encrypting_after`: the rule.
3. `Engine.encrypting_rejects_iff`: the requests that it rejects.
4. `Engine.encrypting_apply`, `Engine.redirect_to_https`: what it makes of the others.
-/

namespace Reroute

open Reroute.Text

/-! ## 1. Searches that take time -/

/-- The matcher, if its search takes `took`. -/
def Matcher.after (took : Nat) (m : Matcher) : Matcher := { m with test := m.test.after took }

def Condition.after (took : Nat) (c : Condition) : Condition :=
  { c with matcher := c.matcher.after took }

def Conditions.after (took : Nat) (cs : Conditions) : Conditions :=
  { cs with items := cs.items.map (Condition.after took) }

def Rule.after (took : Nat) (rule : Rule) : Rule :=
  { rule with
    initialMatch := rule.initialMatch.after took
    conditions := rule.conditions.map (Conditions.after took) }

namespace Engine

/-- The engine, if each of its searches takes `took`. -/
def after (took : Nat) (e : Engine) : Engine := { e with rules := e.rules.map (Rule.after took) }

/-! ## 2. The rule -/

/-- Whether the request is plain. -/
def plainCondition : Condition :=
  { input := [.server .https], matcher := .exact "off" true false }

def encryptedRedirect (status : Nat) : Action := { kind := .redirect status, url := httpsUrl }

/-- The rule that leads plain requests to the encrypted scheme. -/
def encrypting (options : RuleOptions) (status : Nat) : Rule :=
  { name := some httpsRuleName
    initialMatch := ⟨.regex Regex.everyText options.matchTimeout, false⟩
    conditions := some { items := [plainCondition] }
    actions := [encryptedRedirect status]
    isGlobal := true }

theorem httpsRule_eq (options : RuleOptions) (status : Nat) :
    httpsRule options status = .ok (encrypting options status) := by
  have matcher : Matcher.regex ".*" false false options.matchTimeout =
      .ok ⟨.regex Regex.everyText options.matchTimeout, false⟩ := by
    rw [Matcher.regex, Regex.compile_dots]
  unfold httpsRule
  simp only [RuleDraft.setMatch, matcher, Except.map, bind, Except.bind]
  rfl

theorem addRedirectToHttps_eq {options : RuleOptions} {status : Nat}
    (inside : 300 ≤ status ∧ status < 400) :
    ({ options } : Engine).addRedirectToHttps status =
      .ok { rules := [encrypting options status], options } := by
  unfold addRedirectToHttps
  simp only [checkStatus, inside, and_self, ↓reduceIte, bind, Except.bind, httpsRule_eq]
  rfl

/-- A search that takes time leaves the rule with less of it. -/
theorem encrypting_after (options : RuleOptions) (status took : Nat) :
    (encrypting options status).after took =
      encrypting { matchTimeout := options.matchTimeout - took } status := rfl

/-! ## 3. Rejected requests -/

variable {options : RuleOptions} {status : Nat} {request : Request}

theorem encrypting_matches (status : Nat) (request : Request)
    (running : options.matchTimeout ≠ 0) :
    ((encrypting options status).firstMatch request).success = true := by
  obtain ⟨groups, found⟩ :=
    Regex.search_everyText ((encrypting options status).candidate request)
  show (Matcher.searchResult _ _ _ _).success = true
  unfold Matcher.searchResult
  rw [if_neg running, found]
  rfl

theorem encrypting_times_out (status : Nat) (request : Request)
    (expired : options.matchTimeout = 0) :
    ((encrypting options status).firstMatch request).success = false := by
  show (Matcher.searchResult _ _ _ _).success = false
  unfold Matcher.searchResult
  rw [if_pos expired]

/-- The condition holds exactly for plain requests. -/
theorem plainCondition_run (captures : Captures) :
    plainCondition.run request captures true =
      .ok { success := !sameAsciiCase request.scheme "https" } := by
  have expanded : Template.expand ⟨request, captures, true, false⟩ plainCondition.input =
      .ok (Variable.https.value request ++ "") := rfl
  rw [Condition.run, expanded, String.append_empty, Variable.value]
  have on : sameFolded "on" "off" = false := by decide
  have off : sameFolded "off" "off" = true := by decide
  cases sameAsciiCase request.scheme "https" with
  | true => simp [plainCondition, Matcher.exact, Matcher.run, Matcher.plain, on, Except.map]
  | false => simp [plainCondition, Matcher.exact, Matcher.run, Matcher.plain, off, Except.map]

theorem encrypting_guarded :
    ((encrypting options status).guarded request).1 =
      .ok !sameAsciiCase request.scheme "https" := by
  have conditions : (encrypting options status).conditions =
      some { items := [plainCondition] } := rfl
  have isGlobal : (encrypting options status).isGlobal = true := rfl
  rw [Rule.guarded, conditions, isGlobal]
  simp only [Conditions.run, Conditions.runItems, plainCondition_run]
  cases sameAsciiCase request.scheme "https" with
  | true => rfl
  | false => rfl

theorem encrypting_checked (captures : Captures) :
    Rule.checkActions captures (encrypting options status).actions = .ok () := rfl

/-- The rule rejects requests that are encrypted already, and all requests if its searches may take
no time. -/
theorem encrypting_rejects_iff :
    (encrypting options status).Rejects request ↔
      options.matchTimeout = 0 ∨ sameAsciiCase request.scheme "https" = true := by
  constructor
  · intro rejects
    by_contra kept
    obtain ⟨running, plain⟩ := not_or.mp kept
    have plain : sameAsciiCase request.scheme "https" = false := Bool.not_eq_true _ ▸ plain
    have guards : ((encrypting options status).guarded request).1 = .ok true := by
      rw [encrypting_guarded, plain]
      rfl
    have guarded : (encrypting options status).guarded request =
        (.ok true, ((encrypting options status).guarded request).2) := by rw [← guards]
    have found := Rule.captures_eq_some_iff.mpr
      ⟨encrypting_matches status request running, guarded⟩
    exact (Rule.rejects_iff_of_captures found).mp rejects (encrypting_checked _)
  · rintro (expired | encrypted)
    · exact .unmatched (encrypting_times_out status request expired)
    · by_cases expired : options.matchTimeout = 0
      · exact .unmatched (encrypting_times_out status request expired)
      · refine .unmet (encrypting_matches status request expired) ?_
        rw [encrypting_guarded, encrypted]
        rfl

/-! ## 4. The redirect -/

/-- The url in the encrypted scheme, without the query. A host that nothing gives is left out. -/
def encryptedUrl (request : Request) : String :=
  "https://" ++ (request.header? "host").getD "" ++ request.path

theorem encryptedRedirect_expands (captures : Captures) :
    (encryptedRedirect status).expandUrl request captures true = .ok (encryptedUrl request) := by
  have expanded : (encryptedRedirect status).expandUrl request captures true =
      .ok ("https://" ++ ((request.header? "host").getD "" ++ (request.path ++ ""))) := rfl
  rw [expanded, String.append_empty, encryptedUrl, String.append_assoc]

theorem encrypting_apply (running : options.matchTimeout ≠ 0)
    (plain : sameAsciiCase request.scheme "https" = false) :
    (encrypting options status).apply request =
      (.halted, request.resolve (.redirect status
        (Url.joinQuery (Url.dropMark (encryptedUrl request)) request.query))) := by
  have passes : ¬ (encrypting options status).Rejects request := by
    rw [encrypting_rejects_iff]
    simp [running, plain]
  have expanded : (encryptedRedirect status).expandUrl request
      ((encrypting options status).guarded request).2 true = .ok (encryptedUrl request) :=
    encryptedRedirect_expands _
  have taken := Action.redirect_apply (a := encryptedRedirect status) rfl expanded
  rw [(Rule.apply_of_not_rejects passes).2]
  show Rule.runActions _ true [encryptedRedirect status] request = _
  rw [Rule.runActions, taken, ← Url.joinQuery_joinQueries]
  rfl

/-- An engine with one rule does what the rule does. -/
theorem apply_singleton {rule : Rule} (enabled : rule.enabled = true) (options : RuleOptions)
    (request : Request) :
    ({ rules := [rule], options } : Engine).apply request = (rule.apply request).2 := by
  rw [Engine.apply, Rule.runAll, Rule.runFrom]
  simp only [enabled, Bool.not_true, Bool.false_eq_true, ↓reduceIte]
  generalize rule.apply request = outcome
  obtain ⟨flow, left⟩ := outcome
  cases flow with
  | notMatched | halted => rfl
  | applied =>
    dsimp only
    split <;> rfl

/-- What the engine with the rule makes of a plain request. -/
theorem rewrite_of_plain (running : options.matchTimeout ≠ 0)
    (plain : sameAsciiCase request.scheme "https" = false) :
    ({ rules := [encrypting options status], options } : Engine).rewrite request =
      (request.resolve (.redirect status
        (Url.joinQuery (Url.dropMark (encryptedUrl request)) request.query))).rewrite := by
  rw [Engine.rewrite, apply_singleton rfl, encrypting_apply running plain]

/-- The engine with the rule, when its search takes time. -/
theorem after_apply (options : RuleOptions) (status took : Nat) (request : Request) :
    (({ rules := [encrypting options status], options } : Engine).after took).apply request =
      ((encrypting { matchTimeout := options.matchTimeout - took } status).apply request).2 :=
  apply_singleton (encrypting_after options status took ▸ rfl) options request

/-- A host that was set on its own is the one of the header and of the url. -/
theorem encryptedUrl_of_given (given : request.givenHost.isSome = true) :
    encryptedUrl request = "https://" ++ request.host ++ request.path := by
  obtain ⟨host, named⟩ := Option.isSome_iff_exists.mp given
  have header : request.header? "host" = some host := by
    have same : sameAsciiCase "host" "host" = true := by decide
    simp [Request.header?, named, same]
  rw [encryptedUrl, header, Request.host, named]
  rfl

/-- The location is the url of the request in the encrypted scheme if the host is the same, and no
question mark at the end is dropped. -/
theorem location_eq_iff (unwritten : request.isRewritten = false) :
    Url.joinQuery (Url.dropMark (encryptedUrl request)) request.query =
        ({ request with givenScheme := some "https" } : Request).fullUrl ↔
      Url.dropMark (encryptedUrl request) = "https://" ++ request.host ++ request.path := by
  have same : request.path = request.initialPath ∧ request.query = request.initialQuery := by
    simpa [Request.isRewritten] using unwritten
  have whole : ({ request with givenScheme := some "https" } : Request).fullUrl =
      Url.joinQuery ("https://" ++ request.host ++ request.path) request.query := by
    simp [Request.fullUrl, Request.scheme, Request.host, same]
  rw [whole, Url.joinQuery_inj]

/-- The engine with the rule leaves encrypted requests alone, and all requests if its search takes
all the time that it may. It redirects any other request to the same path in the encrypted scheme
and with the query, at the host that was set on its own or else given by the header; without either
no host is named. If path and query are those that the request came with, this is the url of the
request in the encrypted scheme exactly if the host is the same and no question mark at the end is
dropped. A host that was set on its own is the same. -/
theorem redirect_to_https (options : RuleOptions) (took : Nat) {status : Nat}
    (inside : 300 ≤ status ∧ status < 400) {request : Request}
    (unwritten : request.isRewritten = false) :
    ∃ e, ({ options } : Engine).addRedirectToHttps status = .ok e ∧
      (sameAsciiCase request.scheme "https" = true ∨ options.matchTimeout ≤ took →
        (e.after took).apply request = request) ∧
      (sameAsciiCase request.scheme "https" = false → took < options.matchTimeout →
        ∃ location, (e.after took).apply request = request.resolve (.redirect status location) ∧
          location = Url.joinQuery (Url.dropMark
            ("https://" ++ (request.header? "host").getD "" ++ request.path)) request.query ∧
          (location = ({ request with givenScheme := some "https" } : Request).fullUrl ↔
            Url.dropMark ("https://" ++ (request.header? "host").getD "" ++ request.path) =
              "https://" ++ request.host ++ request.path) ∧
          (request.givenHost.isSome = true →
            "https://" ++ (request.header? "host").getD "" ++ request.path =
              "https://" ++ request.host ++ request.path)) := by
  refine ⟨_, addRedirectToHttps_eq inside, ?_, ?_⟩
  · intro spared
    have rejects : (encrypting { matchTimeout := options.matchTimeout - took } status).Rejects
        request := by
      refine encrypting_rejects_iff.mpr ?_
      rcases spared with encrypted | late
      · exact .inr encrypted
      · exact .inl (Nat.sub_eq_zero_of_le late)
    rw [after_apply, Rule.apply_of_rejects rejects]
  · intro plain inTime
    have running : options.matchTimeout - took ≠ 0 := Nat.sub_ne_zero_of_lt inTime
    refine ⟨_, ?_, rfl, location_eq_iff unwritten, encryptedUrl_of_given⟩
    rw [after_apply, encrypting_apply running plain]
    rfl

/-- A plain request with a host that was set on its own. -/
def exPlain : Request := { Request.ofUrl "/a?b" with givenHost := some "example.com" }

theorem redirect_to_https_plain :
    (300 ≤ 301 ∧ 301 < 400) ∧ exPlain.isRewritten = false ∧
    ∃ e, ({} : Engine).addRedirectToHttps 301 = .ok e ∧
      (e.after 5).apply exPlain = exPlain.resolve (.redirect 301 "https://example.com/a?b") ∧
      ({ exPlain with givenScheme := some "https" } : Request).fullUrl =
        "https://example.com/a?b" := by
  have inside : 300 ≤ 301 ∧ 301 < 400 := by decide
  have unwritten : exPlain.isRewritten = false := by decide
  obtain ⟨e, adds, _, redirects⟩ := redirect_to_https {} 5 inside unwritten
  obtain ⟨location, applied, known, same, _⟩ := redirects (by decide) (by decide)
  have whole : location = ({ exPlain with givenScheme := some "https" } : Request).fullUrl :=
    same.mpr (by decide)
  have read : location = "https://example.com/a?b" := known.trans (by decide)
  exact ⟨inside, unwritten, e, adds, read ▸ applied, whole.symm.trans read⟩

/-- A request whose host only its header gives. -/
def exNamed : Request := (Request.ofUrl "/a").addHeader "Host" "example.com"

/-- A request with an empty path, and with a question mark at the end of its host. -/
def exMarked : Request := { Request.ofUrl "?b" with givenHost := some "h?" }

/-- A request whose host nothing gives. -/
def exHostless : Request := Request.ofUrl "/a?b"

/-- Not every plain request is led to its own url in the encrypted scheme: the header decides about
the host of the one, the host of another is left out, a question mark is dropped from the third, and
without time for its search the rule lets requests pass. -/
theorem redirect_to_https_elsewhere :
    (exNamed.isRewritten = false ∧ exMarked.isRewritten = false ∧
      exHostless.isRewritten = false ∧ exPlain.isRewritten = false) ∧
    (∃ e, ({} : Engine).addRedirectToHttps 301 = .ok e ∧
      e.rewrite exNamed = .redirect "https://example.com/a" 301 ∧
      ({ exNamed with givenScheme := some "https" } : Request).fullUrl = "https://localhost/a" ∧
      e.rewrite exMarked = .redirect "https://h?b" 301 ∧
      ({ exMarked with givenScheme := some "https" } : Request).fullUrl = "https://h?&b" ∧
      e.rewrite exHostless = .redirect "https:///a?b" 301 ∧
      ({ exHostless with givenScheme := some "https" } : Request).fullUrl =
        "https://localhost/a?b") ∧
    ∃ e, ({ options := ⟨0⟩ } : Engine).addRedirectToHttps 301 = .ok e ∧
      e.rewrite exPlain = .uri "/a?b" := by
  refine ⟨by decide, ⟨_, addRedirectToHttps_eq (by decide), ?_, by decide, ?_, by decide, ?_,
    by decide⟩, _, addRedirectToHttps_eq (by decide), ?_⟩
  · rw [rewrite_of_plain (by decide) (by decide)]
    decide
  · rw [rewrite_of_plain (by decide) (by decide)]
    decide
  · rw [rewrite_of_plain (by decide) (by decide)]
    decide
  · rw [Engine.rewrite, apply_singleton rfl,
      Rule.apply_of_rejects (encrypting_rejects_iff.mpr (.inl rfl))]
    decide

end Engine

end Reroute
