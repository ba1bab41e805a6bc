import Reroute.Proofs.DirectiveFiles
import Reroute.Proofs.IdleRules
import Reroute.Proofs.RunSteps
import Reroute.Proofs.SectionFaults

/-!
# Statuses of answers

Statuses are checked where rules are made, in four places that know nothing of each other: in the
flags of a directive line and where they become an action, in the action of a section, and by the
engine for its own redirects. What they have in common is that a redirect has a status of a
redirect, and any other answer one of three digits that is no more than 599. That of a directive
line is at least 400. Nothing is checked when a rule answers, so the service relies on all of them.

Results:
1. `apply_answer`, `run_answered`: an answer is that of an action, of the one rule that halts.
2. `readRules_valid`: the rules of directive lines, and those of a section.
3. `Filled.valid`: all rules of an engine that is filled by its own means.
4. `Filled.answers_valid`: the answers of such an engine, and the service that relies on them.
-/

namespace Reroute

/-! ## 1. Answers and the actions that give them -/

/-- What actions of a kind answer. -/
inductive ActionKind.Answers : ActionKind → Resolution → Prop
  | redirect {status : Nat} {location : String} :
      Answers (.redirect status) (.redirect status location)
  | forbidden : Answers .forbidden (.response 403 none)
  | gone : Answers .gone (.response 410 none)
  | respond {status : Nat} {reason : Option String} :
      Answers (.respond status reason) (.response status reason)
  | abort : Answers .abort .abort

/-- An action that ends the request has answered it. -/
theorem Action.apply_answer {a : Action} {request next : Request} {captures : Captures}
    {isGlobal : Bool} (halts : a.apply request captures isGlobal = .ok (.halt, next)) :
    ∃ answer, next.resolution = some answer ∧ a.kind.Answers answer := by
  unfold Action.apply at halts
  cases kind : a.kind with
  | keep =>
    simp only [kind, Except.ok.injEq, Prod.mk.injEq] at halts
    exact absurd halts.1 a.going_ne_halt
  | rewrite =>
    simp only [kind] at halts
    obtain ⟨url, _, same⟩ := map_ok_iff.mp halts
    exact absurd (Prod.mk.inj same).1 a.going_ne_halt
  | redirect status =>
    simp only [kind] at halts
    obtain ⟨url, _, same⟩ := map_ok_iff.mp halts
    obtain ⟨_, rfl⟩ := Prod.mk.inj same
    exact ⟨_, rfl, .redirect⟩
  | forbidden | gone | respond | abort =>
    simp only [kind, Except.ok.injEq, Prod.mk.injEq] at halts
    obtain ⟨_, rfl⟩ := halts
    exact ⟨_, rfl, by constructor⟩

namespace Rule

theorem runActions_answer {captures : Captures} {isGlobal : Bool} {actions : List Action}
    {request next : Request}
    (halted : runActions captures isGlobal actions request = (.halted, next)) :
    ∃ a ∈ actions, ∃ answer, next.resolution = some answer ∧ a.kind.Answers answer := by
  induction actions generalizing request with
  | nil => cases halted
  | cons a rest ih =>
    rw [runActions] at halted
    cases taken : a.apply request captures isGlobal with
    | error e =>
      rw [taken] at halted
      cases halted
    | ok outcome =>
      obtain ⟨flow, after⟩ := outcome
      rw [taken] at halted
      cases flow with
      | next =>
        obtain ⟨b, member, answers⟩ := ih halted
        exact ⟨b, List.mem_cons_of_mem _ member, answers⟩
      | stop => cases halted
      | halt =>
        cases halted
        exact ⟨a, List.mem_cons_self, Action.apply_answer taken⟩

/-- A rule that halts has answered the request by one of its actions. -/
theorem apply_answer {rule : Rule} {request : Request}
    (halted : (rule.apply request).1 = .halted) :
    ∃ a ∈ rule.actions, ∃ answer, (rule.apply request).2.resolution = some answer ∧
      a.kind.Answers answer := by
  by_cases rejects : rule.Rejects request
  · rw [apply_of_rejects rejects] at halted
    cases halted
  · have applied := (apply_of_not_rejects rejects).2
    rw [applied] at halted ⊢
    exact runActions_answer (Prod.ext halted rfl)

/-- In a run of the rules that begins with `request`, the evaluation `v` gives the answer. -/
structure Answered (rules : List Rule) (request : Request) (v : Visit) (answer : Resolution) :
    Prop where
  visited : v ∈ visits rules request
  halted : v.flow = .halted
  answer : (runAll rules request).resolution = some answer

/-- A run that ends with an answer has it from the one rule that halts. -/
theorem run_answered {rules : List Rule} {request : Request} {answer : Resolution}
    (fresh : request.resolution = none)
    (answered : (runAll rules request).resolution = some answer) :
    ∃! v, Answered rules request v answer := by
  obtain ⟨halts, last⟩ := (trace_run rules request).resolution fresh
  rw [answered] at halts
  obtain ⟨v, visited, halted⟩ := halts.mp rfl
  refine ⟨v, ⟨visited, halted, answered⟩, ?_⟩
  intro w other
  have same : some v = some w := by
    rw [← last v visited halted, ← last w other.visited other.halted]
  exact (Option.some.inj same).symm

/-- The answer is that of an action of the rule. -/
theorem Answered.action {rules : List Rule} {request : Request} {v : Visit} {answer : Resolution}
    (answered : Answered rules request v answer) :
    v.rule ∈ rules ∧ ∃ a ∈ v.rule.actions, a.kind.Answers answer := by
  have trace := trace_run rules request
  refine ⟨trace.rule_mem v answered.visited, ?_⟩
  obtain ⟨a, member, given, after, answers⟩ := apply_answer answered.halted
  have final : runAll rules request = v.after :=
    trace.final_of_halted answered.visited answered.halted
  have same : some given = some answer := by
    rw [← after, ← answered.answer, final]
    rfl
  cases same
  exact ⟨a, member, answers⟩

end Rule

/-! ## 2. Rules that are read -/

/-- The statuses that an answer may have. A response has at least `least`. -/
def Resolution.Valid (least : Nat) : Resolution → Prop
  | .redirect status _ => 300 ≤ status ∧ status < 400
  | .response status _ => least ≤ status ∧ status < 600
  | .abort => True

/-- Whatever actions of the kind answer has a status that an answer may have. -/
def ActionKind.Valid (least : Nat) (kind : ActionKind) : Prop :=
  ∀ answer, kind.Answers answer → answer.Valid least

/-- All actions of the rule answer with statuses that an answer may have. -/
def Rule.Valid (least : Nat) (rule : Rule) : Prop := ∀ a ∈ rule.actions, a.kind.Valid least

namespace ActionKind

variable {least status : Nat} {reason : Option String}

theorem valid_redirect (inside : 300 ≤ status ∧ status < 400) :
    (ActionKind.redirect status).Valid least := by
  intro answer answers
  cases answers
  exact inside

theorem valid_respond (inside : least ≤ status ∧ status < 600) :
    (ActionKind.respond status reason).Valid least := by
  intro answer answers
  cases answers
  exact inside

/-- The other kinds answer with statuses of their own, if at all. -/
theorem valid_fixed {kind : ActionKind} (low : least ≤ 400)
    (fixed : kind ∈ [.rewrite, .keep, .forbidden, .gone, .abort]) : kind.Valid least := by
  intro answer answers
  cases answers with
  | redirect | respond => simp at fixed
  | forbidden | gone =>
    show least ≤ _ ∧ _
    omega
  | abort => trivial

theorem Valid.mono {kind : ActionKind} {more : Nat} (valid : kind.Valid more)
    (le : least ≤ more) : kind.Valid least := by
  intro answer answers
  have inside := valid answer answers
  cases answer with
  | redirect => exact inside
  | response => exact ⟨le.trans inside.1, inside.2⟩
  | abort => trivial

end ActionKind

namespace Directive

theorem readStatus_ok {text : String} {standard status : Nat}
    (reads : RuleFlag.readStatus text standard = .ok status) : 300 ≤ status ∧ status < 600 := by
  unfold RuleFlag.readStatus at reads
  split at reads
  · cases reads
  · split at reads
    · next inside =>
      cases reads
      exact inside
    · cases reads

/-- A redirecting flag has been checked for its status. -/
theorem readFlag_redirect {text : String} {status : Nat}
    (reads : RuleFlag.read text = .ok (.redirect status)) : 300 ≤ status ∧ status < 600 := by
  unfold RuleFlag.read at reads
  dsimp only at reads
  -- Only the two names of the redirecting flag make one, and of the others two read a number.
  split at reads
  case h_15 | h_16 =>
    obtain ⟨_, checked, same⟩ := map_ok_iff.mp reads
    cases same
    exact readStatus_ok checked
  case h_4 | h_5 =>
    obtain ⟨_, _, same⟩ := map_ok_iff.mp reads
    cases same
  all_goals cases reads

/-- The flags of a rule line. -/
theorem readFlags_redirect {text : String} {flags : RuleFlags}
    (reads : RuleFlags.read text = .ok flags) {status : Nat} (given : .redirect status ∈ flags) :
    300 ≤ status ∧ status < 600 := by
  unfold RuleFlags.read at reads
  split at reads
  · cases reads
  · next pieces _ =>
    split at reads
    · cases reads
    · next found each =>
      split at reads
      · cases reads
      · split at reads
        · cases reads
        · cases reads
          obtain ⟨piece, _, one⟩ := mapM_ok_mem each given
          exact readFlag_redirect one

theorem readLine_redirect {words : List String} {line : RuleLine}
    (reads : RuleLine.read words = .ok line) {status : Nat}
    (given : .redirect status ∈ line.flags) : 300 ≤ status ∧ status < 600 := by
  unfold RuleLine.read at reads
  split at reads
  · cases reads
  · cases reads
  · cases reads
    cases given
  · obtain ⟨flags, hasFlags, rest⟩ := bind_ok_iff.mp reads
    split at rest
    · cases rest
      exact readFlags_redirect hasFlags given
    · cases rest

/-- The statuses of flags up to 399 become redirects, and the others responses. -/
theorem kind_valid {line : RuleLine}
    (checked : ∀ status, .redirect status ∈ line.flags → 300 ≤ status ∧ status < 600) :
    line.kind.Valid 400 := by
  unfold RuleLine.kind
  split
  · next status found =>
    have inside := checked status (List.mem_of_find?_eq_some found)
    split
    · next redirects => exact ActionKind.valid_redirect redirects
    · next other => exact ActionKind.valid_respond (by omega)
  · exact ActionKind.valid_fixed (Nat.le_refl _) (by simp)
  · exact ActionKind.valid_fixed (Nat.le_refl _) (by simp)
  · split <;> exact ActionKind.valid_fixed (Nat.le_refl _) (by simp)

theorem read_redirect {text : String} {line : RuleLine} (reads : read text = .ok (.rule line))
    {status : Nat} (given : .redirect status ∈ line.flags) : 300 ≤ status ∧ status < 600 := by
  unfold read at reads
  split at reads
  · cases reads
  · dsimp only at reads
    split at reads
    · cases reads
    · split at reads
      case h_1 | h_2 | h_3 =>
        obtain ⟨found, readsLine, same⟩ := map_ok_iff.mp (mapError_ok_iff.mp reads)
        cases same
        exact readLine_redirect readsLine given
      case h_4 | h_5 | h_6 =>
        obtain ⟨_, _, same⟩ := map_ok_iff.mp (mapError_ok_iff.mp reads)
        cases same
      case h_7 | h_8 | h_9 => split at reads <;> cases reads
      case h_10 => cases reads

/-- The one action of a directive line does what the line says. -/
theorem compile_actions {line : RuleLine} {conditions : List Condition} {enabled : Bool}
    {options : RuleOptions} {rule : Rule}
    (compiles : line.compile conditions enabled options = .ok rule) :
    ∀ a ∈ rule.actions, a.kind = line.kind := by
  simp only [RuleLine.compile, bind_ok_iff, mapError_ok_iff, RuleDraft.setMatch, map_ok_iff]
    at compiles
  obtain ⟨_, ⟨matcher, _, rfl⟩, url, _, finished⟩ := compiles
  obtain ⟨_, _, _, rfl, _⟩ := RuleDraft.build_ok_iff.mp finished
  intro a member
  cases conditions with
  | nil =>
    obtain rfl := List.mem_singleton.mp member
    rfl
  | cons c rest =>
    rw [if_neg (by simp), foldl_pushCondition _ _ _ rfl] at member
    obtain rfl := List.mem_singleton.mp member
    rfl

/-- The rules of directive lines answer with 400 or more, unless they redirect. -/
theorem readRules_valid {text : String} {options : RuleOptions} {rules : List Rule}
    (reads : readRules text options = .ok rules) : ∀ rule ∈ rules, rule.Valid 400 := by
  intro rule member a taken
  obtain ⟨raw, _, line, _, _, readsLine, compiles⟩ := readLines_compiled reads member
  rw [compile_actions compiles a taken]
  exact kind_valid fun status given => read_redirect readsLine given

end Directive

namespace RewriteSection

open Reroute.Markup

variable {tables : LookupTables} {e : Element}

theorem customStatus_ok {status : Nat} (reads : customStatus e = .ok status) :
    100 ≤ status ∧ status < 600 := by
  obtain ⟨written, _, reads⟩ := bind_ok_iff.mp reads
  split at reads
  · split at reads
    · next inside =>
      cases reads
      exact inside
    · cases reads
  · cases reads

theorem redirectStatus (type : RedirectType) : 300 ≤ type.status ∧ type.status < 400 := by
  cases type <;> decide

theorem actionKind_valid {type : ActionType} {redirect : RedirectType} {kind : ActionKind}
    (reads : actionKind e type redirect = .ok kind) : kind.Valid 100 := by
  cases type with
  | keep | rewrite | abortRequest =>
    cases reads
    exact ActionKind.valid_fixed (by decide) (by simp)
  | redirect =>
    cases reads
    exact ActionKind.valid_redirect (redirectStatus redirect)
  | customResponse =>
    obtain ⟨status, checked, rfl⟩ := map_ok_iff.mp reads
    exact ActionKind.valid_respond (customStatus_ok checked)

theorem action_valid {stop : Bool} {a : Action} (reads : action tables e stop = .ok a) :
    a.kind.Valid 100 := by
  simp only [action, bind_ok_iff] at reads
  obtain ⟨type, _, redirect, _, append, _, reads⟩ := reads
  split at reads
  · cases reads
  · simp only [bind_ok_iff] at reads
    obtain ⟨url, _, kind, readsKind, same⟩ := reads
    cases same
    exact actionKind_valid readsKind

theorem enabledRule_valid {options : RuleOptions} {isGlobal : Bool} {rule : Rule}
    (reads : enabledRule tables options isGlobal e = .ok rule) : rule.Valid 100 := by
  simp only [enabledRule, bind_ok_iff] at reads
  obtain ⟨style, _, stop, _, matching, _, acting, _, url, _, _, _, _, _, d, drafts, reads⟩ := reads
  obtain ⟨_, rfl⟩ := setMatch_ok (mapError_ok_iff.mp drafts)
  -- Whether there are conditions or not, the draft has no actions so far.
  have finishes : ∀ d : RuleDraft, d.actions = [] →
      (action tables acting stop >>= fun taken =>
        ((d.addAction taken).build isGlobal).mapError fun cause => (e, .build cause)) =
          .ok rule → rule.Valid 100 := by
    intro d fresh reads
    obtain ⟨taken, readsAction, finished⟩ := bind_ok_iff.mp reads
    obtain ⟨_, _, _, rfl, _⟩ := RuleDraft.build_ok_iff.mp (mapError_ok_iff.mp finished)
    intro a member
    rw [RuleDraft.described, RuleDraft.addAction, fresh, List.nil_append] at member
    obtain rfl := List.mem_singleton.mp member
    exact action_valid readsAction
  cases guards : e.child? "conditions" with
  | none =>
    simp only [guards] at reads
    exact finishes _ rfl reads
  | some conditions =>
    simp only [guards] at reads
    obtain ⟨guarded, adds, reads⟩ := bind_ok_iff.mp reads
    obtain ⟨_, rfl⟩ := addConditions_ok adds
    exact finishes _ rfl reads

/-- The rules of a section answer with 100 or more, unless they redirect. -/
theorem readRules_valid {text : String} {options : RuleOptions} {rules : List Rule}
    (reads : readRules text tables options = .ok rules) : ∀ rule ∈ rules, rule.Valid 100 := by
  intro rule member
  obtain ⟨_, _, _, compiles⟩ := readRules_compiled reads member
  exact enabledRule_valid compiles

end RewriteSection

/-! ## 3. Engines -/

namespace Engine

/-- The engines that can be filled without building rules by hand. -/
inductive Filled : Engine → Prop
  | empty {options : RuleOptions} : Filled { options }
  | directives {e next : Engine} {text : String} :
      Filled e → e.addDirectives text = .ok next → Filled next
  | document {e next : Engine} {text : String} {tables : LookupTables} :
      Filled e → e.addSection text tables = .ok next → Filled next
  | rewrite {e next : Engine} {pattern replacement : String} {stop : Bool} :
      Filled e → e.addRewrite pattern replacement stop = .ok next → Filled next
  | redirect {e next : Engine} {pattern replacement : String} {status : Nat} :
      Filled e → e.addRedirect pattern replacement status = .ok next → Filled next
  | https {e next : Engine} {status : Nat} :
      Filled e → e.addRedirectToHttps status = .ok next → Filled next

theorem patternRule_valid {options : RuleOptions} {pattern replacement : String}
    {kind : ActionKind} {last : Bool} {rule : Rule} (valid : kind.Valid 100)
    (makes : patternRule options pattern replacement kind last = .ok rule) : rule.Valid 100 := by
  simp only [patternRule, bind_ok_iff, RuleDraft.setMatch, map_ok_iff] at makes
  obtain ⟨_, ⟨matcher, _, rfl⟩, url, _, finished⟩ := makes
  obtain ⟨_, _, _, rfl, _⟩ := RuleDraft.build_ok_iff.mp finished
  intro a member
  obtain rfl := List.mem_singleton.mp member
  exact valid

theorem httpsRule_valid {options : RuleOptions} {status : Nat} {rule : Rule}
    (inside : 300 ≤ status ∧ status < 400) (makes : httpsRule options status = .ok rule) :
    rule.Valid 100 := by
  simp only [httpsRule, bind_ok_iff, RuleDraft.setMatch, RuleDraft.addCondition, map_ok_iff]
    at makes
  obtain ⟨_, ⟨matcher, _, rfl⟩, _, ⟨_, _, rfl⟩, finished⟩ := makes
  obtain ⟨_, _, _, rfl, _⟩ := RuleDraft.build_ok_iff.mp finished
  intro a member
  obtain rfl := List.mem_singleton.mp member
  exact ActionKind.valid_redirect inside

theorem Filled.valid {e : Engine} (filled : e.Filled) : ∀ rule ∈ e.rules, rule.Valid 100 := by
  induction filled with
  | empty => simp
  | directives _ adds ih =>
    obtain ⟨rules, reads, rfl⟩ := map_ok_iff.mp adds
    refine List.forall_mem_append.mpr ⟨ih, ?_⟩
    intro rule member a taken
    exact (Directive.readRules_valid reads rule member a taken).mono (by decide)
  | document _ adds ih =>
    obtain ⟨rules, reads, rfl⟩ := map_ok_iff.mp adds
    exact List.forall_mem_append.mpr ⟨ih, RewriteSection.readRules_valid reads⟩
  | rewrite _ adds ih =>
    obtain ⟨rule, makes, rfl⟩ := map_ok_iff.mp adds
    refine List.forall_mem_append.mpr ⟨ih, List.forall_mem_singleton.mpr ?_⟩
    exact patternRule_valid (ActionKind.valid_fixed (by decide) (by simp)) makes
  | redirect _ adds ih =>
    obtain ⟨_, checked, adds⟩ := bind_ok_iff.mp adds
    obtain ⟨rule, makes, same⟩ := bind_ok_iff.mp adds
    cases same
    refine List.forall_mem_append.mpr ⟨ih, List.forall_mem_singleton.mpr ?_⟩
    exact patternRule_valid (ActionKind.valid_redirect (checkStatus_ok checked)) makes
  | https _ adds ih =>
    obtain ⟨_, checked, adds⟩ := bind_ok_iff.mp adds
    obtain ⟨rule, makes, same⟩ := bind_ok_iff.mp adds
    cases same
    refine List.forall_mem_append.mpr ⟨ih, List.forall_mem_singleton.mpr ?_⟩
    exact httpsRule_valid (checkStatus_ok checked) makes

/-! ## 4. Answers -/

end Engine

/-- The rule is one that a text of directive lines stands for. -/
def Rule.OfDirectives (rule : Rule) : Prop :=
  ∃ text options rules, Directive.readRules text options = .ok rules ∧ rule ∈ rules

theorem Rule.Answered.valid {rules : List Rule} {request : Request} {v : Visit}
    {answer : Resolution} {least : Nat} (answered : Answered rules request v answer)
    (valid : v.rule.Valid least) : answer.Valid least := by
  obtain ⟨_, a, member, answers⟩ := answered.action
  exact valid a member answer answers

theorem Request.resolution_of_redirect {r : Request} {location : String} {status : Nat}
    (rewritten : r.rewrite = .redirect location status) :
    r.resolution = some (.redirect status location) := by
  unfold Request.rewrite at rewritten
  split at rewritten <;> cases rewritten
  assumption

theorem Request.resolution_of_response {r : Request} {status : Nat} {reason : Option String}
    (rewritten : r.rewrite = .response status reason) :
    r.resolution = some (.response status reason) := by
  unfold Request.rewrite at rewritten
  split at rewritten <;> cases rewritten
  assumption

theorem Service.checkStatus_valid {status : Nat} (low : 100 ≤ status) (high : status < 600) :
    Service.checkStatus status = .ok () :=
  if_pos ⟨low, by omega⟩

namespace Engine

/-- An engine that is filled with texts and by its own rules redirects with a status of a redirect,
and answers otherwise with one from 100 up to 599; if the rule that answers is one of directive
lines, with 400 or more. So the service can always make a reply of its answers. -/
theorem Filled.answers_valid {e : Engine} (filled : e.Filled) :
    (∀ request : Request, request.resolution = none →
      (∀ location status, e.rewrite request = .redirect location status →
        300 ≤ status ∧ status < 400) ∧
      (∀ status reason, e.rewrite request = .response status reason →
        100 ≤ status ∧ status < 600 ∧
        (∃! v, Rule.Answered e.rules request v (.response status reason)) ∧
        ∀ v, Rule.Answered e.rules request v (.response status reason) →
          v.rule.OfDirectives → 400 ≤ status)) ∧
    ∀ (s : Service) (r : Http.Incoming), s.engine = e → s.rewrite r ≠ .error .invalidStatus := by
  have answers : ∀ request : Request, request.resolution = none → ∀ answer,
      (e.apply request).resolution = some answer → answer.Valid 100 := by
    intro request fresh answer answered
    obtain ⟨v, given, _⟩ := Rule.run_answered fresh answered
    exact given.valid (filled.valid v.rule given.action.1)
  refine ⟨?_, ?_⟩
  · intro request fresh
    refine ⟨?_, ?_⟩
    · intro location status redirected
      exact answers request fresh _ (Request.resolution_of_redirect redirected)
    · intro status reason responded
      have answered := Request.resolution_of_response responded
      obtain ⟨low, high⟩ := answers request fresh _ answered
      refine ⟨low, high, Rule.run_answered fresh answered, ?_⟩
      rintro v given ⟨text, options, rules, reads, member⟩
      exact (given.valid (Directive.readRules_valid reads v.rule member)).1
  · rintro s r rfl fails
    have fresh := (s.requestOf_url r).2
    unfold Service.rewrite at fails
    split at fails
    · obtain ⟨_, _, same⟩ := mapError_error_iff.mp fails
      cases same
    · next location status redirected =>
      obtain ⟨low, high⟩ := answers _ fresh _ (Request.resolution_of_redirect redirected)
      rw [Service.checkStatus_valid (by omega) (by omega)] at fails
      cases fails
    · next status reason responded =>
      obtain ⟨low, high⟩ := answers _ fresh _ (Request.resolution_of_response responded)
      rw [Service.checkStatus_valid low high] at fails
      cases fails
    · cases fails

/-- A redirect of the engine, and a directive line that answers with a status of its own. -/
def exAnswering : Engine :=
  match ({} : Engine).addRedirect "^/b$" "/c" 308 with
  | .error _ => {}
  | .ok e => (e.addDirectives "RewriteRule ^/a$ - [R=404]").toOption.getD {}

theorem exAnswering_filled : exAnswering.Filled := by
  unfold exAnswering
  split
  · exact .empty
  · next e first =>
    cases second : e.addDirectives "RewriteRule ^/a$ - [R=404]" with
    | error _ => exact .empty
    | ok next => exact .directives (.redirect .empty first) second

theorem answers_valid_both :
    exAnswering.Filled ∧
    exAnswering.rewrite (.ofUrl "/b") = .redirect "/c" 308 ∧
    exAnswering.rewrite (.ofUrl "/a") = .response 404 none ∧
    (∃! v, Rule.Answered exAnswering.rules (.ofUrl "/a") v (.response 404 none)) ∧
    ∀ r, ({ engine := exAnswering } : Service).rewrite r ≠ .error .invalidStatus := by
  obtain ⟨answers, replies⟩ := exAnswering_filled.answers_valid
  have responded : exAnswering.rewrite (.ofUrl "/a") = .response 404 none := by decide +kernel
  obtain ⟨_, _, given, _⟩ := (answers (.ofUrl "/a") rfl).2 404 none responded
  exact ⟨exAnswering_filled, by decide +kernel, responded, given, fun r => replies _ r rfl⟩

end Engine

end Reroute
