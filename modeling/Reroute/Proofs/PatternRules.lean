import Mathlib.Data.Bool.AllAny
import Reroute.Proofs.DirectiveFiles
import Reroute.Proofs.DirectiveNames
import Reroute.Proofs.Quoting
import Reroute.Proofs.RuleLists

/-!
# Rules of the engine and directive lines

The engine makes rules for a pattern and a replacement, and a directive line can say the same. The
two do not become the same rule: the action of a line with the flag for the last rule also leaves
out the actions behind it. But there are none, so no request can tell the two apart.

Results:
1. `readNat_repr`, `trimList_eq_self`, `splitAll_of_free`: numbers and pieces of texts.
2. `readFlags_rewrite`, `readFlags_redirecting`: the flags of such lines.
3. `readRules_ruleText`: the rule that a line of quoted words stands for.
4. `Alike.runFrom`: rules that do the same stand for each other in every list.
5. `Engine.pattern_lines`: the rules of the engine and those of the lines.
-/

namespace Reroute

/-! ## 1. Numbers and pieces of texts -/

namespace Text

theorem le_ofDigitChars (digits : List Char) (acc : Nat) :
    acc ≤ Nat.ofDigitChars 10 digits acc := by
  rw [Nat.ofDigitChars_eq_ofDigitChars_zero]
  have scaled : 1 * acc ≤ 10 ^ digits.length * acc :=
    Nat.mul_le_mul_right acc (Nat.one_le_pow _ _ (by decide))
  omega

theorem readDigits_ok {bound acc : Nat} {digits : List Char}
    (isDigit : ∀ c ∈ digits, c.isDigit = true) (fits : Nat.ofDigitChars 10 digits acc ≤ bound) :
    readDigits bound acc digits = .ok (Nat.ofDigitChars 10 digits acc) := by
  induction digits generalizing acc with
  | nil => rfl
  | cons c rest ih =>
    obtain ⟨here, later⟩ := List.forall_mem_cons.mp isDigit
    rw [Nat.ofDigitChars_cons, Nat.mul_comm 10 acc] at fits ⊢
    have inside : acc * 10 + (c.toNat - '0'.toNat) ≤ bound :=
      (le_ofDigitChars rest _).trans fits
    rw [readDigits, here]
    dsimp only
    rw [if_neg (Nat.not_lt.mpr inside)]
    exact ih later fits

theorem isDigit_repr (n : Nat) : ∀ c ∈ (toString n).toList, c.isDigit = true := by
  intro c member
  have digits : (toString n).toList = Nat.toDigits 10 n := Nat.toList_repr
  rw [digits] at member
  exact Nat.isDigit_of_mem_toDigits (by decide) (by decide) member

/-- A number is read from its digits again. -/
theorem readDigits_repr {n bound : Nat} (fits : n ≤ bound) :
    readDigits bound 0 (toString n).toList = .ok n := by
  have digits : (toString n).toList = Nat.toDigits 10 n := Nat.toList_repr
  have sum : Nat.ofDigitChars 10 (Nat.toDigits 10 n) 0 = n := Nat.ofDigitChars_ten_toDigits
  have isDigit := isDigit_repr n
  rw [digits] at isDigit ⊢
  rw [readDigits_ok isDigit (sum.symm ▸ fits), sum]

theorem toString_ne_nil (n : Nat) : (toString n).toList ≠ [] := by
  have digits : (toString n).toList = Nat.toDigits 10 n := Nat.toList_repr
  rw [digits]
  exact Nat.toDigits_ne_nil

theorem readNat_repr {n bound : Nat} (fits : n ≤ bound) : readNat bound (toString n) = .ok n := by
  have isDigit := isDigit_repr n
  unfold readNat
  split
  · next none_ => exact absurd none_ (toString_ne_nil n)
  · next sign =>
    rw [sign] at isDigit
    exact absurd (isDigit '+' List.mem_cons_self) (by decide)
  · next sign =>
    rw [sign] at isDigit
    exact absurd (isDigit '+' List.mem_cons_self) (by decide)
  · exact readDigits_repr fits

theorem isBlank_of_isDigit {c : Char} (isDigit : c.isDigit = true) : isBlank c = false := by
  obtain ⟨low, high⟩ : 48 ≤ c.toNat ∧ c.toNat ≤ 57 := Char.isDigit_iff_toNat.mp isDigit
  unfold isBlank
  simp only [Bool.or_eq_false_iff, Bool.and_eq_false_iff, decide_eq_false_iff_not,
    beq_eq_false_iff_ne]
  omega

theorem dropWhile_isBlank {cs : List Char} (first : ∀ c, cs.head? = some c → isBlank c = false) :
    cs.dropWhile isBlank = cs := by
  cases cs with
  | nil => rfl
  | cons c rest =>
    rw [List.dropWhile_cons, first c rfl]
    rfl

/-- A text with no blank at either end is trimmed already. -/
theorem trimList_eq_self {cs : List Char} (first : ∀ c, cs.head? = some c → isBlank c = false)
    (last : ∀ c, cs.getLast? = some c → isBlank c = false) : trimList cs = cs := by
  have ends : ∀ c, cs.reverse.head? = some c → isBlank c = false := by
    intro c at_end
    rw [List.head?_reverse] at at_end
    exact last c at_end
  unfold trimList trimStart trimEnd
  rw [dropWhile_isBlank first, dropWhile_isBlank ends, List.reverse_reverse]

/-- A text without the separator is one piece, and the first piece of a text that goes on. -/
theorem splitAll_of_free {separator : Char} {front : List Char} (free : separator ∉ front) :
    splitAll separator front = [front] ∧
      ∀ rest, splitAll separator (front ++ separator :: rest) =
        front :: splitAll separator rest := by
  induction front with
  | nil => exact ⟨rfl, fun rest => by simp [splitAll]⟩
  | cons c more ih =>
    have differs : c ≠ separator := by
      rintro rfl
      exact free List.mem_cons_self
    obtain ⟨whole, split⟩ := ih fun later => free (List.mem_cons_of_mem _ later)
    refine ⟨?_, ?_⟩
    · rw [splitAll, if_neg differs, whole]
    · intro rest
      rw [List.cons_append, splitAll, if_neg differs, split rest]

end Text

/-! ## 2. Flags -/

namespace Directive

open Reroute.Text

/-- The flags of a line that rewrites. -/
def rewriteFlags (stop : Bool) : String := if stop then "[QSA,L]" else "[QSA]"

/-- The flags of a line that redirects. -/
def redirectFlags (status : Nat) : String := "[R=" ++ toString status ++ ",QSA]"

theorem readFlags_rewrite (stop : Bool) :
    RuleFlags.read (rewriteFlags stop) =
      .ok (if stop then [.queryAppend, .last] else [.queryAppend]) := by
  cases stop <;> decide +kernel

theorem readFlag_redirecting {status : Nat} (inside : 300 ≤ status ∧ status < 400) :
    RuleFlag.read ("R=" ++ toString status) = .ok (.redirect status) := by
  have name : lower (String.ofList ['R']) = "r" := by decide +kernel
  have filled : (toString status).isEmpty = false := by simp
  have parts : splitFirst? (· == '=') ("R=" ++ toString status).toList =
      some (['R'], (toString status).toList) := by
    rw [String.toList_append]
    rfl
  have number : RuleFlag.readStatus (toString status) 302 = .ok status := by
    unfold RuleFlag.readStatus RuleFlag.readNumber
    rw [filled, readNat_repr (by omega : status ≤ 65535)]
    show (if 300 ≤ status ∧ status < 600 then _ else _) = _
    rw [if_pos ⟨inside.1, by omega⟩]
  unfold RuleFlag.read
  rw [parts]
  dsimp only
  rw [name, String.ofList_toList]
  show (RuleFlag.readStatus (toString status) 302).map RuleFlag.redirect = _
  rw [number]
  rfl

/-- The flags of a list are what stands between its commas. -/
theorem splitFlags_bracketed {text : String} {inner : List Char}
    (whole : text.toList = '[' :: (inner ++ [']'])) :
    splitFlags? text = some (((splitAll ',' inner).map trimList).filterMap fun flag =>
      if flag.isEmpty then none else some (String.ofList flag)) := by
  unfold splitFlags?
  rw [whole]
  show (if (inner ++ [']']).getLast? = some ']' then
    some (((splitAll ',' (inner ++ [']']).dropLast).map trimList).filterMap _) else none) = _
  rw [List.getLast?_concat, if_pos rfl, List.dropLast_concat]

theorem splitFlags_redirecting (status : Nat) :
    splitFlags? (redirectFlags status) = some ["R=" ++ toString status, "QSA"] := by
  have isDigit := isDigit_repr status
  -- Digits are neither commas nor blanks.
  have free : ',' ∉ ("R=" ++ toString status).toList := by
    rw [String.toList_append, List.mem_append]
    rintro (inName | inNumber)
    · exact absurd inName (by decide)
    · exact absurd (isDigit ',' inNumber) (by decide)
  have solid : ∀ c ∈ ("R=" ++ toString status).toList, isBlank c = false := by
    rw [String.toList_append]
    exact List.forall_mem_append.mpr
      ⟨List.all_iff_forall_prop.mp (by decide),
        fun c member => isBlank_of_isDigit (isDigit c member)⟩
  have trimmed : trimList ("R=" ++ toString status).toList = ("R=" ++ toString status).toList :=
    trimList_eq_self (fun c first => solid c (List.mem_of_head? first))
      (fun c last => solid c (List.mem_of_getLast? last))
  have text : (redirectFlags status).toList =
      '[' :: (("R=" ++ toString status).toList ++ ',' :: "QSA".toList ++ [']']) := by
    simp [redirectFlags]
  have query : (splitAll ',' "QSA".toList).map trimList = ["QSA".toList] := by decide
  have filled : ("R=" ++ toString status).toList.isEmpty = false := by
    rw [String.toList_append]
    rfl
  rw [splitFlags_bracketed text, (splitAll_of_free free).2, List.map_cons, trimmed, query,
    List.filterMap_cons, filled, String.ofList_toList]
  rfl

theorem readFlags_redirecting {status : Nat} (inside : 300 ≤ status ∧ status < 400) :
    RuleFlags.read (redirectFlags status) = .ok [.redirect status, .queryAppend] := by
  have append : RuleFlag.read "QSA" = .ok .queryAppend := by decide +kernel
  have each : ["R=" ++ toString status, "QSA"].mapM RuleFlag.read =
      .ok [.redirect status, .queryAppend] := by
    rw [mapM_ok_iff]
    exact .cons (readFlag_redirecting inside) (.cons append .nil)
  unfold RuleFlags.read
  rw [splitFlags_redirecting]
  dsimp only
  rw [each]
  rfl

/-! ## 3. Lines -/

/-- A rule line with its pattern and its substitution between quotes. -/
def ruleText (pattern substitution flags : String) : String :=
  String.ofList ("RewriteRule".toList ++
    ' ' :: (quote pattern.toList ++ (' ' :: quote substitution.toList ++ ' ' :: flags.toList)))

/-- Flags as they stand at the end of a line: without blanks and quotes, and with a bracket at the
end. -/
structure IsFlags (flags : String) : Prop where
  bare : ∀ c ∈ flags.toList, isBlank c = false ∧ c ≠ '"'
  closed : flags.toList.getLast? = some ']'

theorem rewriteFlags_isFlags (stop : Bool) : IsFlags (rewriteFlags stop) := by
  cases stop with
  | false => exact ⟨List.all_iff_forall_prop.mp (by decide), by decide⟩
  | true => exact ⟨List.all_iff_forall_prop.mp (by decide), by decide⟩

theorem redirectFlags_isFlags (status : Nat) : IsFlags (redirectFlags status) := by
  have digits : ∀ c ∈ (toString status).toList, isBlank c = false ∧ c ≠ '"' := by
    intro c member
    have isDigit := isDigit_repr status c member
    refine ⟨isBlank_of_isDigit isDigit, ?_⟩
    rintro rfl
    exact absurd isDigit (by decide)
  unfold redirectFlags
  refine ⟨?_, ?_⟩
  · rw [String.toList_append, String.toList_append]
    exact List.forall_mem_append.mpr
      ⟨List.forall_mem_append.mpr ⟨List.all_iff_forall_prop.mp (by decide), digits⟩,
        List.all_iff_forall_prop.mp (by decide)⟩
  · rw [String.toList_append, List.getLast?_append]
    rfl

variable {pattern substitution flags : String}

/-- The words of a rule line. -/
theorem words_ruleText (isFlags : IsFlags flags)
    (ends : pattern.toList.getLast? ≠ some '\\' ∧ substitution.toList.getLast? ≠ some '\\') :
    words? (String.ofList (quote pattern.toList ++
      (' ' :: quote substitution.toList ++ ' ' :: flags.toList))) =
        some [pattern, substitution, flags] := by
  apply words_spaced
  rw [String.toList_ofList]
  have blank : ∀ c ∈ [' '], isBlank c = true := List.forall_mem_singleton.mpr rfl
  have filled : flags.toList ≠ [] := by
    intro empty
    have closed := isFlags.closed
    rw [empty] at closed
    cases closed
  have last : Spaced [flags.toList] ([' '] ++ (flags.toList ++ [])) :=
    .word blank (.bare filled isFlags.bare) (by simp) (.done (by simp))
  have second : Spaced [substitution.toList, flags.toList]
      ([' '] ++ (quote substitution.toList ++ ([' '] ++ (flags.toList ++ [])))) :=
    .word blank (.quoted ends.2) (by simp; decide) last
  have first : Spaced [pattern.toList, substitution.toList, flags.toList]
      ([] ++ (quote pattern.toList ++
        ([' '] ++ (quote substitution.toList ++ ([' '] ++ (flags.toList ++ [])))))) :=
    .word (by simp) (.quoted ends.1) (by simp; decide) second
  simpa using first

theorem calls_ruleText (pattern substitution flags : String) :
    Calls ruleNames (ruleText pattern substitution flags)
      (String.ofList (quote pattern.toList ++
        (' ' :: quote substitution.toList ++ ' ' :: flags.toList))) := by
  have solid : ∀ c ∈ "RewriteRule".toList, isBlank c = false :=
    List.all_iff_forall_prop.mp (by decide)
  have named : lower "RewriteRule" = "rewriterule" := by decide +kernel
  refine ⟨"RewriteRule".toList, ' ', ?_, solid, by decide, ?_⟩
  · exact String.toList_ofList.trans
      (congrArg ("RewriteRule".toList ++ ' ' :: ·) String.toList_ofList.symm)
  · rw [String.ofList_toList, named]
    decide

theorem read_ruleText {found : RuleFlags} (isFlags : IsFlags flags)
    (ends : pattern.toList.getLast? ≠ some '\\' ∧ substitution.toList.getLast? ≠ some '\\')
    (readsFlags : RuleFlags.read flags = .ok found) :
    read (ruleText pattern substitution flags) = .ok (.rule ⟨pattern, substitution, found⟩) := by
  have line : RuleLine.read [pattern, substitution, flags] =
      .ok ⟨pattern, substitution, found⟩ := by
    show (do
      let flags ← RuleFlags.read flags
      Except.ok (⟨pattern, substitution, flags⟩ : RuleLine)) = _
    rw [readsFlags]
    rfl
  rw [read_rule (calls_ruleText pattern substitution flags) (words_ruleText isFlags ends), line]
  rfl

/-- A text that is one line, with a rule on it, has this one rule. -/
theorem readRules_line {text : String} {line : RuleLine} {options : RuleOptions} {rule : Rule}
    (unbroken : '\n' ∉ text.toList) (trimmed : trim text = text) (loud : isSilent text = false)
    (reads : read text = .ok (.rule line)) (compiles : line.compile [] true options = .ok rule) :
    readRules text options = .ok [rule] := by
  have filled : text ≠ "" := by
    rintro rfl
    cases loud
  have one : lines text = [text] := by
    unfold lines
    rw [(splitAll_of_free unbroken).1]
    simp [filled]
  have spoken : said text = .ok (some (.rule line)) := by
    unfold said
    rw [trimmed, loud, reads]
    rfl
  unfold readRules
  rw [one, readLines_cons, spoken]
  simp only [compiles]
  rfl

theorem readRules_ruleText {found : RuleFlags} {options : RuleOptions} {rule : Rule}
    (isFlags : IsFlags flags)
    (ends : pattern.toList.getLast? ≠ some '\\' ∧ substitution.toList.getLast? ≠ some '\\')
    (unbroken : '\n' ∉ pattern.toList ∧ '\n' ∉ substitution.toList)
    (readsFlags : RuleFlags.read flags = .ok found)
    (compiles : (⟨pattern, substitution, found⟩ : RuleLine).compile [] true options = .ok rule) :
    readRules (ruleText pattern substitution flags) options = .ok [rule] := by
  have text : (ruleText pattern substitution flags).toList =
      'R' :: ("ewriteRule".toList ++ ' ' :: (quote pattern.toList ++
        (' ' :: quote substitution.toList ++ ' ' :: flags.toList))) := by
    unfold ruleText
    rw [String.toList_ofList]
    rfl
  refine readRules_line ?_ ?_ ?_ (read_ruleText isFlags ends readsFlags) compiles
  · have noBreak : '\n' ∉ flags.toList := by
      intro member
      exact absurd (isFlags.bare _ member).1 (by decide)
    have quoted : ∀ word : List Char, '\n' ∉ word → '\n' ∉ quote word := by
      intro word free member
      rcases mem_quote member with same | same | inside
      · exact absurd same (by decide)
      · exact absurd same (by decide)
      · exact free inside
    rw [text]
    simp [noBreak, quoted _ unbroken.1, quoted _ unbroken.2]
  · have kept : trimList (ruleText pattern substitution flags).toList =
        (ruleText pattern substitution flags).toList := by
      refine trimList_eq_self ?_ ?_
      · rw [text]
        intro c first
        cases first
        decide
      · have closed : (ruleText pattern substitution flags).toList.getLast? = some ']' := by
          unfold ruleText
          rw [String.toList_ofList]
          simp [List.getLast?_append, List.getLast?_cons, isFlags.closed]
        intro c last
        rw [closed] at last
        cases last
        decide
    rw [trim, kept, String.ofList_toList]
  · have filled : (ruleText pattern substitution flags).isEmpty = false := by
      rw [← String.ofList_toList (s := ruleText pattern substitution flags), text]
      simp
    unfold isSilent
    rw [filled, text]
    rfl

end Directive

/-! ## 4. Rules that do the same -/

namespace Rule

/-- No run can tell the two rules apart. -/
structure Alike (rule twin : Rule) : Prop where
  enabled : rule.enabled = twin.enabled
  last : rule.last = twin.last
  skip : rule.skip = twin.skip
  apply : ∀ request, rule.apply request = twin.apply request

/-- Rules that do the same stand for each other at every place of a list. -/
theorem Alike.runFrom {rule twin : Rule} (alike : rule.Alike twin) (before after : List Rule)
    (skip : Nat) (request : Request) :
    runFrom (before ++ rule :: after) skip request =
      runFrom (before ++ twin :: after) skip request := by
  have here : ∀ skip request,
      Rule.runFrom (rule :: after) skip request = Rule.runFrom (twin :: after) skip request := by
    intro skip request
    cases skip with
    | succ skip => rfl
    | zero => rw [Rule.runFrom, Rule.runFrom, alike.enabled, alike.last, alike.skip, alike.apply]
  rw [runFrom_append, runFrom_append]
  simp only [here]

/-- At the same place of any list the two rules leave every request the same, with the same
outcome. -/
def Interchangeable (rule twin : Rule) : Prop :=
  ∀ (before after : List Rule) (options : RuleOptions) (request : Request),
    Engine.apply ⟨before ++ rule :: after, options⟩ request =
        Engine.apply ⟨before ++ twin :: after, options⟩ request ∧
      Engine.rewrite ⟨before ++ rule :: after, options⟩ request =
        Engine.rewrite ⟨before ++ twin :: after, options⟩ request

theorem Alike.interchangeable {rule twin : Rule} (alike : rule.Alike twin) :
    rule.Interchangeable twin := by
  intro before after options request
  have same : Engine.apply ⟨before ++ rule :: after, options⟩ request =
      Engine.apply ⟨before ++ twin :: after, options⟩ request :=
    congrArg Prod.snd (alike.runFrom before after 0 request)
  exact ⟨same, congrArg Request.rewrite same⟩

/-- Behind the last action there is nothing to be left out. -/
theorem runActions_stop (captures : Captures) (isGlobal : Bool) (a : Action) (stop : Bool)
    (request : Request) :
    runActions captures isGlobal [{ a with stop }] request =
      runActions captures isGlobal [a] request := by
  have url : ({ a with stop } : Action).expandUrl request captures isGlobal =
      a.expandUrl request captures isGlobal := rfl
  unfold runActions Action.apply
  dsimp only
  rw [url]
  cases a.kind with
  | keep => cases stop <;> cases a.stop <;> rfl
  | rewrite =>
    cases a.expandUrl request captures isGlobal with
    | error e => rfl
    | ok url => cases stop <;> cases a.stop <;> rfl
  | redirect status | forbidden | gone | respond | abort => rfl

theorem alike_stop {rule : Rule} {a : Action} (single : rule.actions = [a]) (stop : Bool) :
    rule.Alike { rule with actions := [{ a with stop }] } := by
  refine ⟨rfl, rfl, rfl, ?_⟩
  intro request
  have guards : ({ rule with actions := [{ a with stop }] } : Rule).captures? request =
      rule.captures? request := rfl
  have checks : ∀ captures, checkActions captures [{ a with stop }] =
      checkActions captures [a] := fun _ => rfl
  unfold Rule.apply
  rw [guards, single]
  simp only [checks, runActions_stop]

end Rule

/-! ## 5. Rules of the engine -/

namespace Engine

open Directive

/-- The line is one for a rule of the engine: with the given action, and no flags but for the last
rule and the query. -/
structure Restates (line : RuleLine) (kind : ActionKind) (last : Bool) : Prop where
  positive : line.pattern.toList.head? ≠ some '!'
  substitutes : line.substitution ≠ "-"
  kind : line.kind = kind
  appends : line.appendQuery = true
  isLast : line.isLast = last
  skip : line.flags.skip = 0
  respectsCase : line.flags.contains .noCase = false
  unescaped : line.flags.contains .escapeGroups = false

/-- A line for a rule of the engine makes a rule that does the same. -/
theorem compile_alike {options : RuleOptions} {line : RuleLine} {kind : ActionKind} {last : Bool}
    {rule : Rule} (given : Restates line kind last)
    (makes : patternRule options line.pattern line.substitution kind last = .ok rule) :
    ∃ twin, line.compile [] true options = .ok twin ∧ rule.Alike twin := by
  simp only [patternRule, bind_ok_iff, RuleDraft.setMatch, map_ok_iff, dollarTemplate,
    mapError_ok_iff] at makes
  obtain ⟨_, ⟨matcher, compiles, rfl⟩, url, reads, finished⟩ := makes
  obtain ⟨_, found, _, rfl, offered⟩ := RuleDraft.build_ok_iff.mp finished
  cases found
  refine ⟨_, ?_, Rule.alike_stop rfl last⟩
  have positive : takeNegation line.pattern = (false, line.pattern) := by
    unfold takeNegation
    split
    · next negated => exact absurd (congrArg List.head? negated) given.positive
    · rfl
  have written : line.url = .ok url := by
    unfold RuleLine.url RuleLine.keepsUrl
    rw [beq_eq_false_iff_ne.mpr given.substitutes]
    exact reads
  simp only [RuleLine.compile, positive, bind_ok_iff, mapError_ok_iff, RuleDraft.setMatch,
    map_ok_iff, given.kind, given.appends, given.isLast, given.skip, given.respectsCase,
    given.unescaped]
  refine ⟨_, ⟨matcher, compiles, rfl⟩, url, written, ?_⟩
  exact RuleDraft.build_ok_iff.mpr ⟨matcher, rfl, List.cons_ne_nil _ _, rfl, offered⟩

variable {pattern replacement : String}

theorem rewrite_restates (positive : pattern.toList.head? ≠ some '!')
    (substitutes : replacement ≠ "-") (stop : Bool) :
    Restates ⟨pattern, replacement, if stop then [.queryAppend, .last] else [.queryAppend]⟩ .rewrite
      stop := by
  have kept : (replacement == "-") = false := beq_eq_false_iff_ne.mpr substitutes
  cases stop with
  | false | true =>
    refine ⟨positive, substitutes, ?_, rfl, rfl, rfl, rfl, rfl⟩
    show (if replacement == "-" then ActionKind.keep else .rewrite) = .rewrite
    rw [kept]
    rfl

theorem redirect_restates (positive : pattern.toList.head? ≠ some '!')
    (substitutes : replacement ≠ "-") {status : Nat} (inside : 300 ≤ status ∧ status < 400) :
    Restates ⟨pattern, replacement, [.redirect status, .queryAppend]⟩ (.redirect status) false := by
  refine ⟨positive, substitutes, ?_, rfl, rfl, rfl, rfl, rfl⟩
  show (if 300 ≤ status ∧ status < 400 then ActionKind.redirect status else _) = _
  rw [if_pos inside]

/-- The rules that the engine makes for a pattern, and those of lines with the pattern and the
replacement between quotes, stand for each other. -/
theorem pattern_lines (e : Engine) (pattern replacement : String)
    (positive : pattern.toList.head? ≠ some '!') (substitutes : replacement ≠ "-")
    (unbroken : '\n' ∉ pattern.toList ∧ '\n' ∉ replacement.toList)
    (ends : pattern.toList.getLast? ≠ some '\\' ∧ replacement.toList.getLast? ≠ some '\\') :
    (∀ stop next, e.addRewrite pattern replacement stop = .ok next →
      ∃ rule twin, next = e.addRules [rule] ∧
        e.addDirectives (ruleText pattern replacement (rewriteFlags stop)) =
          .ok (e.addRules [twin]) ∧
        rule.Interchangeable twin) ∧
    (∀ status next, e.addRedirect pattern replacement status = .ok next →
      ∃ rule twin, next = e.addRules [rule] ∧
        e.addDirectives (ruleText pattern replacement (redirectFlags status)) =
          .ok (e.addRules [twin]) ∧
        rule.Interchangeable twin) := by
  refine ⟨?_, ?_⟩
  · intro stop next adds
    obtain ⟨rule, makes, rfl⟩ := map_ok_iff.mp adds
    obtain ⟨twin, compiles, alike⟩ :=
      compile_alike (rewrite_restates positive substitutes stop) makes
    have reads := readRules_ruleText (rewriteFlags_isFlags stop) ends unbroken
      (readFlags_rewrite stop) compiles
    exact ⟨rule, twin, rfl, map_ok_iff.mpr ⟨_, reads, rfl⟩, alike.interchangeable⟩
  · intro status next adds
    obtain ⟨_, checked, adds⟩ := bind_ok_iff.mp adds
    obtain ⟨rule, makes, same⟩ := bind_ok_iff.mp adds
    cases same
    have inside : 300 ≤ status ∧ status < 400 := checkStatus_ok checked
    obtain ⟨twin, compiles, alike⟩ :=
      compile_alike (redirect_restates positive substitutes inside) makes
    have reads := readRules_ruleText (redirectFlags_isFlags status) ends unbroken
      (readFlags_redirecting inside) compiles
    exact ⟨rule, twin, rfl, map_ok_iff.mpr ⟨_, reads, rfl⟩, alike.interchangeable⟩

/-- A pattern with a quote behind a backslash. -/
def exPattern : String := "^/(\\\"a\\.b)$"

/-- A replacement with blanks and quotes. -/
def exReplacement : String := "/c \"$1\"?q"

theorem pattern_lines_quoted :
    (∃ next, ({} : Engine).addRewrite exPattern exReplacement true = .ok next) ∧
    ruleText exPattern exReplacement (rewriteFlags true) =
      "RewriteRule \"^/(\\\\\"a\\.b)$\" \"/c \\\"$1\\\"?q\" [QSA,L]" ∧
    ∃ rule twin : Rule,
      ({} : Engine).addDirectives (ruleText exPattern exReplacement (rewriteFlags true)) =
        .ok (({} : Engine).addRules [twin]) ∧
      rule.Interchangeable twin := by
  obtain ⟨next, adds⟩ :
      ∃ next, ({} : Engine).addRewrite exPattern exReplacement true = .ok next := by
    have succeeds :
        (({} : Engine).addRewrite exPattern exReplacement true).toOption.isSome = true := by
      decide +kernel
    cases adds : ({} : Engine).addRewrite exPattern exReplacement true with
    | error e =>
      rw [adds] at succeeds
      cases succeeds
    | ok next => exact ⟨next, rfl⟩
  obtain ⟨rewrites, _⟩ := pattern_lines {} exPattern exReplacement (by decide) (by decide)
    ⟨by decide, by decide⟩ ⟨by decide, by decide⟩
  obtain ⟨rule, twin, _, reads, same⟩ := rewrites true next adds
  exact ⟨⟨next, adds⟩, by decide +kernel, rule, twin, reads, same⟩

end Engine

end Reroute
