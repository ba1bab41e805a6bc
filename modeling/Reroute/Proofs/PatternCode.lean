import Reroute.Proofs.MatchedParts

/-!
# The code of a pattern

The code of a tree is laid in front of what comes after it. A run that enters this code and accepts
in the end has to leave it there, and what it did up to there is a match of the tree, whatever code
was laid before and behind. That holds for each way to build code from the code of a body, so the
code of a loop needs no more than the code of its body does.

A run keeps the places where each group opened and closed last. A group that opens again in its own
body would mix up its places; in a tree whose groups have different numbers there is none.

Results:
1. `Run`, `Accepts`: what a program can do from an instruction on.
2. `Lays`: what a run does in the code of a part, for each way to put code together.
3. `lays_ofExpr`: the code of a tree.
4. `matches_of_accepts`: the program of a tree accepts nothing but matches of it.
-/

namespace Reroute.Regex

open Reroute.Text

/-! ## 1. Runs of a program -/

/-- Keeps the places of a group. -/
def Part.record (slots : Slots) (part : Part) : Slots :=
  (slots.setIfInBounds (2 * part.group) (some part.start)).setIfInBounds (2 * part.group + 1)
    (some part.stop)

/-- The slots once the groups have taken part, one after another. -/
def recordAll (slots : Slots) (parts : List Part) : Slots := parts.foldl Part.record slots

theorem recordAll_append (slots : Slots) (parts rest : List Part) :
    recordAll slots (parts ++ rest) = recordAll (recordAll slots parts) rest :=
  List.foldl_append

/-- Groups of other numbers leave the place alone where a group opens. -/
theorem recordAll_setIfInBounds {parts : List Part} {index : Nat}
    (others : ∀ part ∈ parts, part.group ≠ index) (slots : Slots) (place : Nat) :
    recordAll (slots.setIfInBounds (2 * index) (some place)) parts =
      (recordAll slots parts).setIfInBounds (2 * index) (some place) := by
  induction parts generalizing slots with
  | nil => rfl
  | cons part rest ih =>
    obtain ⟨other, rest_others⟩ := List.forall_mem_cons.mp others
    have swapped : part.record (slots.setIfInBounds (2 * index) (some place)) =
        (part.record slots).setIfInBounds (2 * index) (some place) := by
      have opens : 2 * index ≠ 2 * part.group := by omega
      have closes : 2 * index ≠ 2 * part.group + 1 := by omega
      unfold Part.record
      rw [Array.setIfInBounds_comm _ _ opens, Array.setIfInBounds_comm _ _ closes]
    show recordAll (part.record _) rest = _
    rw [swapped, ih rest_others]
    rfl

variable (code : Code) (text : List Char)

/-- One instruction of a thread. Both stand at a place of the text. -/
inductive Step : Nat → Thread → Nat → Thread → Prop
  | chars {place at_ next : Nat} {slots : Slots} {set : CharSet} {c : Char} :
      code[at_]? = some (.chars set next) → text[place]? = some c → set.contains c = true →
      Step place ⟨at_, slots⟩ (place + 1) ⟨next, slots⟩
  | look {place at_ next : Nat} {slots : Slots} {condition : Look} :
      code[at_]? = some (.look condition next) →
      condition.holds (text.take place).getLast? text[place]? = true →
      Step place ⟨at_, slots⟩ place ⟨next, slots⟩
  | save {place at_ slot next : Nat} {slots : Slots} :
      code[at_]? = some (.save slot next) →
      Step place ⟨at_, slots⟩ place ⟨next, slots.setIfInBounds slot (some place)⟩
  | preferred {place at_ preferred other : Nat} {slots : Slots} :
      code[at_]? = some (.split preferred other) → Step place ⟨at_, slots⟩ place ⟨preferred, slots⟩
  | other {place at_ preferred other : Nat} {slots : Slots} :
      code[at_]? = some (.split preferred other) → Step place ⟨at_, slots⟩ place ⟨other, slots⟩

/-- So many instructions, one after another. -/
inductive Run : Nat → Nat → Thread → Nat → Thread → Prop
  | none {place : Nat} {thread : Thread} : Run 0 place thread place thread
  | more {count place between last : Nat} {thread next final : Thread} :
      Step code text place thread between next → Run count between next last final →
      Run (count + 1) place thread last final

/-- A run of so many instructions that accepts in the end. -/
structure Accepts (count place : Nat) (thread : Thread) (last : Nat) (final : Thread) : Prop where
  run : Run code text count place thread last final
  accepts : code[final.at_]? = some .accept

variable {code text} {count place last at_ next : Nat} {slots : Slots} {final : Thread}

/-- A run that stands before an instruction of another kind has not come to its end. -/
theorem Accepts.unfinished {inst : Inst}
    (run : Accepts code text count place ⟨at_, slots⟩ last final)
    (held : code[at_]? = some inst) (waits : inst ≠ .accept) :
    ∃ fewer between thread, fewer < count ∧ Step code text place ⟨at_, slots⟩ between thread ∧
      Accepts code text fewer between thread last final := by
  obtain ⟨run, accepts⟩ := run
  cases run with
  | none =>
    rw [held] at accepts
    exact absurd (Option.some.inj accepts) waits
  | more step rest => exact ⟨_, _, _, Nat.lt_succ_self _, step, rest, accepts⟩

theorem Accepts.chars {set : CharSet} (run : Accepts code text count place ⟨at_, slots⟩ last final)
    (held : code[at_]? = some (.chars set next)) :
    (∃ c, text[place]? = some c ∧ set.contains c = true) ∧
      ∃ fewer < count, Accepts code text fewer (place + 1) ⟨next, slots⟩ last final := by
  obtain ⟨fewer, between, thread, less, step, rest⟩ := run.unfinished held nofun
  cases step with
  | chars holds stands member =>
    cases held.symm.trans holds
    exact ⟨⟨_, stands, member⟩, fewer, less, rest⟩
  | look holds | save holds | preferred holds | other holds => cases held.symm.trans holds

theorem Accepts.look {condition : Look}
    (run : Accepts code text count place ⟨at_, slots⟩ last final)
    (held : code[at_]? = some (.look condition next)) :
    condition.holds (text.take place).getLast? text[place]? = true ∧
      ∃ fewer < count, Accepts code text fewer place ⟨next, slots⟩ last final := by
  obtain ⟨fewer, between, thread, less, step, rest⟩ := run.unfinished held nofun
  cases step with
  | look holds fulfilled =>
    cases held.symm.trans holds
    exact ⟨fulfilled, fewer, less, rest⟩
  | chars holds | save holds | preferred holds | other holds => cases held.symm.trans holds

theorem Accepts.save {slot : Nat} (run : Accepts code text count place ⟨at_, slots⟩ last final)
    (held : code[at_]? = some (.save slot next)) :
    ∃ fewer < count,
      Accepts code text fewer place ⟨next, slots.setIfInBounds slot (some place)⟩ last final := by
  obtain ⟨fewer, between, thread, less, step, rest⟩ := run.unfinished held nofun
  cases step with
  | save holds =>
    cases held.symm.trans holds
    exact ⟨fewer, less, rest⟩
  | chars holds | look holds | preferred holds | other holds => cases held.symm.trans holds

theorem Accepts.split {preferred other : Nat}
    (run : Accepts code text count place ⟨at_, slots⟩ last final)
    (held : code[at_]? = some (.split preferred other)) :
    ∃ fewer < count, Accepts code text fewer place ⟨preferred, slots⟩ last final ∨
      Accepts code text fewer place ⟨other, slots⟩ last final := by
  obtain ⟨fewer, between, thread, less, step, rest⟩ := run.unfinished held nofun
  cases step with
  | preferred holds =>
    cases held.symm.trans holds
    exact ⟨fewer, less, .inl rest⟩
  | other holds =>
    cases held.symm.trans holds
    exact ⟨fewer, less, .inr rest⟩
  | chars holds | look holds | save holds => cases held.symm.trans holds

/-- The order of preference does not matter for what can be run. -/
theorem Accepts.choice {greedy : Bool} {body : Nat}
    (run : Accepts code text count place ⟨at_, slots⟩ last final)
    (held : code[at_]? = some (Code.choice greedy body next)) :
    ∃ fewer < count, Accepts code text fewer place ⟨body, slots⟩ last final ∨
      Accepts code text fewer place ⟨next, slots⟩ last final := by
  cases greedy with
  | true => exact run.split held
  | false =>
    obtain ⟨fewer, less, either⟩ := run.split held
    exact ⟨fewer, less, either.symm⟩

/-! ## 2. Code in front of code -/

/-- Longer code that begins with the older one. -/
def Code.Keeps (older code : Code) : Prop := ∀ i < older.size, code[i]? = older[i]?

/-- Code that has, from a place on, what has been laid there. -/
def Code.Has (code : Code) (start : Nat) (laid : Code) : Prop :=
  ∀ i, start ≤ i → i < laid.size → code[i]? = laid[i]?

namespace Code

theorem Keeps.size_le {older code : Code} (keeps : Keeps older code) :
    older.size ≤ code.size := by
  by_contra shorter
  have kept := keeps code.size (Nat.lt_of_not_le shorter)
  rw [Array.getElem?_size, eq_comm, Array.getElem?_eq_none_iff] at kept
  exact shorter kept

theorem keeps_self (code : Code) : Keeps code code := fun _ _ => rfl

theorem Keeps.trans {older between code : Code} (first : Keeps older between)
    (second : Keeps between code) : Keeps older code := fun i inOlder =>
  (second i (Nat.lt_of_lt_of_le inOlder first.size_le)).trans (first i inOlder)

theorem keeps_push (code : Code) (inst : Inst) : Keeps code (code.push inst) := fun i inCode => by
  rw [Array.getElem?_push_lt inCode, Array.getElem?_eq_getElem inCode]

theorem keeps_set (code : Code) {older : Code} {at_ : Nat} (inst : Inst)
    (behind : older.size ≤ at_) (keeps : Keeps older code) :
    Keeps older (code.setIfInBounds at_ inst) := fun i inOlder => by
  rw [Array.getElem?_setIfInBounds_ne (by omega), keeps i inOlder]

theorem Has.later {code laid : Code} {start after : Nat} (has : code.Has start laid)
    (behind : start ≤ after) : code.Has after laid := fun i from_ inLaid =>
  has i (Nat.le_trans behind from_) inLaid

theorem Has.older {code older laid : Code} {start : Nat} (has : code.Has start laid)
    (keeps : Keeps older laid) : code.Has start older := fun i from_ inOlder =>
  (has i from_ (Nat.lt_of_lt_of_le inOlder keeps.size_le)).trans (keeps i inOlder)

theorem Has.pushed {code laid : Code} {start : Nat} {inst : Inst}
    (has : code.Has start (laid.push inst)) (behind : start ≤ laid.size) :
    code[laid.size]? = some inst := by
  rw [has laid.size behind (by simp)]
  simp

end Code

/-- A way to lay code in front of `next`, given as the function of the code so far. What was laid
before is kept, and a run that enters the new code and accepts comes to `next`, with a match of
what `P` says behind it. -/
structure Lays (text : List Char) (body : Nat → Code → Nat × Code) (P : Meaning) : Prop where
  keeps : ∀ next older, Code.Keeps older (body next older).2
  passes : ∀ {next : Nat} {older code : Code}, code.Has older.size (body next older).2 →
    ∀ {count place last : Nat} {slots : Slots} {final : Thread},
      Accepts code text count place ⟨(body next older).1, slots⟩ last final →
      ∃ parts middle, P place parts middle ∧
        ∃ fewer ≤ count, Accepts code text fewer middle ⟨next, recordAll slots parts⟩ last final

namespace Lays

variable {text : List Char} {body other : Nat → Code → Nat × Code} {P Q : Meaning}

/-- It is enough to say more of what is matched. -/
theorem mono (lays : Lays text body P)
    (weaker : ∀ first parts last, P first parts last → Q first parts last) : Lays text body Q where
  keeps := lays.keeps
  passes {next older code} has {count place last slots final} run := by
    obtain ⟨parts, middle, matched, rest⟩ := lays.passes has run
    exact ⟨parts, middle, weaker _ _ _ matched, rest⟩

theorem skip (text : List Char) :
    Lays text (fun next code => (next, code)) (Matches text .empty) where
  keeps _ older := Code.keeps_self older
  passes _ _ _ _ _ _ run := ⟨[], _, ⟨rfl, rfl⟩, _, Nat.le_refl _, run⟩

/-- Code in front of code. -/
theorem seq (front : Lays text body P) (back : Lays text other Q) :
    Lays text (fun next code => body (other next code).1 (other next code).2)
      (fun first parts last => ∃ before middle behind, P first before middle ∧
        Q middle behind last ∧ parts = before ++ behind) where
  keeps next older := (back.keeps next older).trans (front.keeps _ _)
  passes {next older code} has {count place last slots final} run := by
    have backHas := has.older (front.keeps _ _)
    have frontHas := has.later (back.keeps next older).size_le
    obtain ⟨before, middle, matched, fewer, less, onward⟩ := front.passes frontHas run
    obtain ⟨behind, stop, next_matched, fewest, least, rest⟩ := back.passes backHas onward
    exact ⟨before ++ behind, stop, ⟨before, middle, behind, matched, next_matched, rfl⟩, fewest,
      Nat.le_trans least less, recordAll_append slots before behind ▸ rest⟩

theorem alt (front : Lays text body P) (back : Lays text other Q) :
    Lays text (fun next code =>
        Code.emit (other next (body next code).2).2
          (.split (body next code).1 (other next (body next code).2).1))
      (fun first parts last => P first parts last ∨ Q first parts last) where
  keeps next older :=
    ((front.keeps next older).trans (back.keeps _ _)).trans (Code.keeps_push _ _)
  passes {next older code} has {count place last slots final} run := by
    have first := (front.keeps next older).size_le
    have second := (back.keeps next (body next older).2).size_le
    have backHas := has.older (Code.keeps_push _ _)
    obtain ⟨fewer, less, either⟩ := run.split (has.pushed (Nat.le_trans first second))
    rcases either with taken | taken
    · obtain ⟨parts, middle, matched, fewest, least, rest⟩ :=
        front.passes (backHas.older (back.keeps _ _)) taken
      exact ⟨parts, middle, .inl matched, fewest, by omega, rest⟩
    · obtain ⟨parts, middle, matched, fewest, least, rest⟩ :=
        back.passes (backHas.later first) taken
      exact ⟨parts, middle, .inr matched, fewest, by omega, rest⟩

/-- A group keeps the places where its body is entered and left. Groups in the body may not touch
them. -/
theorem group {index : Nat} (lays : Lays text body P)
    (others : ∀ first parts last, P first parts last → ∀ part ∈ parts, part.group ≠ index) :
    Lays text (fun next code =>
        let stop := code.emit (.save (2 * index + 1) next)
        let entry := body stop.1 stop.2
        Code.emit entry.2 (.save (2 * index) entry.1))
      (fun first parts last => ∃ inner, P first inner last ∧
        parts = inner ++ [⟨index, first, last⟩]) where
  keeps next older :=
    ((Code.keeps_push older _).trans (lays.keeps _ _)).trans (Code.keeps_push _ _)
  passes {next older code} has {count place last slots final} run := by
    have inner := lays.keeps older.size (older.push (.save (2 * index + 1) next))
    have larger := inner.size_le
    rw [Array.size_push] at larger
    have bodyHas := has.older (Code.keeps_push _ _)
    obtain ⟨fewer, less, entered⟩ := run.save (has.pushed (by dsimp only [Code.emit]; omega))
    obtain ⟨parts, middle, matched, fewest, least, left⟩ :=
      lays.passes (bodyHas.later (by simp [Code.emit])) entered
    obtain ⟨rest, lesser, closed⟩ := left.save ((bodyHas.older inner).pushed (Nat.le_refl _))
    refine ⟨_, middle, ⟨parts, matched, rfl⟩, rest, by omega, ?_⟩
    rw [recordAll_append, recordAll_setIfInBounds (others _ _ _ matched)] at *
    exact closed

theorem copies (lays : Lays text body P) (count : Nat) :
    Lays text (Code.copies body count) (Iterated P count) := by
  induction count with
  | zero =>
    refine (skip text).mono ?_
    rintro first parts last ⟨rfl, rfl⟩
    exact .none
  | succ count ih =>
    refine (ih.seq lays).mono ?_
    rintro first parts last ⟨before, middle, behind, matched, next, rfl⟩
    have one : Iterated P 1 middle (behind ++ []) last := .more next .none
    rw [List.append_nil] at one
    exact matched.append one

/-- Optional copies in one another: each of them is entered or leads to the end of all. -/
theorem optional_passes (lays : Lays text body P) (greedy : Bool) (stop limit : Nat) :
    ∀ next older, Code.Keeps older (Code.optional body greedy stop limit next older).2 ∧
      ∀ {code : Code}, code.Has older.size (Code.optional body greedy stop limit next older).2 →
        ∀ {count place last : Nat} {slots : Slots} {final : Thread},
          Accepts code text count place
            ⟨(Code.optional body greedy stop limit next older).1, slots⟩ last final →
          ∃ parts middle copies, Iterated P copies place parts middle ∧ copies ≤ limit ∧
            ∃ fewer ≤ count,
              Accepts code text fewer middle ⟨stop, recordAll slots parts⟩ last final ∨
              copies = limit ∧
                Accepts code text fewer middle ⟨next, recordAll slots parts⟩ last final := by
  induction limit with
  | zero =>
    intro next older
    refine ⟨Code.keeps_self older, fun {code} has {count place last slots final} run => ?_⟩
    exact ⟨[], place, 0, .none, Nat.le_refl _, count, Nat.le_refl _, .inr ⟨rfl, run⟩⟩
  | succ limit ih =>
    intro next older
    have first := lays.keeps next older
    obtain ⟨more, passes⟩ := ih (body next older).2.size
      ((body next older).2.push (Code.choice greedy (body next older).1 stop))
    have larger := more.size_le
    rw [Array.size_push] at larger
    refine ⟨(first.trans (Code.keeps_push _ _)).trans more,
      fun {code} has {count place last slots final} run => ?_⟩
    have pushedHas := has.older more
    have size := first.size_le
    obtain ⟨parts, middle, copies, matched, within, fewer, less, left⟩ :=
      passes (has.later (by rw [Array.size_push]; omega)) run
    rcases left with stopped | ⟨full, left⟩
    · exact ⟨parts, middle, copies, matched, Nat.le_succ_of_le within, fewer, less, .inl stopped⟩
    · obtain ⟨fewest, least, entered | stopped⟩ := left.choice (pushedHas.pushed size)
      · obtain ⟨inner, after, once, rest, lesser, onward⟩ :=
          lays.passes (pushedHas.older (Code.keeps_push _ _)) entered
        have one : Iterated P 1 middle (inner ++ []) after := .more once .none
        rw [List.append_nil] at one
        refine ⟨_, after, copies + 1, matched.append one, by omega, rest, by omega, .inr ?_⟩
        exact ⟨by omega, recordAll_append slots parts inner ▸ onward⟩
      · exact ⟨parts, middle, copies, matched, by omega, fewest, by omega, .inl stopped⟩

theorem optional (lays : Lays text body P) (greedy : Bool) (limit : Nat) :
    Lays text (fun next code => Code.optional body greedy next limit next code)
      (fun first parts last => ∃ copies ≤ limit, Iterated P copies first parts last) where
  keeps next older := (lays.optional_passes greedy next limit next older).1
  passes {next older code} has {count place last slots final} run := by
    obtain ⟨parts, middle, copies, matched, within, fewer, less, left⟩ :=
      (lays.optional_passes greedy next limit next older).2 has run
    exact ⟨parts, middle, ⟨copies, within, matched⟩, fewer, less, left.elim id And.right⟩

/-- A run that stands at the way back of a loop enters the body again or leaves. It gets shorter
each time, which is what the induction is on. -/
theorem loop_back (lays : Lays text body P) {greedy : Bool} {next : Nat} {older code : Code}
    (way : code[older.size]? =
      some (Code.choice greedy (body older.size (older.push .fail)).1 next))
    (has : code.Has (older.size + 1) (body older.size (older.push .fail)).2)
    {count place last : Nat} {slots : Slots} {final : Thread}
    (run : Accepts code text count place ⟨older.size, slots⟩ last final) :
    ∃ parts middle rounds, Iterated P rounds place parts middle ∧
      ∃ fewer ≤ count,
        Accepts code text fewer middle ⟨next, recordAll slots parts⟩ last final := by
  induction count using Nat.strongRecOn generalizing place slots with
  | ind count ih =>
    obtain ⟨fewer, less, entered | left⟩ := run.choice way
    · obtain ⟨parts, middle, matched, fewest, least, again⟩ :=
        lays.passes (by rw [Array.size_push]; exact has) entered
      obtain ⟨others, after, rounds, more, rest, lesser, onward⟩ :=
        ih fewest (by omega) again
      exact ⟨parts ++ others, after, rounds + 1, .more matched more, rest, by omega,
        recordAll_append slots parts others ▸ onward⟩
    · exact ⟨[], place, 0, .none, fewer, Nat.le_of_lt less, left⟩

/-- The body of a loop is run through once at least. -/
theorem loop (lays : Lays text body P) (greedy : Bool) :
    Lays text (Code.loop body greedy)
      (fun first parts last => ∃ rounds, 1 ≤ rounds ∧ Iterated P rounds first parts last) where
  keeps next older := by
    have kept := (Code.keeps_push older .fail).trans (lays.keeps older.size (older.push .fail))
    exact Code.keeps_set _ _ (Nat.le_refl _) kept
  passes {next older code} has {count place last slots final} run := by
    have inner := (lays.keeps older.size (older.push .fail)).size_le
    rw [Array.size_push] at inner
    have way : code[older.size]? =
        some (Code.choice greedy (body older.size (older.push .fail)).1 next) := by
      rw [has older.size (Nat.le_refl _) (by simpa [Code.loop] using Nat.lt_of_succ_le inner)]
      exact Array.getElem?_setIfInBounds_self_of_lt inner
    have bodyHas : code.Has (older.size + 1) (body older.size (older.push .fail)).2 := by
      intro i behind inBody
      rw [has i (by omega) (by simpa [Code.loop] using inBody)]
      simp only [Code.loop]
      rw [Array.getElem?_setIfInBounds_ne (by omega)]
    obtain ⟨parts, middle, matched, fewer, less, back⟩ :=
      lays.passes (by rw [Array.size_push]; exact bodyHas) run
    obtain ⟨others, after, rounds, more, rest, lesser, left⟩ := lays.loop_back way bodyHas back
    exact ⟨parts ++ others, after, ⟨rounds + 1, by omega, .more matched more⟩, rest, by omega,
      recordAll_append slots parts others ▸ left⟩

/-- Code that may be entered or left out. -/
theorem maybe (lays : Lays text body P) (greedy : Bool) :
    Lays text (fun next code =>
        Code.emit (body next code).2 (Code.choice greedy (body next code).1 next))
      (fun first parts last => P first parts last ∨ Matches text .empty first parts last) where
  keeps next older := (lays.keeps next older).trans (Code.keeps_push _ _)
  passes {next older code} has {count place last slots final} run := by
    have size := (lays.keeps next older).size_le
    obtain ⟨fewer, less, entered | left⟩ := run.choice (has.pushed size)
    · obtain ⟨parts, middle, matched, fewest, least, rest⟩ :=
        lays.passes (has.older (Code.keeps_push _ _)) entered
      exact ⟨parts, middle, .inl matched, fewest, by omega, rest⟩
    · exact ⟨[], place, .inr ⟨rfl, rfl⟩, fewer, Nat.le_of_lt less, left⟩

theorem chars (text : List Char) (set : CharSet) :
    Lays text (fun next code => code.emit (.chars set next)) (Matches text (.chars set)) where
  keeps _ older := Code.keeps_push older _
  passes {next older code} has {count place last slots final} run := by
    obtain ⟨stands, fewer, less, rest⟩ := run.chars (has.pushed (Nat.le_refl _))
    exact ⟨[], place + 1, ⟨stands, rfl, rfl⟩, fewer, Nat.le_of_lt less, rest⟩

theorem look (text : List Char) (condition : Look) :
    Lays text (fun next code => code.emit (.look condition next))
      (Matches text (.look condition)) where
  keeps _ older := Code.keeps_push older _
  passes {next older code} has {count place last slots final} run := by
    obtain ⟨fulfilled, fewer, less, rest⟩ := run.look (has.pushed (Nat.le_refl _))
    exact ⟨[], place, ⟨fulfilled, rfl, rfl⟩, fewer, Nat.le_of_lt less, rest⟩

theorem literal (text word : List Char) :
    Lays text (Code.literal word) (Matches text (.literal word)) := by
  induction word with
  | nil =>
    refine (skip text).mono ?_
    rintro first parts last ⟨rfl, rfl⟩
    exact ⟨List.nil_prefix, rfl, rfl⟩
  | cons c rest ih =>
    have emitted : Code.literal (c :: rest) = fun next code =>
        Code.emit (Code.literal rest next code).2
          (.chars (.single c) (Code.literal rest next code).1) := by
      funext next code
      simp [Code.literal]
    rw [emitted]
    refine ((chars text (.single c)).seq ih).mono ?_
    rintro first parts last ⟨_, _, _, ⟨⟨d, stands, member⟩, rfl, rfl⟩, ⟨onward, rfl, rfl⟩, rfl⟩
    rw [CharSet.eq_of_contains_single member] at stands
    refine ⟨?_, rfl, by rw [List.length_cons]; omega⟩
    rw [List.drop_eq_getElem?_toList_append, stands]
    exact (List.prefix_cons_inj c).mpr onward

end Lays

/-! ## 3. The code of a tree -/

/-- The code of a tree whose groups have different numbers. -/
theorem lays_ofExpr (text : List Char) {e : Expr} (once : e.groupNumbers.Nodup) :
    Lays text (Code.ofExpr e) (Matches text e) := by
  induction e with
  | empty => exact Lays.skip text
  | literal word => exact Lays.literal text word
  | chars set => exact Lays.chars text set
  | look condition => exact Lays.look text condition
  | seq a b iha ihb =>
    obtain ⟨front, back, _⟩ := List.nodup_append.mp once
    exact (iha front).seq (ihb back)
  | alt a b iha ihb =>
    obtain ⟨front, back, _⟩ := List.nodup_append.mp once
    exact (iha front).alt (ihb back)
  | group index e ih =>
    obtain ⟨outside, inner⟩ := List.nodup_cons.mp once
    refine (ih inner).group fun first parts last matched part member same => ?_
    exact outside (same ▸ matched.numbered part member)
  | times min max greedy e ih =>
    have body := ih once
    cases max with
    | none =>
      have loop := body.loop greedy
      by_cases zero : min = 0
      · subst zero
        refine (loop.maybe greedy).mono ?_
        rintro first parts last (⟨rounds, _, matched⟩ | ⟨rfl, rfl⟩)
        · exact ⟨rounds, Nat.zero_le _, nofun, matched⟩
        · exact ⟨0, Nat.le_refl _, nofun, .none⟩
      · have laid : Code.ofExpr (.times min none greedy e) = fun next code =>
            Code.copies (Code.ofExpr e) (min - 1)
              (Code.loop (Code.ofExpr e) greedy next code).1
              (Code.loop (Code.ofExpr e) greedy next code).2 := by
          funext next code
          simp [Code.ofExpr, zero]
        rw [laid]
        refine ((body.copies (min - 1)).seq loop).mono ?_
        rintro first parts last ⟨front, middle, back, matched, ⟨rounds, some_, others⟩, rfl⟩
        exact ⟨min - 1 + rounds, by omega, nofun, matched.append others⟩
    | some max =>
      refine ((body.copies min).seq (body.optional greedy (max - min))).mono ?_
      rintro first parts last ⟨front, middle, back, matched, ⟨more, limit, others⟩, rfl⟩
      refine ⟨min + more, Nat.le_add_right _ _, ?_, matched.append others⟩
      rintro _ ⟨⟩
      simp only [Nat.max_def]
      split <;> omega

/-! ## 4. The program of a tree -/

/-- The whole match is a group around the tree, and nothing comes after it. -/
theorem matches_of_accepts {text : List Char} {e : Expr}
    (once : (Expr.group 0 e).groupNumbers.Nodup) {count first last : Nat} {slots : Slots}
    {final : Thread}
    (run : Accepts (Program.ofExpr e).code text count first ⟨(Program.ofExpr e).entry, slots⟩
      last final) :
    ∃ parts, Matches text (.group 0 e) first parts last ∧ final.slots = recordAll slots parts := by
  have lays := lays_ofExpr text once
  have whole : Code.Has (Program.ofExpr e).code 1 (Code.ofExpr (.group 0 e) 0 #[.accept]).2 :=
    fun _ _ _ => rfl
  obtain ⟨parts, middle, matched, fewer, less, onward⟩ := lays.passes whole run
  have accept : (Program.ofExpr e).code[0]? = some .accept :=
    lays.keeps 0 #[.accept] 0 Nat.zero_lt_one
  obtain ⟨run, _⟩ := onward
  cases run with
  | none => exact ⟨parts, matched, rfl⟩
  | more step _ =>
    cases step with
    | chars holds | look holds | save holds | preferred holds | other holds =>
      cases accept.symm.trans holds

end Reroute.Regex
