import Reroute.Proofs.AgreeingTables

/-!
# The order of settings

Settings list their tables, and each table its entries, in an order that means nothing. It makes no
difference to whether a service can be built: two orders fail with the same error, or both succeed.
For unambiguous settings it makes none to the service either: two orders give services that answer
every request alike (`build_reordered`). But two keys of a table that differ in case only are one
key of the table, so that the last of them counts. There the order does make a difference
(`build_order_matters`); no weaker assumption would make the tables the same in every order
(`RewriteSettings.unambiguous_iff`).

Results:
1. `Engine.Alike.apply`: engines with rules that do the same.
2. `Alike.rewrite`, `Alike.serve`: services that cannot be told apart; `addRules_alike`.
3. `build_reordered`: services of settings in two orders.
-/

namespace Reroute

/-! ## 1. Engines -/

namespace Engine

/-- Engines with the same settings, whose rules do the same one by one if `clear` holds. -/
structure Alike (clear : Prop) (e e' : Engine) : Prop where
  rules : List.Forall₂ (Rule.AlikeIf clear) e.rules e'.rules
  options : e.options = e'.options

variable {clear : Prop} {e e' : Engine}

theorem Alike.addRules (alike : e.Alike clear e') {rules rules' : List Rule}
    (added : List.Forall₂ (Rule.AlikeIf clear) rules rules') :
    (e.addRules rules).Alike clear (e'.addRules rules') :=
  ⟨List.rel_append alike.rules added, alike.options⟩

theorem Alike.addDirectives (alike : e.Alike clear e') (text : String) :
    Parallel (Alike clear) (e.addDirectives text) (e'.addDirectives text) := by
  unfold Engine.addDirectives
  rw [alike.options]
  exact .map_same _ fun rules => alike.addRules (List.forall₂_same.mpr fun rule _ => .refl rule)

theorem Alike.addSection (alike : e.Alike clear e') {tables tables' : LookupTables}
    (agree : tables.Agree clear tables') (text : String) :
    Parallel (Alike clear) (e.addSection text tables) (e'.addSection text tables') := by
  unfold Engine.addSection
  rw [alike.options]
  exact (RewriteSection.readRules_parallel agree text e'.options).map fun _ _ => alike.addRules

theorem Alike.apply (alike : e.Alike clear e') (holds : clear) (request : Request) :
    e.apply request = e'.apply request :=
  congrArg Prod.snd (Rule.runFrom_alike alike.rules holds 0 request)

end Engine

/-! ## 2. Services -/

namespace Service

/-- Services that differ in nothing but what their tables hold, and if `clear` holds then only in
the spelling and the place of it. -/
structure Alike (clear : Prop) (s s' : Service) : Prop where
  engine : s.engine.Alike clear s'.engine
  tables : s.tables.Agree clear s'.tables
  documentRoot : s.documentRoot = s'.documentRoot
  serverName : s.serverName = s'.serverName
  listener : s.listener = s'.listener

variable {clear : Prop} {s s' : Service}

theorem Alike.withEngine (alike : s.Alike clear s') {engine engine' : Engine}
    (next : engine.Alike clear engine') :
    (s.withEngine engine).Alike clear (s'.withEngine engine') :=
  { alike with engine := next }

theorem Alike.addDirectives (alike : s.Alike clear s') (text : String) :
    Parallel (Alike clear) (s.addDirectives text) (s'.addDirectives text) :=
  ((alike.engine.addDirectives text).map fun _ _ => alike.withEngine).mapError _

theorem Alike.addSection (alike : s.Alike clear s') (text : String) :
    Parallel (Alike clear) (s.addSection text) (s'.addSection text) :=
  ((alike.engine.addSection alike.tables text).map fun _ _ => alike.withEngine).mapError _

/-- Services that are alike stay so while rules are added. -/
theorem addRules_alike (alike : s.Alike clear s') (settings : RewriteSettings) (disk : Disk) :
    Parallel (Alike clear) (s.addRules settings disk) (s'.addRules settings disk) := by
  unfold addRules
  have addsSection : ∀ service service' path, Alike clear service service' → Parallel (Alike clear)
      (service.addSectionFile disk path) (service'.addSectionFile disk path) :=
    fun _ _ _ here => .bind_same _ fun text => here.addSection text
  have addsDirectives : ∀ service service' path, Alike clear service service' →
      Parallel (Alike clear)
      (service.addDirectivesFile disk path) (service'.addDirectivesFile disk path) :=
    fun _ _ _ here => .bind_same _ fun text => here.addDirectives text
  refine (Parallel.foldlM _ addsSection alike).bind fun _ _ withSections => ?_
  refine (Parallel.foldlM _ addsDirectives withSections).bind fun _ _ withFiles => ?_
  cases settings.rules with
  | none => exact .ok withFiles
  | some text => exact withFiles.addDirectives text

theorem Alike.requestOf (alike : s.Alike clear s') (r : Http.Incoming) :
    s.requestOf r = s'.requestOf r := by
  unfold Service.requestOf
  rw [alike.documentRoot, alike.serverName, alike.listener]

theorem Alike.rewrite (alike : s.Alike clear s') (holds : clear) (r : Http.Incoming) :
    s.rewrite r = s'.rewrite r := by
  unfold Service.rewrite Engine.rewrite
  rw [alike.requestOf r, alike.engine.apply holds]

theorem Alike.serve (alike : s.Alike clear s') (holds : clear)
    (handler : Http.Incoming → Http.Reply) (r : Http.Incoming) :
    s.serve handler r = s'.serve handler r := by
  unfold Service.serve
  rw [alike.rewrite holds r]

/-! ## 3. Building -/

theorem ofSettings_alike {s s' : RewriteSettings} (reordered : s.Reordered s')
    (root : DocumentRoot) : (ofSettings s root).Alike s.Unambiguous (ofSettings s' root) where
  engine := by
    refine ⟨.nil, ?_⟩
    show s.options = s'.options
    unfold RewriteSettings.options
    rw [reordered.matchTimeout]
  tables := reordered.agree
  documentRoot := rfl
  serverName := reordered.serverName
  listener := rfl

/-- In any order of the settings either both services cannot be built, for the same reason, or both
are. If the settings are unambiguous, they treat every request alike. -/
theorem build_reordered {s s' : RewriteSettings} (reordered : s.Reordered s') (disk : Disk)
    (root : String) :
    (∃ e, build (some s) disk root = .error e ∧ build (some s') disk root = .error e) ∨
    ∃ service service',
      build (some s) disk root = .ok service ∧ build (some s') disk root = .ok service' ∧
      (s.Unambiguous →
        (∀ request, service.engine.apply request = service'.engine.apply request) ∧
        (∀ r, service.rewrite r = service'.rewrite r) ∧
        ∀ handler r, service.serve handler r = service'.serve handler r) := by
  have start := ofSettings_alike reordered ⟨disk, root⟩
  have builds : Parallel (Alike s.Unambiguous) (build (some s) disk root)
      (build (some s') disk root) := by
    have same : (ofSettings s' ⟨disk, root⟩).addRules s disk =
        (ofSettings s' ⟨disk, root⟩).addRules s' disk := by
      unfold addRules
      rw [reordered.rules, reordered.directiveFiles, reordered.sectionFiles]
    have added := addRules_alike start s disk
    rw [same] at added
    exact added
  generalize build (some s) disk root = built, build (some s') disk root = built' at builds ⊢
  cases builds with
  | error e => exact .inl ⟨e, rfl, rfl⟩
  | @ok service service' alike =>
    exact .inr ⟨service, service', rfl, rfl, fun unambiguous =>
      ⟨alike.engine.apply unambiguous, alike.rewrite unambiguous, alike.serve unambiguous⟩⟩

/-- A document with a rule that replaces the path `/` by a value of the table `m`. -/
def exText : String :=
  "<rewrite><rules><rule patternSyntax='ExactMatch'><match url='/'/>" ++
    "<action type='Rewrite' url='\x7bm:a\x7d'/></rule></rules></rewrite>"

def exDisk : Disk := { top := .directory [("rules", .file exText)] }

/-- Settings with that document and the given tables. -/
def exSettings (tables : List (String × TableSettings)) : RewriteSettings :=
  { sectionFiles := some ["rules"], tables := some tables }

/-- What becomes of the path `/`. -/
def exOutcome (tables : List (String × TableSettings)) : Except ServiceError Outcome :=
  build (some (exSettings tables)) exDisk "" >>= fun service =>
    service.rewrite { uri := { path := ['/'] } }

/-- Tables with keys and names that differ in case only, but with the same values. -/
def exClear : List (String × TableSettings) :=
  [("m", { entries := [("a", "/x"), ("A", "/x"), ("b", "/y")] }),
    ("n", { fallback := some "/z" }), ("N", { fallback := some "/z" })]

/-- The same tables in another order. -/
def exClearReordered : List (String × TableSettings) :=
  [("N", { fallback := some "/z" }), ("n", { fallback := some "/z" }),
    ("m", { entries := [("b", "/y"), ("A", "/x"), ("a", "/x")] })]

theorem exClear_unambiguous : (exSettings exClear).Unambiguous := by
  have entries : ∀ t ∈ exClear, t.2.Unambiguous := by decide +kernel
  have tables : ∀ t ∈ exClear, ∀ t' ∈ exClear, Text.sameFolded t.1 t'.1 = true → t.2 = t'.2 := by
    decide +kernel
  refine ⟨entries, fun t member t' member' same => ?_⟩
  rw [← tables t member t' member' same]
  exact (entries t member).alike (.refl t.2) t.1 t'.1

theorem exClear_reordered : (exSettings exClear).Reordered (exSettings exClearReordered) := by
  refine ⟨rfl, rfl, rfl, rfl, rfl, exClear.reverse, exClear.reverse_perm.symm, ?_⟩
  refine .cons (.refl _) (.cons (.refl _) (.cons ⟨rfl, rfl, ?_⟩ .nil))
  exact (List.reverse_perm [("a", "/x"), ("A", "/x"), ("b", "/y")]).symm

theorem build_reordered_clear :
    (exSettings exClear).Unambiguous ∧
    (exSettings exClear).Reordered (exSettings exClearReordered) ∧
    exOutcome exClear = .ok (.uri { path := "/x".toList }) ∧
    ∃ service service',
      build (some (exSettings exClear)) exDisk "" = .ok service ∧
      build (some (exSettings exClearReordered)) exDisk "" = .ok service' ∧
      ∀ handler r, service.serve handler r = service'.serve handler r := by
  have outcome : exOutcome exClear = .ok (.uri { path := "/x".toList }) := by decide +kernel
  refine ⟨exClear_unambiguous, exClear_reordered, outcome, ?_⟩
  rcases build_reordered exClear_reordered exDisk "" with
    ⟨e, fails, _⟩ | ⟨service, service', here, there, same⟩
  · rw [exOutcome, fails] at outcome
    cases outcome
  · obtain ⟨_, _, serves⟩ := same exClear_unambiguous
    exact ⟨service, service', here, there, serves⟩

/-- Two entries whose keys differ in case only, in both orders. -/
theorem build_order_matters :
    (exSettings [("m", { entries := [("a", "/x"), ("A", "/y")] })]).Reordered
      (exSettings [("m", { entries := [("A", "/y"), ("a", "/x")] })]) ∧
    exOutcome [("m", { entries := [("a", "/x"), ("A", "/y")] })] =
      .ok (.uri { path := "/y".toList }) ∧
    exOutcome [("m", { entries := [("A", "/y"), ("a", "/x")] })] =
      .ok (.uri { path := "/x".toList }) := by
  refine ⟨⟨rfl, rfl, rfl, rfl, rfl, _, .refl _, .cons ⟨rfl, rfl, .swap _ _ _⟩ .nil⟩, ?_, ?_⟩
  · decide +kernel
  · decide +kernel

end Service

end Reroute
