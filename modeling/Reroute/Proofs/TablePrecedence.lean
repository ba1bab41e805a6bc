import Reroute.Proofs.NamedPlaceholders
import Reroute.Proofs.OtherTables
import Reroute.Proofs.RuleTemplates

/-!
# Tables of placeholders

Three rules say what a placeholder with a name stands for. Of the tables of the caller with this
name the last one counts. They hide those of the document, of which the first one counts. And in a
table the last entry with a key gives its value. Names and keys are the same in any case, so that
tables and entries can clash that are spelled in different ways (`used`, `WrittenTable.valueOf`).

Results:
1. `table_lookup`, `find?_addTables`: tables as they are written.
2. `looksUp_of_read`: the lookups of a template; `compiled_iff`: rules are made just if there is a
   table for each name.
3. `placeholder_tables`: the tables of all placeholders in a document.
4. `placeholder_tables_clash`: a document in which names and keys differ in case only.
-/

namespace Reroute

/-- A lookup table as it is written, with all its entries in order. -/
structure WrittenTable where
  name : String
  fallback : Option String := none
  entries : List (String × String) := []
deriving DecidableEq, Repr

namespace WrittenTable

def table (w : WrittenTable) : LookupTable := .ofEntries w.name w.fallback w.entries

/-- The value of the last entry with a key, else the fallback, else nothing. -/
def valueOf (w : WrittenTable) (key : String) : String :=
  match w.entries.reverse.find? fun entry => Text.sameFolded entry.1 key with
  | some entry => entry.2
  | none => w.fallback.getD ""

/-- Looking a key up gives the value that is written for it. -/
theorem table_lookup (w : WrittenTable) : w.table.lookup = w.valueOf := by
  funext key
  unfold table valueOf LookupTable.lookup LookupTable.ofEntries
  dsimp only
  rw [CaselessMap.find?_ofList]
  cases w.entries.reverse.find? fun entry => Text.sameFolded entry.1 key <;> rfl

end WrittenTable

/-- The tables that a caller hands over, of which the last of a name counts. -/
def LookupTables.written (callers : List WrittenTable) : LookupTables :=
  .ofTables (callers.map WrittenTable.table)

theorem LookupTables.find?_written (callers : List WrittenTable) (name : String) :
    (written callers).find? name =
      (callers.reverse.find? fun w => Text.sameFolded w.name name).map WrittenTable.table := by
  unfold written
  rw [ofTables_eq, CaselessMap.find?_ofList, List.map_map, ← List.map_reverse, List.find?_map,
    Option.map_map]
  rfl

namespace RewriteSection

open Reroute.Markup Reroute.Template

/-! ## 1. Tables of documents -/

/-- The entry of an entry element. -/
def writtenEntry (e : Element) : String × String :=
  ((e.attribute? "key").getD "", (e.attribute? "value").getD "")

/-- The table of a map element. -/
def writtenTable (e : Element) : WrittenTable :=
  { name := (e.attribute? "name").getD "", fallback := e.attribute? "defaultValue"
    entries := (e.childrenNamed "add").map writtenEntry }

theorem entry_eq {e : Element} {read : String × String} (reads : entry e = .ok read) :
    read = writtenEntry e := by
  unfold entry at reads
  split at reads
  · next key value =>
    cases reads
    rw [writtenEntry, key, value]
    rfl
  · cases reads

theorem table_eq {e : Element} {t : LookupTable} (reads : table e = .ok t) :
    t = (writtenTable e).table := by
  obtain ⟨name, given, reads⟩ := bind_ok_iff.mp reads
  obtain ⟨entries, each, reads⟩ := bind_ok_iff.mp reads
  cases reads
  have written : (e.childrenNamed "add").map writtenEntry = entries.map id :=
    map_eq_of_related (mapM_ok_iff.mp each) fun _ _ read => (entry_eq read).symm
  unfold WrittenTable.table writtenTable
  rw [written, List.map_id, required_ok given]
  rfl

/-- Tables that are there stay; of those that are added the first of a name counts. -/
theorem find?_addTables {elements : List Element} {tables known : LookupTables}
    (adds : addTables tables elements = .ok known) (name : String) :
    known.find? name = (tables.find? name).or
      (((elements.map writtenTable).find? fun w => Text.sameFolded w.name name).map
        WrittenTable.table) := by
  induction elements generalizing tables with
  | nil =>
    cases adds
    rw [List.map_nil, List.find?_nil, Option.map_none, Option.or_none]
  | cons e rest ih =>
    rw [addTables, List.foldlM_cons, bind_ok_iff] at adds
    obtain ⟨_, here, others⟩ := adds
    obtain ⟨t, reads, rfl⟩ := map_ok_iff.mp here
    rw [ih others, table_eq reads, LookupTables.addMissing, CaselessMap.find?_insertMissing,
      Option.or_assoc, List.map_cons, List.find?_cons]
    show Option.or _ (Option.or (if Text.sameFolded (writtenTable e).name name then _ else _) _) = _
    cases Text.sameFolded (writtenTable e).name name <;> rfl

/-- The table that placeholders of a name use in a rewrite element: that of the caller, else the
first of the first section for maps. -/
def used (callers : List WrittenTable) (root : Element) (name : String) : Option WrittenTable :=
  (callers.reverse.find? fun w => Text.sameFolded w.name name).or
    (((sectionElements root "rewriteMaps" "rewriteMap").map writtenTable).find?
      fun w => Text.sameFolded w.name name)

/-- These are the tables by the names that placeholders use. -/
def Known (known : LookupTables) (callers : List WrittenTable) (root : Element) : Prop :=
  ∀ name, known.find? name = (used callers root name).map WrittenTable.table

theorem known_of_adds {callers : List WrittenTable} {root : Element} {known : LookupTables}
    (adds : addTables (.written callers) (sectionElements root "rewriteMaps" "rewriteMap") =
      .ok known) : Known known callers root := by
  intro name
  rw [find?_addTables adds, LookupTables.find?_written, used, Option.map_or]

variable {callers : List WrittenTable} {root : Element} {known : LookupTables}

theorem Known.none_iff (knows : Known known callers root) {name : String} :
    known.find? name = none ↔ used callers root name = none := by
  rw [knows name, Option.map_eq_none_iff]

/-! ## 2. Placeholders of rules -/

/-- The template has the lookups of its text: for each placeholder with a name one in the table that
is used for it, of what the placeholder holds. -/
structure LooksUp (known : LookupTables) (callers : List WrittenTable) (root : Element)
    (text : String) (t : Template) : Prop where
  read : ofBraced known text = .ok t
  lookups : ∀ name inner, Reaches name inner false text.toList → NoFunction name →
    ∃ w below, used callers root name = some w ∧ inner.resolve known [] = .ok below ∧
      Inside (.lookup w.table below) t

theorem looksUp_of_read (knows : Known known callers root) {text : String} {t : Template}
    (reads : ofBraced known text = .ok t) : LooksUp known callers root text t where
  read := reads
  lookups name inner reaches noFunction := by
    obtain ⟨table, below, found, held, stands⟩ :=
      reaches.lookup noFunction (readAs_of_ofBraced reads)
    rw [knows name, Option.map_eq_some_iff] at found
    obtain ⟨w, uses, rfl⟩ := found
    exact ⟨w, below, uses, held, stands⟩

/-- A text of an enabled rule has a placeholder with this name, at this element. -/
def AsksAt (root : Element) (name : String) (x : Element) : Prop :=
  NoFunction name ∧ ∃ r ∈ enabledElements root, ∃ text, (x, text) ∈ templateTexts r.element ∧
    ∃ inner, Reaches name inner false text.toList

variable {options : RuleOptions}

/-- Rules are made only if there is a table for each name. -/
theorem used_of_compiled (knows : Known known callers root) {rules : List Rule}
    (compiles : (enabledElements root).mapM (RuleElement.compile known options) = .ok rules)
    {name : String} {x : Element} (asks : AsksAt root name x) :
    (used callers root name).isSome = true := by
  obtain ⟨noFunction, r, member, text, written, inner, reaches⟩ := asks
  obtain ⟨made, _, compiled⟩ := exists_related (mapM_ok_iff.mp compiles) member
  obtain ⟨t, _, reads⟩ := exists_related (compile_templates compiled) written
  obtain ⟨w, _, uses, _⟩ := (looksUp_of_read knows reads).lookups name inner reaches noFunction
  exact Option.isSome_iff_exists.mpr ⟨w, uses⟩

/-- A fault for a name is at a placeholder with this name. -/
theorem asksAt_of_error (knows : Known known callers root) {x : Element} {name : String}
    (fails : (enabledElements root).mapM (RuleElement.compile known options) =
      .error (x, .template (.unknownFunction name))) :
    AsksAt root name x ∧ used callers root name = none := by
  obtain ⟨front, r, back, whole, _, here⟩ := mapM_error_iff.mp fails
  obtain ⟨⟨x, text⟩, written, rfl, refused⟩ := compile_template_error here
  obtain ⟨reaches, noFunction, unknown⟩ := unknown_of_ofBraced refused
  have member : r ∈ enabledElements root := by
    rw [whole]
    exact List.mem_append_right _ List.mem_cons_self
  exact ⟨⟨noFunction, r, member, text, written, reaches⟩, knows.none_iff.mp unknown⟩

/-- If rules are made with other tables, there is nothing wrong but names without a table. -/
theorem unknown_of_others {other : LookupTables} {rules : List Rule}
    (others : (enabledElements root).mapM (RuleElement.compile other options) = .ok rules)
    {x : Element} {fault : SectionFault}
    (fails : (enabledElements root).mapM (RuleElement.compile known options) =
      .error (x, fault)) :
    ∃ name, fault = .template (.unknownFunction name) := by
  rcases (compile_follows known other options _).ok_or others with
    ⟨made, makes, _⟩ | ⟨found, refused, cause, isTemplate, name, isUnknown, _⟩
  · rw [makes] at fails
    cases fails
  · rw [refused] at fails
    cases fails
    exact ⟨name, isTemplate.trans (congrArg _ isUnknown)⟩

theorem compiled_iff (knows : Known known callers root) {other : LookupTables}
    {rules : List Rule}
    (others : (enabledElements root).mapM (RuleElement.compile other options) = .ok rules) :
    (∃ made, (enabledElements root).mapM (RuleElement.compile known options) = .ok made) ↔
      ∀ name x, AsksAt root name x → (used callers root name).isSome = true := by
  constructor
  · rintro ⟨made, makes⟩ name x
    exact used_of_compiled knows makes
  · intro all
    cases outcome : (enabledElements root).mapM (RuleElement.compile known options) with
    | ok made => exact ⟨made, rfl⟩
    | error found =>
      obtain ⟨x, fault⟩ := found
      obtain ⟨name, rfl⟩ := unknown_of_others others outcome
      obtain ⟨asks, unused⟩ := asksAt_of_error knows outcome
      have uses := all name x asks
      rw [unused] at uses
      cases uses

/-! ## 3. Documents -/

/-- What the tables of a caller and those of a document are for the rules of the document. -/
structure TablesByName (text : String) (root : Element) (callers : List WrittenTable)
    (options : RuleOptions) (known : LookupTables) : Prop where
  tables : Known known callers root
  /-- A lookup gives the value that is written for the expanded key. -/
  values : ∀ (w : WrittenTable) (s : Scene) (below : Template),
    expandSegment s (.lookup w.table below) = (expand s below).map w.valueOf
  /-- In an accepted document each template has the lookups of its text. -/
  accepted : ∀ rules, readRules text (.written callers) options = .ok rules →
    List.Forall₂ (fun r made => List.Forall₂
        (fun written t => LooksUp known callers root written.2 t) (templateTexts r.element)
        (Rule.templates made))
      (enabledElements root) rules
  /-- A document is refused if there is a name without a table. -/
  needed : ∀ name x, AsksAt root name x → used callers root name = none →
    ∃ e, readRules text (.written callers) options = .error e
  /-- A document is refused for a name only at a placeholder with it, and if it has no table. -/
  refused : ∀ place name,
    readRules text (.written callers) options =
      .error (.fault place (.template (.unknownFunction name))) →
    ∃ x, AsksAt root name x ∧ place = placeOf text x ∧ used callers root name = none
  /-- If nothing else is wrong, as other tables show, the document is accepted just if there is a
  table for each name, and else it is refused for a name. -/
  decided : ∀ other rules, readRules text other options = .ok rules →
    ((∃ made, readRules text (.written callers) options = .ok made) ↔
      ∀ name x, AsksAt root name x → (used callers root name).isSome = true) ∧
    ∀ e, readRules text (.written callers) options = .error e →
      ∃ place name, e = .fault place (.template (.unknownFunction name))

/-- A placeholder uses the table of its name that comes first: of the caller, else of the document,
whose first section for maps counts, before or behind the rules. The document is refused for a
placeholder just if there is no such table. -/
theorem placeholder_tables {text : String} {document root : Element}
    (reads : readDocument text = some document) (first : document.first? "rewrite" = some root)
    (valid : ∀ e ∈ sectionElements root "rewriteMaps" "rewriteMap", IsTable e)
    (callers : List WrittenTable) (options : RuleOptions) :
    ∃ known, addTables (.written callers) (sectionElements root "rewriteMaps" "rewriteMap") =
        .ok known ∧
      TablesByName text root callers options known := by
  obtain ⟨known, adds⟩ := addTables_of_isTable (.written callers) valid
  have knows := known_of_adds adds
  have accepts_iff : ∀ {rules}, readRules text (.written callers) options = .ok rules ↔
      (enabledElements root).mapM (RuleElement.compile known options) = .ok rules := by
    intro rules
    rw [readRules_eq reads first adds options, mapError_ok_iff]
  have refuses_iff : ∀ {e}, readRules text (.written callers) options = .error e ↔
      ∃ found, (enabledElements root).mapM (RuleElement.compile known options) = .error found ∧
        .fault (placeOf text found.1) found.2 = e := by
    intro e
    rw [readRules_eq reads first adds options, mapError_error_iff]
  refine ⟨known, adds, knows, fun w s below => ?_, fun rules accepts => ?_,
    fun name x asks unused => ?_, fun place name refuses => ?_, fun other rules others => ?_⟩
  · rw [expandSegment, WrittenTable.table_lookup]
  · refine (mapM_ok_iff.mp (accepts_iff.mp accepts)).imp fun r made compiles => ?_
    exact (compile_templates compiles).imp fun _ _ => looksUp_of_read knows
  · cases outcome : readRules text (.written callers) options with
    | error e => exact ⟨e, rfl⟩
    | ok rules =>
      have uses := used_of_compiled knows (accepts_iff.mp outcome) asks
      rw [unused] at uses
      cases uses
  · obtain ⟨⟨x, fault⟩, fails, same⟩ := refuses_iff.mp refuses
    obtain ⟨rfl, rfl⟩ := SectionError.fault.inj same
    obtain ⟨asks, unused⟩ := asksAt_of_error knows fails
    exact ⟨x, asks, rfl, unused⟩
  · obtain ⟨known', adds'⟩ := addTables_of_isTable other valid
    rw [readRules_eq reads first adds' options, mapError_ok_iff] at others
    refine ⟨?_, fun e refuses => ?_⟩
    · simp only [accepts_iff]
      exact compiled_iff knows others
    · obtain ⟨⟨x, fault⟩, fails, rfl⟩ := refuses_iff.mp refuses
      obtain ⟨name, rfl⟩ := unknown_of_others others fails
      exact ⟨_, name, rfl⟩

/-! ## 4. Tables that clash -/

/-- The text of the url of a rule. -/
def exKeys : String := "\x7bmaße:\x7bK:a\x7d\x7d\x7bown:\x7d"

/-- A document with a rule, and behind it two tables of one name and one that the caller has. -/
def exClash : String := String.ofList (
  (["<rewrite>", "<rules>", "<rule patternSyntax='ExactMatch'>", "<match url='/'/>",
    "<action url='", exKeys, "'/>", "</rule>", "</rules>", "<rewriteMaps>",
    "<rewriteMap name='k'>", "<add key='a' value='b'/>", "<add key='A' value='c'/>",
    "</rewriteMap>", "<rewriteMap name='K'/>", "<rewriteMap name='maSSe'/>", "</rewriteMaps>",
    "</rewrite>"]).flatMap String.toList)

def exAction : Element := .mk "action" [⟨none, "url", exKeys⟩] [] 65

def exRule : Element :=
  .mk "rule" [⟨none, "patternSyntax", "ExactMatch"⟩]
    [.mk "match" [⟨none, "url", "/"⟩] [] 49, exAction] 16

def exClashTree : Element :=
  .mk "rewrite" [] [
    .mk "rules" [] [exRule] 9,
    .mk "rewriteMaps" [] [
      .mk "rewriteMap" [⟨none, "name", "k"⟩] [
        .mk "add" [⟨none, "key", "a"⟩, ⟨none, "value", "b"⟩] [] 148,
        .mk "add" [⟨none, "key", "A"⟩, ⟨none, "value", "c"⟩] [] 172] 127,
      .mk "rewriteMap" [⟨none, "name", "K"⟩] [] 209,
      .mk "rewriteMap" [⟨none, "name", "maSSe"⟩] [] 231] 114] 0

def exCallers : List WrittenTable :=
  [{ name := "MASSE", entries := [("C", "d")] }, { name := "OWN", fallback := some "e" }]

theorem exClash_reads : readDocument exClash = some exClashTree := by
  unfold exClash readDocument
  rw [String.toList_ofList]
  decide +kernel

/-- The placeholder inside of the first placeholder of the url. -/
theorem exClash_asks : AsksAt exClashTree "K" exAction := by
  have rules : sectionElements exClashTree "rules" "rule" = [exRule] := by decide +kernel
  have global : sectionElements exClashTree "globalRules" "rule" = [] := by decide +kernel
  have enabled : isDisabled exRule = false := by decide +kernel
  have texts : templateTexts exRule = [(exAction, exKeys)] := by decide +kernel
  have outer : Unmarked "maße" := by
    unfold Unmarked
    simp
  have name : Unmarked "K" := by
    unfold Unmarked
    simp
  have inner : Spelled true (.char 'a' .nil) ['a'] :=
    .char (by decide) (by decide) (fun _ => by decide) .nil
  have shape : exKeys.toList = '\x7b' :: ("maße".toList ++ ':' ::
      ('\x7b' :: ("K".toList ++ ':' :: (['a'] ++ '\x7d' :: "\x7d\x7bown:\x7d".toList)))) := by
    simp [exKeys]
  refine ⟨fun f => by cases f <;> decide, ⟨false, exRule⟩, ?_, exKeys, ?_, .char 'a' .nil, ?_⟩
  · simp [enabledElements, ruleElements, rules, global, enabled]
  · simp [texts]
  · rw [shape]
    exact .within outer (by decide) (.here name (by decide) inner)

/-- The table of the caller hides that of the document, whose name is spelled in another way, the
first table of the document hides the second, and the last entry counts. Without the caller there is
a name without a table. -/
theorem placeholder_tables_clash :
    readDocument exClash = some exClashTree ∧
    (∀ e ∈ sectionElements exClashTree "rewriteMaps" "rewriteMap", IsTable e) ∧
    (∃ known, TablesByName exClash exClashTree exCallers {} known) ∧
    AsksAt exClashTree "K" exAction ∧
    (used exCallers exClashTree "maße").map (·.valueOf "c") = some "d" ∧
    (used exCallers exClashTree "K").map (·.valueOf "a") = some "c" ∧
    (readRules exClash (.written exCallers) {}).toOption.map List.length = some 1 ∧
    used [] exClashTree "own" = none ∧
    (readRules exClash (.written []) {}).map List.length =
      .error (.fault ⟨1, 66⟩ (.template (.unknownFunction "own"))) := by
  have first : exClashTree.first? "rewrite" = some exClashTree := by decide +kernel
  have valid : ∀ e ∈ sectionElements exClashTree "rewriteMaps" "rewriteMap", IsTable e := by
    decide +kernel
  obtain ⟨known, _, byName⟩ := placeholder_tables exClash_reads first valid exCallers {}
  refine ⟨exClash_reads, valid, ⟨known, byName⟩, exClash_asks, by decide +kernel,
    by decide +kernel, ?_, by decide +kernel, ?_⟩
  · rw [readRules, exClash_reads]
    decide +kernel
  · rw [readRules, exClash_reads]
    unfold placeOf exClash
    simp only [String.toList_ofList]
    decide +kernel

end RewriteSection

end Reroute
