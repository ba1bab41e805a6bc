import Mathlib.Data.List.Forall2
import Mathlib.Data.List.Induction
import Reroute.Configuration.Load

/-!
# Tables with caseless keys

The keys of settings are told apart by their case, but not those of the tables made from them. So
the order of the settings counts as soon as two keys differ in case only: the last one gives the
value. `Unambiguous` settings have the same value for such keys, and the same table for such names.

Results:
1. `find?_insert`, `find?_insertMissing`, `find?_ofList`: what a caseless map holds.
2. `find?_rel`, `Agree.addMissing`: maps that are related at every key, and tables that agree.
3. `Reordered.agree`: settings in another order; `unambiguous_iff`: settings are unambiguous just if
   the order of their tables and of the entries in them makes no difference.
-/

namespace Reroute

/-! ## 1. Caseless maps -/

namespace Text

theorem sameFolded_iff {a b : String} :
    sameFolded a b = true ↔ foldList a.toList = foldList b.toList :=
  beq_iff_eq

theorem sameFolded_refl (a : String) : sameFolded a a = true := sameFolded_iff.mpr rfl

theorem sameFolded_symm {a b : String} (same : sameFolded a b = true) : sameFolded b a = true :=
  sameFolded_iff.mpr (sameFolded_iff.mp same).symm

theorem sameFolded_trans {a b c : String} (first : sameFolded a b = true)
    (second : sameFolded b c = true) : sameFolded a c = true :=
  sameFolded_iff.mpr ((sameFolded_iff.mp first).trans (sameFolded_iff.mp second))

theorem sameFolded_congr {a b : String} (same : sameFolded a b = true) (key : String) :
    sameFolded a key = sameFolded b key := by
  unfold sameFolded
  rw [sameFolded_iff.mp same]

end Text

namespace CaselessMap

variable {α β : Type}

theorem find?_congr (m : CaselessMap α) {key key' : String}
    (same : Text.sameFolded key key' = true) : m.find? key = m.find? key' := by
  unfold find? Text.sameFolded
  rw [Text.sameFolded_iff.mp same]

theorem find?_insertIn (key : String) (value : α) (entries : List (String × α)) (other : String) :
    ((insertIn key value entries).find? fun entry => Text.sameFolded entry.1 other).map (·.2) =
      if Text.sameFolded key other then some value
      else (entries.find? fun entry => Text.sameFolded entry.1 other).map (·.2) := by
  induction entries with
  | nil =>
    rw [insertIn, List.find?_cons]
    cases Text.sameFolded key other <;> rfl
  | cons entry rest ih =>
    rw [insertIn]
    cases taken : Text.sameFolded entry.1 key with
    | true =>
      -- The key is there: its spelling stays, and its value is replaced.
      rw [if_pos rfl, List.find?_cons, List.find?_cons, Text.sameFolded_congr taken other]
      cases Text.sameFolded key other <;> rfl
    | false =>
      rw [if_neg Bool.false_ne_true, List.find?_cons, List.find?_cons]
      cases here : Text.sameFolded entry.1 other with
      | false => exact ih
      | true =>
        have differs : Text.sameFolded key other = false := by
          rw [← Bool.not_eq_true]
          intro same
          rw [Text.sameFolded_trans here (Text.sameFolded_symm same)] at taken
          cases taken
        rw [differs]
        rfl

theorem find?_insert (m : CaselessMap α) (key : String) (value : α) (other : String) :
    (m.insert key value).find? other =
      if Text.sameFolded key other then some value else m.find? other :=
  find?_insertIn key value m.entries other

/-- What was there before stays. -/
theorem find?_insertMissing (m : CaselessMap α) (key : String) (value : α) (other : String) :
    (m.insertMissing key value).find? other =
      (m.find? other).or (if Text.sameFolded key other then some value else none) := by
  unfold insertMissing contains
  cases there : m.find? key with
  | some found =>
    rw [Option.isSome_some, if_pos rfl]
    cases same : Text.sameFolded key other with
    | false => rw [if_neg Bool.false_ne_true, Option.or_none]
    | true =>
      rw [← m.find?_congr same, there]
      rfl
  | none =>
    rw [Option.isSome_none, if_neg Bool.false_ne_true, find?_insert]
    cases same : Text.sameFolded key other with
    | false => rw [if_neg Bool.false_ne_true, if_neg Bool.false_ne_true, Option.or_none]
    | true =>
      rw [← m.find?_congr same, there]
      rfl

theorem ofList_concat (pairs : List (String × α)) (pair : String × α) :
    ofList (pairs ++ [pair]) = (ofList pairs).insert pair.1 pair.2 := by
  unfold ofList
  rw [List.foldl_concat]

/-- The last of equal keys gives the value. -/
theorem find?_ofList (pairs : List (String × α)) (key : String) :
    (ofList pairs).find? key =
      (pairs.reverse.find? fun pair => Text.sameFolded pair.1 key).map (·.2) := by
  induction pairs using List.reverseRecOn with
  | nil => rfl
  | append_singleton pairs pair ih =>
    rw [ofList_concat, find?_insert, ih, List.reverse_append, List.reverse_singleton,
      List.singleton_append, List.find?_cons]
    cases Text.sameFolded pair.1 key <;> rfl

/-! ## 2. Tables that agree -/

/-- Maps made from pairs with the same keys are related at every key, if the values of equal keys
are. -/
theorem find?_rel {R : α → β → Prop} {pairs : List (String × α)} {others : List (String × β)}
    (keys : ∀ key, (∃ pair ∈ pairs, Text.sameFolded pair.1 key = true) ↔
      ∃ other ∈ others, Text.sameFolded other.1 key = true)
    (values : ∀ pair ∈ pairs, ∀ other ∈ others,
      Text.sameFolded pair.1 other.1 = true → R pair.2 other.2) (key : String) :
    Option.Rel R ((ofList pairs).find? key) ((ofList others).find? key) := by
  rw [find?_ofList, find?_ofList]
  have inside : ∀ {γ : Type} {entries : List (String × γ)} {entry : String × γ},
      (entries.reverse.find? fun entry => Text.sameFolded entry.1 key) = some entry →
        entry ∈ entries ∧ Text.sameFolded entry.1 key = true := by
    intro γ entries entry found
    have same := List.find?_some found
    exact ⟨List.mem_reverse.mp (List.mem_of_find?_eq_some found), same⟩
  cases found : pairs.reverse.find? fun pair => Text.sameFolded pair.1 key with
  | none =>
    cases found' : others.reverse.find? fun other => Text.sameFolded other.1 key with
    | none => exact .none
    | some other =>
      obtain ⟨pair, member, same⟩ := (keys key).mpr ⟨other, inside found'⟩
      exact absurd same (List.find?_eq_none.mp found pair (List.mem_reverse.mpr member))
  | some pair =>
    obtain ⟨member, same⟩ := inside found
    cases found' : others.reverse.find? fun other => Text.sameFolded other.1 key with
    | none =>
      obtain ⟨other, member', same'⟩ := (keys key).mp ⟨pair, member, same⟩
      exact absurd same' (List.find?_eq_none.mp found' other (List.mem_reverse.mpr member'))
    | some other =>
      obtain ⟨member', same'⟩ := inside found'
      exact .some (values pair member other member'
        (Text.sameFolded_trans same (Text.sameFolded_symm same')))

end CaselessMap

namespace LookupTable

/-- Tables that give the same value for every key. -/
def Alike (t t' : LookupTable) : Prop := ∀ key, t.lookup key = t'.lookup key

theorem Alike.symm {t t' : LookupTable} (alike : t.Alike t') : t'.Alike t :=
  fun key => (alike key).symm

theorem Alike.trans {t t' t'' : LookupTable} (first : t.Alike t') (second : t'.Alike t'') :
    t.Alike t'' :=
  fun key => (first key).trans (second key)

end LookupTable

namespace LookupTables

/-- The same names have tables. If `clear` holds, tables of the same name are alike. -/
def Agree (clear : Prop) (tables tables' : LookupTables) : Prop :=
  ∀ name, Option.Rel (fun t t' => clear → LookupTable.Alike t t') (tables.find? name)
    (tables'.find? name)

variable {clear clear' : Prop} {tables tables' : LookupTables}

theorem Agree.mono (agree : Agree clear tables tables') (enough : clear' → clear) :
    Agree clear' tables tables' := by
  intro name
  have here := agree name
  generalize tables.find? name = found, tables'.find? name = found' at here ⊢
  cases here with
  | none => exact .none
  | some alike => exact .some fun holds => alike (enough holds)

theorem Agree.addMissing (agree : Agree clear tables tables') (table : LookupTable) :
    Agree clear (tables.addMissing table) (tables'.addMissing table) := by
  intro name
  unfold LookupTables.addMissing
  rw [CaselessMap.find?_insertMissing, CaselessMap.find?_insertMissing]
  have here := agree name
  generalize tables.find? name = found, tables'.find? name = found' at here
  cases here with
  | some alike => exact .some alike
  | none =>
    rw [Option.none_or]
    cases Text.sameFolded table.name name with
    | false => exact .none
    | true => exact .some fun _ _ => rfl

theorem ofTables_eq (tables : List LookupTable) :
    ofTables tables = .ofList (tables.map fun table => (table.name, table)) := by
  unfold ofTables CaselessMap.ofList
  rw [List.foldl_map]
  rfl

end LookupTables

/-! ## 3. Tables of settings -/

theorem exists_related {α β : Type} {R : α → β → Prop} {xs : List α} {ys : List β}
    (related : List.Forall₂ R xs ys) {x : α} (member : x ∈ xs) : ∃ y ∈ ys, R x y := by
  induction related with
  | nil => cases member
  | @cons x' y xs ys here _ ih =>
    rcases List.mem_cons.mp member with rfl | later
    · exact ⟨y, List.mem_cons_self, here⟩
    · obtain ⟨z, inside, found⟩ := ih later
      exact ⟨z, List.mem_cons_of_mem y inside, found⟩

namespace TableSettings

/-- Keys that differ in case only have the same value. -/
def Unambiguous (t : TableSettings) : Prop :=
  ∀ entry ∈ t.entries, ∀ other ∈ t.entries,
    Text.sameFolded entry.1 other.1 = true → entry.2 = other.2

instance (t : TableSettings) : Decidable t.Unambiguous :=
  inferInstanceAs (Decidable (∀ entry ∈ t.entries, ∀ other ∈ t.entries, _))

/-- The same table, with its entries in another order. -/
structure Reordered (t t' : TableSettings) : Prop where
  fallback : t.fallback = t'.fallback
  entries : t.entries.Perm t'.entries

theorem Reordered.refl (t : TableSettings) : t.Reordered t := ⟨rfl, .refl _⟩

theorem toTable_lookup_last (name : String) (t : TableSettings) (entries : List (String × String))
    (entry : String × String) :
    (toTable name { t with entries := entries ++ [entry] }).lookup entry.1 = entry.2 := by
  unfold toTable LookupTable.ofEntries LookupTable.lookup
  dsimp only
  rw [CaselessMap.ofList_concat, CaselessMap.find?_insert, Text.sameFolded_refl, if_pos rfl]
  rfl

theorem Unambiguous.alike {t t' : TableSettings} (unambiguous : t.Unambiguous)
    (reordered : t.Reordered t') (name name' : String) :
    (t.toTable name).Alike (t'.toTable name') := by
  intro key
  have values : Option.Rel Eq ((CaselessMap.ofList t.entries).find? key)
      ((CaselessMap.ofList t'.entries).find? key) := by
    refine CaselessMap.find?_rel (fun key => ?_) (fun entry member other member' => ?_) key
    · simp only [reordered.entries.mem_iff]
    · exact unambiguous entry member other (reordered.entries.mem_iff.mpr member')
  unfold toTable LookupTable.ofEntries LookupTable.lookup
  dsimp only
  rw [reordered.fallback]
  generalize (CaselessMap.ofList t.entries).find? key = found,
    (CaselessMap.ofList t'.entries).find? key = found' at values
  cases values with
  | some same => rw [same]
  | none => rfl

end TableSettings

namespace RewriteSettings

/-- The tables with their names. Settings may leave them out, and have none then. -/
def tableList (s : RewriteSettings) : List (String × TableSettings) := s.tables.getD []

/-- Keys of a table that differ in case only have the same value, and tables whose names differ in
case only give the same values. -/
structure Unambiguous (s : RewriteSettings) : Prop where
  entries : ∀ t ∈ s.tableList, t.2.Unambiguous
  names : ∀ t ∈ s.tableList, ∀ t' ∈ s.tableList, Text.sameFolded t.1 t'.1 = true →
    (t.2.toTable t.1).Alike (t'.2.toTable t'.1)

/-- Tables of the same name, of which one is the other with its entries in another order. -/
def SameTable (t t' : String × TableSettings) : Prop := t.1 = t'.1 ∧ t.2.Reordered t'.2

theorem SameTable.refl (t : String × TableSettings) : SameTable t t := ⟨rfl, .refl _⟩

/-- The same settings, with the tables and the entries of each table in another order. -/
structure Reordered (s s' : RewriteSettings) : Prop where
  rules : s.rules = s'.rules
  directiveFiles : s.directiveFiles = s'.directiveFiles
  sectionFiles : s.sectionFiles = s'.sectionFiles
  serverName : s.serverName = s'.serverName
  matchTimeout : s.matchTimeout = s'.matchTimeout
  tables : ∃ between, s.tableList.Perm between ∧ List.Forall₂ SameTable between s'.tableList

theorem Reordered.members {s s' : RewriteSettings} (reordered : s.Reordered s') :
    (∀ t ∈ s.tableList, ∃ t' ∈ s'.tableList, SameTable t t') ∧
      ∀ t' ∈ s'.tableList, ∃ t ∈ s.tableList, SameTable t t' := by
  obtain ⟨between, permuted, tables⟩ := reordered.tables
  refine ⟨fun t member => ?_, fun t' member' => ?_⟩
  · exact exists_related tables (permuted.mem_iff.mp member)
  · obtain ⟨t, member, same⟩ := exists_related tables.flip member'
    exact ⟨t, permuted.mem_iff.mpr member, same⟩

theorem lookupTables_eq (s : RewriteSettings) :
    s.lookupTables = .ofList (s.tableList.map fun t => (t.1, t.2.toTable t.1)) := by
  unfold lookupTables tableList
  rw [LookupTables.ofTables_eq, List.map_map]
  rfl

/-- In any order the same names have tables, and for unambiguous settings they are alike. -/
theorem Reordered.agree {s s' : RewriteSettings} (reordered : s.Reordered s') :
    s.lookupTables.Agree s.Unambiguous s'.lookupTables := by
  obtain ⟨forth, back⟩ := reordered.members
  intro name
  rw [lookupTables_eq, lookupTables_eq]
  refine CaselessMap.find?_rel (fun key => ?_) (fun pair member other member' same => ?_) name
  · constructor
    · rintro ⟨_, member, same⟩
      obtain ⟨t, inside, rfl⟩ := List.mem_map.mp member
      obtain ⟨t', inside', named, _⟩ := forth t inside
      exact ⟨_, List.mem_map_of_mem inside', named ▸ same⟩
    · rintro ⟨_, member, same⟩
      obtain ⟨t', inside', rfl⟩ := List.mem_map.mp member
      obtain ⟨t, inside, named, _⟩ := back t' inside'
      exact ⟨_, List.mem_map_of_mem inside, named.symm ▸ same⟩
  · intro unambiguous
    obtain ⟨t, inside, rfl⟩ := List.mem_map.mp member
    obtain ⟨t', inside', rfl⟩ := List.mem_map.mp member'
    -- The other table is a reordering of a table here, which has the same name.
    obtain ⟨origin, inside'', named, entries⟩ := back t' inside'
    have equal : Text.sameFolded t.1 origin.1 = true := by
      rw [named]
      exact same
    exact (unambiguous.names t inside origin inside'' equal).trans
      ((unambiguous.entries origin inside'').alike entries origin.1 t'.1)

/-- A table can be moved to the end, where it hides all others of its name. -/
theorem exists_reordered_last {s : RewriteSettings} {t : String × TableSettings}
    (member : t ∈ s.tableList) {moved : TableSettings} (entries : t.2.Reordered moved) :
    ∃ s', s.Reordered s' ∧ s'.lookupTables.find? t.1 = some (moved.toTable t.1) := by
  obtain ⟨front, back, whole⟩ := List.append_of_mem member
  refine ⟨{ s with tables := some (front ++ back ++ [(t.1, moved)]) },
    ⟨rfl, rfl, rfl, rfl, rfl, front ++ back ++ [t], ?_, ?_⟩, ?_⟩
  · rw [whole, List.append_assoc]
    exact (List.perm_append_singleton t back).symm.append_left front
  · refine List.rel_append ?_ (.cons ⟨rfl, entries⟩ .nil)
    exact List.forall₂_same.mpr fun other _ => .refl other
  · rw [lookupTables_eq]
    show (CaselessMap.ofList ((front ++ back ++ [(t.1, moved)]).map _)).find? t.1 = _
    rw [List.map_append, List.map_singleton, CaselessMap.ofList_concat, CaselessMap.find?_insert,
      Text.sameFolded_refl, if_pos rfl]

/-- Settings are unambiguous just if their order makes no difference to the tables. -/
theorem unambiguous_iff {s : RewriteSettings} :
    s.Unambiguous ↔ ∀ s', s.Reordered s' → s.lookupTables.Agree True s'.lookupTables := by
  constructor
  · intro unambiguous s' reordered
    exact reordered.agree.mono fun _ => unambiguous
  intro agrees
  have last : ∀ t ∈ s.tableList, ∀ moved, t.2.Reordered moved → ∃ table,
      s.lookupTables.find? t.1 = some table ∧ table.Alike (moved.toTable t.1) := by
    intro t member moved entries
    obtain ⟨s', reordered, found⟩ := exists_reordered_last member entries
    have here := agrees s' reordered t.1
    rw [found] at here
    generalize s.lookupTables.find? t.1 = table at here ⊢
    cases here with
    | some alike => exact ⟨_, rfl, alike trivial⟩
  refine ⟨fun t member entry inside other inside' same => ?_, fun t member t' member' same => ?_⟩
  · -- Either of the two entries can be the last one of the table.
    have lastEntry : ∀ entry ∈ t.2.entries, ∃ table, s.lookupTables.find? t.1 = some table ∧
        table.lookup entry.1 = entry.2 := by
      intro entry inside
      obtain ⟨front, back, whole⟩ := List.append_of_mem inside
      obtain ⟨table, found, alike⟩ := last t member
        { t.2 with entries := front ++ back ++ [entry] } ⟨rfl, by
          rw [whole, List.append_assoc]
          exact (List.perm_append_singleton entry back).symm.append_left front⟩
      have value := TableSettings.toTable_lookup_last t.1 t.2 (front ++ back) entry
      exact ⟨table, found, (alike entry.1).trans value⟩
    obtain ⟨table, found, value⟩ := lastEntry entry inside
    obtain ⟨table', found', value'⟩ := lastEntry other inside'
    cases found.symm.trans found'
    rw [← value, ← value', LookupTable.lookup, LookupTable.lookup,
      table.entries.find?_congr same]
  · obtain ⟨table, found, alike⟩ := last t member t.2 (.refl _)
    obtain ⟨table', found', alike'⟩ := last t' member' t'.2 (.refl _)
    rw [CaselessMap.find?_congr _ same] at found
    cases found.symm.trans found'
    exact alike.symm.trans alike'

end RewriteSettings

end Reroute
