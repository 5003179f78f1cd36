import SchemaMigration.Proofs.Inspection
import SchemaMigration.Proofs.Replay

/-
  The round trip of a table through the catalog.

  A blueprint creates a table, the catalog shows the table by rows, inspection
  reads the rows as a snapshot, and the calls of the snapshot fill a blueprint
  again. The second blueprint need not be the first one: a key column that no short
  form declares comes back as a primary index, and a primary index over a counting
  key as its short form. The keys as indexes are the same either way, and so is the
  statement.

  Main statement: `createStatement_of_inspected`, the blueprint that comes back
  creates the table by the same statement.
-/
namespace SchemaMigration.Schema

open Text Sql Table Database Catalog

/-- A blueprint that the catalog shows in full. A table option is shown as it is, but
one that differs from the default in letter case only is taken for the default. -/
structure SurvivesCatalog (b : Blueprint) : Prop where
  columnNames : (b.columns.map (·.name)).Nodup
  indexNames : (b.indexes.map (·.name)).Nodup
  foreignKeyNames : (b.foreignKeys.map (·.name)).Nodup
  primaryName : ∀ i ∈ b.indexes, i.kind = .primary ↔ i.name = "PRIMARY"
  foreignKeyName : ∀ fk ∈ b.foreignKeys, fk.name ≠ "PRIMARY"
  primaryFirst : ∀ i ∈ b.indexes.tail, i.kind ≠ .primary
  keyNames : ∀ i ∈ b.indexes, ∀ fk ∈ b.foreignKeys, i.name ≠ fk.name
  columns : ∀ c ∈ b.columns, ShowsColumn c
  engine : b.engine = defaultEngine ∨ sameName b.engine defaultEngine = false
  charset : b.charset = defaultCharset ∨ sameName b.charset defaultCharset = false
  collation : b.collation = defaultCollation ∨ sameName b.collation defaultCollation = false
  comment : b.comment ≠ some ""

section
variable {b : Blueprint}

/-! ## Keys -/

theorem mem_keyIndexes {i : Index} (h : i ∈ b.keyIndexes) :
    (∃ name, b.primaryColumn = some name ∧ i = ⟨.primary, "PRIMARY", [name]⟩) ∨ i ∈ b.indexes := by
  rcases List.mem_append.1 h with h | h
  · obtain ⟨name, hname, rfl⟩ := List.mem_map.1 h
    exact .inl ⟨name, Option.mem_toList.1 hname, rfl⟩
  · exact .inr h

/-- A declared index is no primary key beside a key column. -/
theorem not_primary_of_primaryColumn (hcheck : b.check = .ok ()) (h : b.primaryColumn.isSome) :
    ∀ i ∈ b.indexes, i.kind ≠ .primary := by
  -- The check counts the key column as one primary key and allows no second.
  obtain ⟨-, -, -, hone, -⟩ := Blueprint.check_eq_ok_iff.1 hcheck
  rw [← Blueprint.primaryKeys_eq, Blueprint.primaryKeys, if_pos h] at hone
  have hnone : b.indexes.countP (·.kind == .primary) = 0 := by omega
  intro i hi hprimary
  exact List.countP_eq_zero.1 hnone i hi (by simp [hprimary])

theorem keyIndexes_primary (h : SurvivesCatalog b) :
    ∀ i ∈ b.keyIndexes, i.kind = .primary ↔ i.name = "PRIMARY" := by
  intro i hi
  rcases mem_keyIndexes hi with ⟨name, -, rfl⟩ | hi
  · exact iff_of_true rfl rfl
  · exact h.primaryName i hi

theorem keyIndexes_tail (h : SurvivesCatalog b) (hcheck : b.check = .ok ()) :
    ∀ i ∈ b.keyIndexes.tail, i.kind ≠ .primary := by
  cases hkey : b.primaryColumn with
  | none =>
    rw [Blueprint.keyIndexes, hkey]
    exact h.primaryFirst
  | some name =>
    rw [Blueprint.keyIndexes, hkey]
    exact not_primary_of_primaryColumn hcheck (by rw [hkey]; rfl)

theorem keyIndexes_nodup (h : SurvivesCatalog b) (hcheck : b.check = .ok ()) :
    (b.keyIndexes.map (·.name)).Nodup := by
  cases hkey : b.primaryColumn with
  | none =>
    rw [Blueprint.keyIndexes, hkey]
    exact h.indexNames
  | some name =>
    rw [Blueprint.keyIndexes, hkey]
    refine List.nodup_cons.2 ⟨fun hmem => ?_, h.indexNames⟩
    obtain ⟨i, hi, hname⟩ := List.mem_map.1 hmem
    exact not_primary_of_primaryColumn hcheck (by rw [hkey]; rfl) i hi ((h.primaryName i hi).2 hname)

/-- The index of a foreign key has no name of another key. -/
theorem name_ne_of_keyIndexes (h : SurvivesCatalog b) {i : Index} (hi : i ∈ b.keyIndexes)
    {fk : ForeignKey} (hfk : fk ∈ b.foreignKeys) : i.name ≠ fk.name := by
  rcases mem_keyIndexes hi with ⟨name, -, rfl⟩ | hi
  · exact (h.foreignKeyName fk hfk).symm
  · exact h.keyNames i hi fk hfk

theorem mem_listedIndexes {style : CatalogStyle} {i : Index} (hi : i ∈ listedIndexes style b) :
    i ∈ b.keyIndexes ∨ ∃ fk ∈ b.foreignKeys, i = ⟨.index, fk.name, fk.columns⟩ := by
  rcases List.mem_append.1 hi with hi | hi
  · exact .inl hi
  · obtain ⟨fk, hfk, rfl⟩ := List.mem_map.1 hi
    exact .inr ⟨fk, (List.mem_filter.1 hfk).1, rfl⟩

/-- The catalog shows all of a blueprint that passes its checks. -/
theorem showsBlueprint (style : CatalogStyle) (h : SurvivesCatalog b)
    (hcheck : b.check = .ok ()) : ShowsBlueprint style b := by
  obtain ⟨-, -, hindexes, -, hforeign⟩ := Blueprint.check_eq_ok_iff.1 hcheck
  have hpairs : ∀ fk ∈ b.foreignKeys,
      fk.columns ≠ [] ∧ fk.columns.length = fk.referencesColumns.length :=
    fun fk hfk => (ForeignKey.check_eq_ok_iff.1 (hforeign fk hfk).2).2
  refine ⟨h.columns, ?_, ?_, ?_, h.foreignKeyNames, fun fk hfk => (hpairs fk hfk).1,
    fun fk hfk => (hpairs fk hfk).2⟩
  · rw [listedIndexes, List.map_append, List.map_map]
    refine List.nodup_append.2 ⟨keyIndexes_nodup h hcheck,
      h.foreignKeyNames.sublist (List.filter_sublist.map _), ?_⟩
    intro n hn m hm
    obtain ⟨i, hi, rfl⟩ := List.mem_map.1 hn
    obtain ⟨fk, hfk, rfl⟩ := List.mem_map.1 hm
    exact name_ne_of_keyIndexes h hi (List.mem_filter.1 hfk).1
  · intro i hi
    rcases mem_listedIndexes hi with hi | ⟨fk, hfk, rfl⟩
    · exact Index.check_eq_ok_iff.1 (hindexes i hi).2
    · exact (hpairs fk hfk).1
  · intro i hi
    rcases mem_listedIndexes hi with hi | ⟨fk, hfk, rfl⟩
    · exact keyIndexes_primary h i hi
    · exact iff_of_false (by simp) (h.foreignKeyName fk hfk)

/-! ## The blueprint that comes back -/

/-- The indexes that foreign keys bring with them are not described again. -/
theorem describedIndexes_snapshotOf (style : CatalogStyle) (h : SurvivesCatalog b) :
    (snapshotOf style b).describedIndexes =
      b.keyIndexes.filter fun i =>
        !(i.kind == .primary && (snapshotOf style b).keyColumn?.isSome) := by
  have hown : ∀ i ∈ b.keyIndexes, isForeignKeyIndex b.foreignKeys i = false := by
    intro i hi
    rw [isForeignKeyIndex, Bool.and_eq_false_iff]
    refine .inr (List.any_eq_false.2 fun fk hfk => ?_)
    simp [(name_ne_of_keyIndexes h hi hfk).symm]
  have hforeign : ∀ fk ∈ b.foreignKeys,
      isForeignKeyIndex b.foreignKeys ⟨.index, fk.name, fk.columns⟩ = true := by
    intro fk hfk
    rw [isForeignKeyIndex, Bool.and_eq_true]
    exact ⟨rfl, List.any_eq_true.2 ⟨fk, hfk, by simp⟩⟩
  rw [Snapshot.describedIndexes]
  show (b.keyIndexes ++ _).filter _ = _
  rw [List.filter_append]
  -- Of the listed indexes those that came with foreign keys go, and only those.
  have hnone : ((b.foreignKeys.filter style.listsKeyIndex).map
      fun fk => (⟨.index, fk.name, fk.columns⟩ : Index)).filter (fun i =>
        !(i.kind == .primary && (snapshotOf style b).keyColumn?.isSome) &&
          !isForeignKeyIndex b.foreignKeys i) = [] := by
    apply List.filter_eq_nil_iff.2
    intro i hi
    obtain ⟨fk, hfk, rfl⟩ := List.mem_map.1 hi
    rw [hforeign fk (List.mem_filter.1 hfk).1, Bool.not_true, Bool.and_false]
    exact Bool.false_ne_true
  rw [show (snapshotOf style b).foreignKeys = b.foreignKeys from rfl, hnone, List.append_nil]
  apply List.filter_congr
  intro i hi
  rw [hown i hi, Bool.not_false, Bool.and_true]

/-- Whichever way a key is declared again, the keys as indexes are those of before. -/
theorem keyIndexes_rebuilt (style : CatalogStyle) (h : SurvivesCatalog b)
    (hcheck : b.check = .ok ()) : (snapshotOf style b).rebuilt.keyIndexes = b.keyIndexes := by
  have htail := keyIndexes_tail h hcheck
  have hrest : ∀ l : List Index, (∀ i ∈ l, i.kind ≠ .primary) →
      l.filter (fun i => !(i.kind == .primary && (snapshotOf style b).keyColumn?.isSome)) = l := by
    intro l hl
    apply List.filter_eq_self.2
    intro i hi
    simp [hl i hi]
  rw [Blueprint.keyIndexes]
  show (Option.map Prod.fst (snapshotOf style b).keyColumn?).toList.map _ ++
    (snapshotOf style b).describedIndexes = b.keyIndexes
  rw [describedIndexes_snapshotOf style h]
  cases hkey : (snapshotOf style b).keyColumn? with
  | none =>
    rw [Option.map_none, Option.toList_none, List.map_nil, List.nil_append]
    exact List.filter_eq_self.2 fun i _ => by simp
  | some k =>
    obtain ⟨name, form⟩ := k
    obtain ⟨⟨i, hi, hcolumns⟩, -⟩ := Snapshot.keyColumn?_eq_some hkey
    have hprimary : i.kind = .primary := by simpa using List.find?_some hi
    have hmem : i ∈ b.keyIndexes := by
      refine (mem_listedIndexes (List.mem_of_find?_eq_some hi)).resolve_right ?_
      rintro ⟨fk, -, rfl⟩
      cases hprimary
    have hname := (keyIndexes_primary h i hmem).1 hprimary
    -- A primary key is the first of the keys, so it is the one that the short form replaces.
    cases hlist : b.keyIndexes with
    | nil =>
      rw [hlist] at hmem
      cases hmem
    | cons j rest =>
      rw [hlist] at hmem htail
      obtain rfl : i = j :=
        (List.mem_cons.1 hmem).resolve_right fun hrest => htail i hrest hprimary
      obtain ⟨kind, iname, columns⟩ := i
      obtain rfl : kind = .primary := hprimary
      obtain rfl : iname = "PRIMARY" := hname
      obtain rfl : columns = [name] := hcolumns
      rw [List.filter_cons_of_neg (by simp)]
      have hself : rest.filter (fun i => !(i.kind == .primary && (some (name, form)).isSome)) =
          rest := hkey ▸ hrest rest htail
      rw [hself]
      rfl

theorem columns_rebuilt (style : CatalogStyle) (h : SurvivesCatalog b) :
    (snapshotOf style b).rebuilt.columns = b.columns := by
  show (b.columns.map _).map _ = b.columns
  rw [List.map_map]
  calc b.columns.map _ = b.columns.map id := by
        apply List.map_congr_left
        intro c hc
        show replayed c = c
        -- No default that the catalog shows is null.
        apply if_neg
        intro hnull
        cases (h.columns c hc).default _ hnull.2
    _ = b.columns := List.map_id _

theorem differing_getD {value default : String}
    (h : value = default ∨ sameName value default = false) :
    (TableOptions.differing (some value) default).getD default = value := by
  rcases h with rfl | h
  · have hsame : sameName value value = true := beq_self_eq_true _
    simp [TableOptions.differing, Option.filter_some, hsame]
  · simp [TableOptions.differing, Option.filter_some, h]

theorem isDescribable_snapshotOf (style : CatalogStyle) (h : SurvivesCatalog b)
    (hcheck : b.check = .ok ()) : (snapshotOf style b).IsDescribable := by
  refine ⟨?_, fun c hc => ?_, fun i hi => ((showsBlueprint style h hcheck).primary i hi).1⟩
  · rw [snapshotOf, List.map_map]
    exact h.columnNames
  · obtain ⟨d, hd, rfl⟩ := List.mem_map.1 hc
    exact ⟨(h.columns d hd).after, (h.columns d hd).unsigned⟩

theorem createStatement_rebuilt (style : CatalogStyle) {sql : String} (h : SurvivesCatalog b)
    (hsql : b.createStatement = .ok sql) :
    (snapshotOf style b).rebuilt.createStatement = .ok sql := by
  obtain ⟨hcheck, -, -⟩ := Blueprint.createStatement_eq_ok_iff.1 hsql
  have htable : (snapshotOf style b).rebuilt.table = b.table := rfl
  have hforeign : (snapshotOf style b).rebuilt.foreignKeys = b.foreignKeys := rfl
  refine Blueprint.createStatement_congr htable (columns_rebuilt style h)
    (keyIndexes_rebuilt style h hcheck) hforeign ?_ hsql
  refine Prod.ext (differing_getD h.engine) (Prod.ext (differing_getD h.charset) ?_)
  exact Prod.ext (differing_getD h.collation) (filter_getD_empty h.comment)

end

/-- A table comes back from the catalog with the statement that created it. -/
theorem createStatement_of_inspected (style : CatalogStyle) {b : Blueprint} {sql : String}
    (h : SurvivesCatalog b) (hsql : b.createStatement = .ok sql) {db : Memory} (hdb : db.IsPlain) :
    ∃ s, (inspect b.table : Action Memory Snapshot).run (db.describe b.table (catalogOf style b)) =
        (.ok s, db.describe b.table (catalogOf style b)) ∧
      (Blueprint.ofCalls b.table s.calls).createStatement = .ok sql := by
  obtain ⟨hcheck, -, -⟩ := Blueprint.createStatement_eq_ok_iff.1 hsql
  have hplain : (db.describe b.table (catalogOf style b)).IsPlain := ⟨hdb.canned, hdb.failures⟩
  have hshown : (db.describe b.table (catalogOf style b)).catalog.get? b.table =
      some (catalogOf style b) := by
    rw [Memory.describe, NameMap.get?_insert, if_pos rfl]
  refine ⟨snapshotOf style b,
    inspect_describe style (showsBlueprint style h hcheck) hplain hshown, ?_⟩
  have hcalls : Blueprint.ofCalls b.table (snapshotOf style b).calls =
      (snapshotOf style b).rebuilt := ofCalls_calls (isDescribable_snapshotOf style h hcheck)
  rw [hcalls]
  exact createStatement_rebuilt style h hsql

/-- A table with both kinds of keys, an enumeration whose members need quoting, and a
generated default. -/
def orders : Blueprint :=
  .ofDeclarations "orders" [.id "id", .column "buyer" .bigInteger, .unsigned,
    .column "state" (.enum ["it's", "a,b)"]), .default (.string "it's"),
    .column "seen" (.dateTime 3), .useCurrent, .useCurrentOnUpdate, .unique none ["state"],
    .foreign ["buyer"] [.references ["id"], .on "users", .cascadeOnDelete]]

theorem survivesCatalog_orders : SurvivesCatalog orders := by
  refine ⟨by decide, by decide, by decide, by decide, by decide, by decide, by decide, ?_,
    .inl rfl, .inl rfl, .inl rfl, by decide⟩
  have hcolumns : orders.columns =
      [{ name := "id", type := .bigInteger, unsigned := true, autoIncrement := true },
        { name := "buyer", type := .bigInteger, unsigned := true },
        { name := "state", type := .enum ["it's", "a,b)"], default := some (.string "it's") },
        { name := "seen", type := .dateTime 3, default := some .currentTimestamp,
          onUpdateCurrentTimestamp := true }] := rfl
  have hquoted : ∀ inner, "it's".toList ≠ '\'' :: inner ++ ['\''] := fun inner h => by
    have := congrArg List.head? h
    simp at this
  rw [hcolumns]
  simp only [List.forall_mem_cons]
  refine ⟨⟨rfl, by decide, by decide, by simp⟩, ⟨rfl, by decide, by decide, by simp⟩,
    ⟨rfl, by decide, by decide, ?_⟩, ⟨rfl, by decide, by decide, ?_⟩, by simp⟩
  · rintro d hd
    obtain rfl := Option.some.inj hd
    exact .string _ rfl (by decide) (by decide) hquoted
  · rintro d hd
    obtain rfl := Option.some.inj hd
    exact .currentTimestamp

theorem createStatement_of_inspected_orders :
    SurvivesCatalog orders ∧ orders.createStatement = .ok orders.createText ∧
      (Memory.empty "migrations").IsPlain ∧
      ∃ s, (inspect "orders" : Action Memory Snapshot).run
          ((Memory.empty "migrations").describe "orders" (catalogOf .plain orders)) =
          (.ok s, (Memory.empty "migrations").describe "orders" (catalogOf .plain orders)) ∧
        (Blueprint.ofCalls "orders" s.calls).createStatement = .ok orders.createText := by
  have hsql : orders.createStatement = .ok orders.createText := rfl
  have hplain : (Memory.empty "migrations").IsPlain := ⟨rfl, rfl⟩
  exact ⟨survivesCatalog_orders, hsql, hplain,
    createStatement_of_inspected .plain survivesCatalog_orders hsql hplain⟩

end SchemaMigration.Schema
