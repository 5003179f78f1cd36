import SchemaMigration.Proofs.CatalogAnswers
import SchemaMigration.Proofs.KeyRows
import SchemaMigration.Schema.Inspector

/-
  Inspecting a table that is described by its catalog rows.

  A database in memory answers the catalog queries about a described table with
  the rows of the description, as long as no answer was fixed and nothing is bound
  to fail. Inspection puts five queries, and none of them changes the database.

  Main statement: `inspect_describe`, a table described by the catalog rows of a
  blueprint is read as the structure that the blueprint declares.
-/
namespace SchemaMigration.Database.Memory

open Text Sql Catalog

/-- A database without fixed answers in which nothing is bound to fail. -/
structure IsPlain (db : Memory) : Prop where
  canned : db.canned = ∅
  failures : db.failures = []

section
variable {db : Memory} {table : String} {t : CatalogTable}

theorem query_eq_answer (h : db.IsPlain) (sql : String) (params : List Value) :
    db.query sql params = db.answer sql params := by
  rw [query, isBoundToFail, h.failures]
  rfl

/-- What is shown of a described table are its rows. -/
theorem shown_ident (ht : db.catalog.get? table = some t) (described : CatalogTable → List Row)
    (created : List (String × String) → List Row) :
    db.shown (ident table.toList) described created = .ok (described t) := by
  simp only [shown, tableAt_ident, String.ofList_toList, ht]

end

end SchemaMigration.Database.Memory

namespace SchemaMigration.Schema

open Text Sql Table Database Catalog

/-! ## The structure of a described table -/

/-- The structure that a blueprint declares, as a catalog of a style shows it. -/
def snapshotOf (style : CatalogStyle) (b : Blueprint) : Snapshot where
  table := b.table
  columns := b.columns.map fun c => ⟨c, typeTextOf style c⟩
  indexes := listedIndexes style b
  foreignKeys := b.foreignKeys
  options := ⟨some b.engine, some b.charset, some b.collation, some (b.comment.getD "")⟩

/-- A blueprint whose catalog rows show all of it. -/
structure ShowsBlueprint (style : CatalogStyle) (b : Blueprint) : Prop where
  columns : ∀ c ∈ b.columns, ShowsColumn c
  indexNames : ((listedIndexes style b).map (·.name)).Nodup
  indexColumns : ∀ i ∈ listedIndexes style b, i.columns ≠ []
  primary : ∀ i ∈ listedIndexes style b, i.kind = .primary ↔ i.name = "PRIMARY"
  foreignKeyNames : (b.foreignKeys.map (·.name)).Nodup
  foreignKeyColumns : ∀ fk ∈ b.foreignKeys, fk.columns ≠ []
  pairs : ∀ fk ∈ b.foreignKeys, fk.columns.length = fk.referencesColumns.length

theorem mapM_columnOfRow (style : CatalogStyle) (table : String) {cs : List Column}
    (h : ∀ c ∈ cs, ShowsColumn c) :
    (cs.map (columnRowOf style)).mapM (columnOfRow table) =
      .ok (cs.map fun c => ⟨c, typeTextOf style c⟩) := by
  induction cs with
  | nil => rfl
  | cons c cs ih =>
    rw [List.map_cons, List.mapM_cons, columnOfRow_columnRowOf style table (h c List.mem_cons_self),
      ih fun d hd => h d (List.mem_cons_of_mem c hd)]
    rfl

/-- A table described by the catalog rows of a blueprint is read as the structure that
the blueprint declares, and the database stays as it is. -/
theorem inspect_describe (style : CatalogStyle) {b : Blueprint} (h : ShowsBlueprint style b)
    {db : Memory} (hdb : db.IsPlain) (hshown : db.catalog.get? b.table = some (catalogOf style b)) :
    (inspect b.table : Action Memory Snapshot).run db = (.ok (snapshotOf style b), db) := by
  -- One question after the other is answered from the catalog, and none changes the database.
  have hquery : ∀ {sql params rows}, db.answer sql params = (.ok rows, db) →
      (Connection.query sql params : Action Memory (List Row)).run db = (.ok rows, db) :=
    fun h => (Memory.query_eq_answer hdb _ _).trans h
  have htable : (hasTable b.table : Action Memory Bool).run db = (.ok true, db) := by
    have hknown : db.hasTable b.table = true := by
      rw [Memory.hasTable, NameMap.contains, NameMap.contains, hshown]
      exact Bool.or_true _
    have hanswer := hquery (Memory.answer_hasTableSql hdb.canned b.table)
    rw [hasTable, queryOne, bind_assoc, Action.run_bind_ok hanswer, hknown]
    rfl
  have hcolumns : (inspectColumns b.table : Action Memory _).run db =
      (.ok (snapshotOf style b).columns, db) := by
    have hanswer := Memory.answer_columnsSql hdb.canned b.table
    rw [Memory.shown_ident hshown] at hanswer
    rw [inspectColumns, columnRows, Action.run_bind_ok (hquery hanswer)]
    simp only [catalogOf, mapM_columnOfRow style b.table h.columns]
    rfl
  have hindexes : (inspectIndexes b.table : Action Memory _).run db =
      (.ok (listedIndexes style b), db) := by
    have hanswer := Memory.answer_indexesSql hdb.canned b.table
    rw [Memory.shown_ident hshown] at hanswer
    rw [inspectIndexes, Action.run_bind_ok (hquery hanswer)]
    simp only [catalogOf, indexesOfRows_indexRowsOf style b.table h.indexNames h.indexColumns
      h.primary]
    rfl
  have hforeign : (inspectForeignKeys b.table : Action Memory _).run db =
      (.ok b.foreignKeys, db) := by
    have hanswer := hquery (Memory.answer_foreignKeysSql hdb.canned b.table)
    rw [inspectForeignKeys, Action.run_bind_ok hanswer, hshown]
    simp only [catalogOf, Option.map_some, Option.getD_some,
      foreignKeysOfRows_foreignKeyRowsOf h.foreignKeyNames h.foreignKeyColumns h.pairs]
    rfl
  have hoptions : (inspectOptions b.table : Action Memory _).run db =
      (.ok (snapshotOf style b).options, db) := by
    have hanswer := hquery (Memory.answer_optionsSql hdb.canned b.table)
    rw [inspectOptions, queryOne, bind_assoc, Action.run_bind_ok hanswer, Memory.optionsOf, hshown]
    simp only [catalogOf, Option.toList_some, List.head?_cons, pure_bind, Option.map_some,
      Memory.ofRow_optionsRow]
    rfl
  rw [inspect, Action.run_bind_ok htable, if_pos rfl, Action.run_bind_ok hcolumns,
    Action.run_bind_ok hindexes, Action.run_bind_ok hforeign, Action.run_bind_ok hoptions]
  rfl

end SchemaMigration.Schema
