import SchemaMigration.Database.Transaction
import SchemaMigration.Proofs.CatalogAnswers
import SchemaMigration.Proofs.ScriptSimulation

/-
  What the scripts of migrations do to a database in memory.

  Statements of gateway calls come without parameters. Such a statement can change
  the schema and begin or end transactions, but it adds no row to the ledger, and
  the only rows it can remove are those of a migration with an empty name. Where no
  row has that name a script leaves the ledger as it is, and what a rollback would
  restore is the same ledger.

  The schema after a script depends on the schema before it, on what is bound to
  fail and on the name of the ledger table, and on nothing else of the database.

  Main statements: `script_undisturbed` and `script_alike`.
-/
namespace SchemaMigration.Database.Memory

open Sql Catalog Schema

/-! ## The part of a database that the ledger lives in -/

/-- What is bound to fail is decided by the injected failures alone. -/
theorem isBoundToFail_congr {a b : Memory} (h : b.failures = a.failures) (sql : String) :
    b.isBoundToFail sql = a.isBoundToFail sql := by
  rw [isBoundToFail, h]
  rfl

/-- The rows, the counters, and all that decides how statements about them end are
the same. -/
structure SameLedger (db db' : Memory) : Prop where
  ledgerTable : db'.ledgerTable = db.ledgerTable
  canned : db'.canned = db.canned
  failures : db'.failures = db.failures
  ledger : db'.ledger = db.ledger
  nextId : db'.nextId = db.nextId
  ticks : db'.ticks = db.ticks

namespace SameLedger
variable {a b c : Memory}

protected theorem refl (a : Memory) : SameLedger a a := ⟨rfl, rfl, rfl, rfl, rfl, rfl⟩

protected theorem trans (h : SameLedger a b) (h' : SameLedger b c) : SameLedger a c :=
  ⟨h'.ledgerTable.trans h.ledgerTable, h'.canned.trans h.canned, h'.failures.trans h.failures,
    h'.ledger.trans h.ledger, h'.nextId.trans h.nextId, h'.ticks.trans h.ticks⟩

/-- Locks that are held are of no concern to the ledger. -/
protected theorem held (a : Memory) (held : List String) : SameLedger a { a with held := held } :=
  ⟨rfl, rfl, rfl, rfl, rfl, rfl⟩

theorem isBoundToFail (h : SameLedger a b) (sql : String) :
    b.isBoundToFail sql = a.isBoundToFail sql :=
  isBoundToFail_congr h.failures sql

end SameLedger

/-- The database with a statement in its log. -/
def noted (db : Memory) (sql : String) : Memory :=
  { db with statements := db.statements ++ [sql] }

theorem execute_eq (db : Memory) (sql : String) (params : List Value) :
    db.execute sql params =
      if db.isBoundToFail sql then (.error (injected sql), db.noted sql)
      else (db.noted sql).perform params (Command.read db.ledgerTable sql) := rfl

theorem SameLedger.noted {a b : Memory} (h : SameLedger a b) (sql : String) :
    SameLedger a (b.noted sql) := ⟨h.1, h.2, h.3, h.4, h.5, h.6⟩

/-- A change of the schema is one of the tables and of what the catalog shows of them. -/
theorem changeSchema_frame (db : Memory) (c : SchemaChange) :
    ∃ tables catalog, (db.changeSchema c).2 = { db with tables, catalog } := by
  have hsame : ∃ tables catalog, db = { db with tables, catalog } := ⟨_, _, rfl⟩
  cases c with
  | create ifMissing table columns =>
    rw [changeSchema]
    split
    · cases ifMissing
      · exact hsame
      · exact hsame
    · exact ⟨_, _, rfl⟩
  | drop ifPresent table | rename old new | alter table changes =>
    rw [changeSchema]
    split
    · exact hsame
    · exact ⟨_, _, rfl⟩
  | other => exact hsame

/-- A command leaves the log, the locks, and all that decides which statements fail. -/
theorem perform_frame (db : Memory) (params : List Value) (c : Command) :
    ∃ tables catalog ledger nextId ticks saved, (db.perform params c).2 =
      { db with tables, catalog, ledger, nextId, ticks, saved } := by
  have hsame : ∃ tables catalog ledger nextId ticks saved, db =
      { db with tables, catalog, ledger, nextId, ticks, saved } := ⟨_, _, _, _, _, _, rfl⟩
  cases c with
  | begin | commit | other => exact ⟨_, _, _, _, _, _, rfl⟩
  | rollback =>
    rw [perform]
    split
    · exact ⟨_, _, _, _, _, _, rfl⟩
    · exact hsame
  | record ifAbsent =>
    rw [perform, withLedger]
    split
    · rw [record]
      split
      · exact hsame
      · dsimp only
        split
        · split
          · exact hsame
          · exact hsame
        · exact ⟨_, _, _, _, _, _, rfl⟩
    · exact hsame
  | remove =>
    rw [perform, withLedger]
    split
    · exact ⟨_, _, _, _, _, _, rfl⟩
    · exact hsame
  | change c =>
    cases c with
    | error e => exact ⟨_, _, _, _, _, _, rfl⟩
    | ok change =>
      -- What a rollback would restore is given up before the change is tried.
      obtain ⟨tables, catalog, h⟩ := changeSchema_frame { db with saved := none } change
      exact ⟨tables, catalog, db.ledger, db.nextId, db.ticks, none, h⟩

/-- A statement is noted, and touches what a command touches. -/
theorem execute_frame (db : Memory) (sql : String) (params : List Value) :
    ∃ tables catalog ledger nextId ticks saved, (db.execute sql params).2 =
      { db.noted sql with tables, catalog, ledger, nextId, ticks, saved } := by
  rw [execute_eq]
  split
  · exact ⟨_, _, _, _, _, _, rfl⟩
  · exact perform_frame (db.noted sql) params _

theorem sameLedger_changeSchema (db : Memory) (c : SchemaChange) :
    SameLedger db (db.changeSchema c).2 ∧ (db.changeSchema c).2.saved = db.saved := by
  obtain ⟨tables, catalog, h⟩ := changeSchema_frame db c
  rw [h]
  exact ⟨⟨rfl, rfl, rfl, rfl, rfl, rfl⟩, rfl⟩

/-- A change of the schema ends the transaction and keeps the ledger. -/
theorem perform_change (db : Memory) (params : List Value) (c : Except Error SchemaChange) :
    SameLedger db (db.perform params (.change c)).2 ∧
      (db.perform params (.change c)).2.saved = none := by
  cases c with
  | error e => exact ⟨⟨rfl, rfl, rfl, rfl, rfl, rfl⟩, rfl⟩
  | ok change =>
    have h := sameLedger_changeSchema { db with saved := none } change
    exact ⟨⟨h.1.1, h.1.2, h.1.3, h.1.4, h.1.5, h.1.6⟩, h.2⟩

/-- A query leaves the database as it is, or takes or gives back a lock. -/
theorem query_cases (db : Memory) (sql : String) (params : List Value) :
    (db.query sql params).2 = db ∨
      sql = acquireLockSql ∧ (db.query sql params).2 = (db.acquire (param params 0)).2 ∨
      sql = releaseLockSql ∧ (db.query sql params).2 = (db.release (param params 0)).2 := by
  let Leaves (r : Except Error (List Row) × Memory) : Prop := r.2 = db ∨
    sql = acquireLockSql ∧ r.2 = (db.acquire (param params 0)).2 ∨
    sql = releaseLockSql ∧ r.2 = (db.release (param params 0)).2
  have hsame : ∀ r, Leaves (r, db) := fun r => .inl rfl
  have hite : ∀ (c : Prop) [Decidable c] {x y : Except Error (List Row) × Memory},
      (c → Leaves x) → Leaves y → Leaves (if c then x else y) := by
    intro c _ x y hx hy
    by_cases hc : c
    · rw [if_pos hc]
      exact hx hc
    · rwa [if_neg hc]
  show Leaves (db.query sql params)
  rw [query]
  refine hite _ (fun _ => hsame _) ?_
  rw [answer]
  split
  · exact hsame _
  refine hite _ (fun _ => hsame _) (hite _ (fun _ => hsame _) (hite _ (fun _ => hsame _) ?_))
  split
  · exact hsame _
  split
  · exact hsame _
  refine hite _ (fun _ => hsame _) (hite _ (fun _ => hsame _) ?_)
  -- Only the two questions about locks are answered by a change.
  refine hite _ (fun h => .inr (.inl ⟨h, rfl⟩)) (hite _ (fun h => .inr (.inr ⟨h, rfl⟩)) ?_)
  refine hite _ (fun _ => ?_) (hsame _)
  rw [withLedger]
  exact hite _ (fun _ => hsame _) (hsame _)

/-- Queries change which locks are held, and nothing else. -/
theorem query_frame (db : Memory) (sql : String) (params : List Value) :
    ∃ held, (db.query sql params).2 = { db with held } := by
  rcases query_cases db sql params with h | ⟨-, h⟩ | ⟨-, h⟩
  · exact ⟨db.held, h⟩
  · rw [h, acquire]
    by_cases hfree : !db.heldElsewhere.contains (param params 0) ∧
        !db.held.contains (param params 0)
    · exact ⟨param params 0 :: db.held, if_pos hfree⟩
    · exact ⟨db.held, if_neg hfree⟩
  · exact ⟨_, h⟩

theorem sameLedger_query (db : Memory) (sql : String) (params : List Value) :
    SameLedger db (db.query sql params).2 := by
  obtain ⟨held, h⟩ := query_frame db sql params
  rw [h]
  exact ⟨rfl, rfl, rfl, rfl, rfl, rfl⟩

/-! ## Statements of scripts -/

/-- The ledger is the same, and a rollback would not change that. -/
def Undisturbed (db db' : Memory) : Prop :=
  SameLedger db db' ∧ (db'.saved = none ∨ db'.saved = some (db.ledger, db.nextId))

theorem Undisturbed.perform {db db' : Memory} (h : Undisturbed db db')
    (hempty : ∀ r ∈ db.ledger, r.migration ≠ "") (c : Command) :
    Undisturbed db (db'.perform [] c).2 := by
  obtain ⟨hsame, hsaved⟩ := h
  cases c with
  | begin =>
    refine ⟨⟨hsame.1, hsame.2, hsame.3, hsame.4, hsame.5, hsame.6⟩, .inr ?_⟩
    show some (db'.ledger, db'.nextId) = _
    rw [hsame.ledger, hsame.nextId]
  | commit => exact ⟨⟨hsame.1, hsame.2, hsame.3, hsame.4, hsame.5, hsame.6⟩, .inl rfl⟩
  | rollback =>
    rw [Memory.perform]
    rcases hsaved with hnone | hsome
    · rw [hnone]
      exact ⟨hsame, .inl hnone⟩
    · rw [hsome]
      exact ⟨⟨hsame.1, hsame.2, hsame.3, rfl, rfl, hsame.6⟩, .inl rfl⟩
  | record ifAbsent =>
    rw [Memory.perform, withLedger]
    split
    · exact ⟨hsame, hsaved⟩
    · exact ⟨hsame, hsaved⟩
  | remove =>
    rw [Memory.perform, withLedger]
    split
    · refine ⟨⟨hsame.1, hsame.2, hsame.3, ?_, hsame.5, hsame.6⟩, hsaved⟩
      -- Without parameters the migration to remove is the one with the empty name.
      show db'.ledger.filter (·.migration != "") = db.ledger
      rw [hsame.ledger, List.filter_eq_self]
      intro r hr
      exact bne_iff_ne.2 (hempty r hr)
    · exact ⟨hsame, hsaved⟩
  | change c =>
    have hchange := perform_change db' [] c
    exact ⟨hsame.trans hchange.1, .inl hchange.2⟩
  | other => exact ⟨hsame, hsaved⟩

theorem Undisturbed.execute {db db' : Memory} (h : Undisturbed db db')
    (hempty : ∀ r ∈ db.ledger, r.migration ≠ "") (sql : String) :
    Undisturbed db (db'.execute sql []).2 := by
  have hnoted : Undisturbed db (db'.noted sql) := ⟨h.1.noted sql, h.2⟩
  rw [execute_eq]
  split
  · exact hnoted
  · exact hnoted.perform hempty _

theorem Undisturbed.query {db db' : Memory} (h : Undisturbed db db') (sql : String)
    (params : List Value) : Undisturbed db (db'.query sql params).2 := by
  refine ⟨h.1.trans (sameLedger_query db' sql params), ?_⟩
  obtain ⟨held, hheld⟩ := query_frame db' sql params
  rw [hheld]
  exact h.2

theorem run_statement (db : Memory) (sql : String) :
    (statement sql : Action Memory Unit).run db =
      ((db.execute sql []).1.map fun _ => (), (db.execute sql []).2) :=
  Action.run_discard _ _

/-- No script of gateway calls disturbs a ledger without empty names. -/
theorem script_undisturbed {db : Memory} (hempty : ∀ r ∈ db.ledger, r.migration ≠ "")
    {script : List Operation} (hscript : allGateway script = true) :
    Preserves (fun t : Transaction Memory => t.closed = false ∧ Undisturbed db t.inner)
      (runAll script) := by
  refine runAll_preserves_open (fun sql db' hdb' => ?_) (fun sql params db' hdb' => ?_) hscript
  · rw [run_statement]
    exact hdb'.execute hempty sql
  · exact hdb'.query sql params

/-! ## The schema after a script -/

/-- Without fixed answers, what gateway calls see of two databases is the same. -/
structure Alike (a b : Memory) : Prop where
  ledgerTable : b.ledgerTable = a.ledgerTable
  tables : b.tables = a.tables
  catalog : b.catalog = a.catalog
  failures : b.failures = a.failures
  noneCanned : a.canned = ∅ ∧ b.canned = ∅

namespace Alike
variable {a b : Memory} (h : Alike a b)
include h

theorem hasTable (name : String) : b.hasTable name = a.hasTable name := by
  rw [Memory.hasTable, h.tables, h.catalog]
  rfl

theorem isBoundToFail (sql : String) : b.isBoundToFail sql = a.isBoundToFail sql :=
  isBoundToFail_congr h.failures sql

theorem changeSchema (c : SchemaChange) :
    (a.changeSchema c).1 = (b.changeSchema c).1 ∧
      Alike (a.changeSchema c).2 (b.changeSchema c).2 := by
  cases c with
  | create ifMissing table columns =>
    rw [Memory.changeSchema, Memory.changeSchema, h.hasTable]
    split
    · cases ifMissing
      · exact ⟨rfl, h⟩
      · exact ⟨rfl, h⟩
    · refine ⟨rfl, h.1, ?_, h.3, h.4, h.5⟩
      show b.tables.insert _ _ = a.tables.insert _ _
      rw [h.tables]
  | drop ifPresent table =>
    rw [Memory.changeSchema, Memory.changeSchema, h.hasTable]
    split
    · exact ⟨rfl, h⟩
    · refine ⟨rfl, h.1, ?_, ?_, h.4, h.5⟩
      · show b.tables.erase _ = a.tables.erase _
        rw [h.tables]
      · show b.catalog.erase _ = a.catalog.erase _
        rw [h.catalog]
  | rename old new =>
    rw [Memory.changeSchema, Memory.changeSchema, h.tables]
    split
    · exact ⟨rfl, h⟩
    · exact ⟨rfl, h.1, rfl, h.3, h.4, h.5⟩
  | alter table changes =>
    rw [Memory.changeSchema, Memory.changeSchema, h.tables]
    split
    · exact ⟨rfl, h⟩
    · exact ⟨rfl, h.1, rfl, h.3, h.4, h.5⟩
  | other => exact ⟨rfl, h⟩

/-- How many rows a statement removed is not compared: scripts do not get to see it. -/
theorem perform (c : Command) :
    ((a.perform [] c).1.map fun _ => ()) = ((b.perform [] c).1.map fun _ => ()) ∧
      Alike (a.perform [] c).2 (b.perform [] c).2 := by
  cases c with
  | begin => exact ⟨rfl, h.1, h.2, h.3, h.4, h.5⟩
  | commit => exact ⟨rfl, h.1, h.2, h.3, h.4, h.5⟩
  | rollback =>
    -- What each restores is of no concern, since the ledger is not compared.
    have hback : ∀ db : Memory, (db.perform [] .rollback).1 = .ok 0 ∧
        (db.perform [] .rollback).2.ledgerTable = db.ledgerTable ∧
        (db.perform [] .rollback).2.tables = db.tables ∧
        (db.perform [] .rollback).2.catalog = db.catalog ∧
        (db.perform [] .rollback).2.failures = db.failures ∧
        (db.perform [] .rollback).2.canned = db.canned := by
      intro db
      rw [Memory.perform]
      split
      · exact ⟨rfl, rfl, rfl, rfl, rfl, rfl⟩
      · exact ⟨rfl, rfl, rfl, rfl, rfl, rfl⟩
    obtain ⟨ha, ha1, ha2, ha3, ha4, ha5⟩ := hback a
    obtain ⟨hb, hb1, hb2, hb3, hb4, hb5⟩ := hback b
    refine ⟨by rw [ha, hb], ?_, ?_, ?_, ?_, ?_⟩
    · rw [ha1, hb1, h.ledgerTable]
    · rw [ha2, hb2, h.tables]
    · rw [ha3, hb3, h.catalog]
    · rw [ha4, hb4, h.failures]
    · rw [ha5, hb5]
      exact h.noneCanned
  | record ifAbsent =>
    rw [Memory.perform, Memory.perform, withLedger, withLedger, h.tables, h.ledgerTable]
    split
    · exact ⟨rfl, h⟩
    · exact ⟨rfl, h⟩
  | remove =>
    rw [Memory.perform, Memory.perform, withLedger, withLedger, h.tables, h.ledgerTable]
    split
    · exact ⟨rfl, h.1, h.2, h.3, h.4, h.5⟩
    · exact ⟨rfl, h⟩
  | change c =>
    cases c with
    | error e => exact ⟨rfl, h.1, h.2, h.3, h.4, h.5⟩
    | ok change =>
      have hended : Alike { a with saved := none } { b with saved := none } :=
        ⟨h.1, h.2, h.3, h.4, h.5⟩
      obtain ⟨hresult, halike⟩ := hended.changeSchema change
      refine ⟨?_, halike⟩
      exact congrArg (fun r => (r.map fun _ => 0).map fun _ => ()) hresult
  | other => exact ⟨rfl, h⟩

theorem execute (sql : String) :
    ((a.execute sql []).1.map fun _ => ()) = ((b.execute sql []).1.map fun _ => ()) ∧
      Alike (a.execute sql []).2 (b.execute sql []).2 := by
  have hnoted : Alike (a.noted sql) (b.noted sql) := ⟨h.1, h.2, h.3, h.4, h.5⟩
  rw [execute_eq, execute_eq, h.isBoundToFail, h.ledgerTable]
  split
  · exact ⟨rfl, hnoted⟩
  · exact hnoted.perform _

/-- A query that both answer alike keeps them alike. -/
theorem query {sql : String} {params : List Value} {r : Except Error (List Row)}
    (ha : a.answer sql params = (r, a)) (hb : b.answer sql params = (r, b)) :
    (a.query sql params).1 = (b.query sql params).1 ∧
      Alike (a.query sql params).2 (b.query sql params).2 := by
  rw [Memory.query, Memory.query, h.isBoundToFail, ha, hb]
  split
  · exact ⟨rfl, h⟩
  · exact ⟨rfl, h⟩

end Alike

/-- Scripts of gateway calls give the same result on databases that are alike, and
leave them alike. -/
theorem script_alike : KeepsGateway Alike where
  statement sql a b h := by
    rw [run_statement, run_statement]
    exact h.execute sql
  askTable table a b h := by
    -- Each question is about what both have in common.
    have hb := answer_hasTableSql h.noneCanned.2 table
    rw [h.hasTable] at hb
    exact h.query (answer_hasTableSql h.noneCanned.1 table) hb
  askColumn table column a b h := by
    have hsame : b.hasColumn table column = a.hasColumn table column := by
      rw [Memory.hasColumn, Memory.tableColumns, h.tables, h.catalog]
      rfl
    have hb := answer_hasColumnSql h.noneCanned.2 table column
    rw [hsame] at hb
    exact h.query (answer_hasColumnSql h.noneCanned.1 table column) hb
  askTables a b h := by
    have hsame : b.tableNames = a.tableNames := by
      rw [Memory.tableNames, h.tables, h.catalog]
      rfl
    have hb := answer_listTablesSql h.noneCanned.2
    rw [hsame] at hb
    exact h.query (answer_listTablesSql h.noneCanned.1) hb
  askColumns table a b h := by
    have hb := answer_columnsSql h.noneCanned.2 table
    rw [Memory.shown, h.tables, h.catalog] at hb
    exact h.query (answer_columnsSql h.noneCanned.1 table) hb

end SchemaMigration.Database.Memory
