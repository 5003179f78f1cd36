import SchemaMigration.Catalog.Query
import SchemaMigration.Database.Command
import SchemaMigration.Database.Connection
import SchemaMigration.Database.NameMap
import SchemaMigration.Table.Blueprint

/-
  A database in memory.

  It keeps the tables that statements create with the names and clauses of their
  columns, tables that are described by catalog rows only, the rows of one
  ledger table, and advisory locks. Every statement is noted in a log, whether
  or not it succeeds. A transaction covers the ledger and nothing else: a
  statement that changes the schema ends it and keeps its effects.
-/
namespace SchemaMigration.Database

open Text Sql Calendar Catalog

/-- A row of the ledger. -/
structure LedgerRow where
  id : Nat
  migration : String
  batch : Int
  appliedAt : DateTime
  deriving DecidableEq, Repr

/-- A table that the database knows by its catalog rows. -/
structure CatalogTable where
  columns : List Row := []
  indexes : List Row := []
  foreignKeys : List Row := []
  options : Option Row := none
  deriving DecidableEq, Repr

/-- The state of a database. `canned` are answers that were fixed for queries,
`failures` the texts whose occurrence makes a statement or query fail, and
`saved` is the ledger as it was when the open transaction began. -/
structure Memory where
  ledgerTable : String
  statements : List String := []
  tables : NameMap (List (String × String)) := ∅
  catalog : NameMap CatalogTable := ∅
  canned : NameMap (List Row) := ∅
  failures : List String := []
  ledger : List LedgerRow := []
  nextId : Nat := 1
  ticks : Nat := 0
  saved : Option (List LedgerRow × Nat) := none
  heldElsewhere : List String := []
  held : List String := []
  warnings : List String := []

/-- The name of the ledger table where none is given. -/
def defaultLedgerTable : String := "migrations"

namespace Memory

/-- A database without tables. -/
def empty (ledgerTable : String) : Memory := { ledgerTable }

/-- Whether a table is known. -/
def hasTable (db : Memory) (name : String) : Bool :=
  db.tables.contains name || db.catalog.contains name

/-- The names of all tables, in ascending order. -/
def tableNames (db : Memory) : List String :=
  (db.catalog.keys.foldl (fun m k => m.insert k ()) (db.tables.keys.foldl
    (fun m k => m.insert k ()) (∅ : NameMap Unit))).keys

/-- The columns of a table that a statement created. -/
def tableColumns (db : Memory) (name : String) : List String :=
  ((db.tables.get? name).getD []).map Prod.fst

/-! ## Preparation -/

/-- Fixes the answer to a query. -/
def onQuery (sql : String) (rows : List Row) (db : Memory) : Memory :=
  { db with canned := db.canned.insert sql rows }

/-- Lets everything fail that contains a text. -/
def failOn (fragment : String) (db : Memory) : Memory :=
  { db with failures := db.failures ++ [fragment] }

/-- Describes a table by catalog rows. -/
def describe (name : String) (t : CatalogTable) (db : Memory) : Memory :=
  { db with catalog := db.catalog.insert name t }

/-- Lets another session hold a lock. -/
def holdLock (name : String) (db : Memory) : Memory :=
  { db with heldElsewhere := name :: db.heldElsewhere }

/-- Whether this session holds a lock. -/
def holdsLock (db : Memory) (name : String) : Bool := db.held.contains name

/-! ## Statements -/

/-- Whether a text is bound to fail. -/
def isBoundToFail (db : Memory) (sql : String) : Bool := db.failures.any (contains sql)

/-- The failure of a text that is bound to fail. -/
def injected (sql : String) : Error := .query ("injected failure: " ++ sql)

/-- The error about a table that is not there. -/
def missingTable (name : String) : Error := .query ("Table '" ++ name ++ "' doesn't exist")

/-- The parameter at a position as text; empty if there is none. -/
def param (params : List Value) (i : Nat) : String :=
  (params[i]?.bind Value.asText).getD ""

/-- The time of the first ledger row, less one second. -/
def startOfTime : Int := 1704067200

/-- Adds a row to the ledger, at the next tick of the clock. -/
def addRow (db : Memory) (migration : String) (batch : Int) : Memory :=
  { db with
    ticks := db.ticks + 1
    nextId := db.nextId + 1
    ledger := db.ledger ++
      [⟨db.nextId, migration, batch, DateTime.ofUnix (startOfTime + (db.ticks + 1))⟩] }

/-- Adds a row to the ledger unless the migration has one. -/
def record (db : Memory) (ifAbsent : Bool) (params : List Value) : Except Error Nat × Memory :=
  match params.head?.bind Value.asText with
  | none => (.error (.query "ledger insert without a migration"), db)
  | some migration =>
    let batch := (params[1]?.bind Value.asInt).getD 1
    if db.ledger.any (·.migration == migration) then
      if ifAbsent then (.ok 0, db)
      else
        (.error (.duplicate ("Duplicate entry '" ++ migration ++ "' for key 'migration'")), db)
    else (.ok 1, db.addRow migration batch)

/-- Removes the rows of a migration from the ledger. -/
def remove (db : Memory) (params : List Value) : Except Error Nat × Memory :=
  let migration := param params 0
  let kept := db.ledger.filter (·.migration != migration)
  (.ok (db.ledger.length - kept.length), { db with ledger := kept })

/-- The columns with one put in, behind another if that is there and at the end
otherwise. -/
def insertColumn (column : String × String) (behind : Option String)
    (columns : List (String × String)) : List (String × String) :=
  match behind.bind fun name => columns.findIdx? (·.1 == name) with
  | some i => columns.insertIdx (i + 1) column
  | none => columns ++ [column]

/-- The columns with the first of a name replaced. -/
def replaceColumn (old : String) (column : String × String) :
    List (String × String) → List (String × String)
  | [] => []
  | c :: rest => if c.1 = old then column :: rest else c :: replaceColumn old column rest

/-- The columns after a change. -/
def changeColumns (columns : List (String × String)) : ColumnChange → List (String × String)
  | .add name clause behind =>
    insertColumn (String.ofList name, String.ofList clause) (behind.map String.ofList) columns
  | .drop name => columns.filter (·.1 != String.ofList name)
  | .rename old new clause =>
    replaceColumn (String.ofList old) (String.ofList new, String.ofList clause) columns
  | .other => columns

/-- Changes the schema. Alterations of tables that no statement created are
accepted and have no effect. -/
def changeSchema (db : Memory) : SchemaChange → Except Error Unit × Memory
  | .create ifMissing table columns =>
    let name := String.ofList table
    if db.hasTable name then
      if ifMissing then (.ok (), db)
      else (.error (.query ("Table '" ++ name ++ "' already exists")), db)
    else
      let columns := columns.map fun c => (String.ofList c.1, String.ofList c.2)
      (.ok (), { db with tables := db.tables.insert name columns })
  | .drop ifPresent table =>
    let name := String.ofList table
    if !db.hasTable name && !ifPresent then
      (.error (.query ("Unknown table '" ++ name ++ "'")), db)
    else (.ok (), { db with tables := db.tables.erase name, catalog := db.catalog.erase name })
  | .rename old new =>
    match db.tables.get? (String.ofList old) with
    | none => (.error (missingTable (String.ofList old)), db)
    | some columns =>
      (.ok (), { db with
        tables := (db.tables.erase (String.ofList old)).insert (String.ofList new) columns })
  | .alter table changes =>
    match db.tables.get? (String.ofList table) with
    | none => (.ok (), db)
    | some columns =>
      (.ok (), { db with
        tables := db.tables.insert (String.ofList table) (changes.foldl changeColumns columns) })
  | .other => (.ok (), db)

/-- Does what needs the ledger table, if there is one. -/
def withLedger {α : Type} (db : Memory) (act : Except Error α × Memory) :
    Except Error α × Memory :=
  if db.tables.contains db.ledgerTable then act else (.error (missingTable db.ledgerTable), db)

/-- Carries out a command. -/
def perform (db : Memory) (params : List Value) : Command → Except Error Nat × Memory
  | .begin => (.ok 0, { db with saved := some (db.ledger, db.nextId) })
  | .commit => (.ok 0, { db with saved := none })
  | .rollback => match db.saved with
    | some (ledger, nextId) => (.ok 0, { db with ledger, nextId, saved := none })
    | none => (.ok 0, db)
  | .record ifAbsent => db.withLedger (db.record ifAbsent params)
  | .remove => db.withLedger (db.remove params)
  | .change c =>
    let db := { db with saved := none }
    match c with
    | .error e => (.error e, db)
    | .ok change =>
      let (r, db) := db.changeSchema change
      (r.map fun _ => 0, db)
  | .other => (.ok 0, db)

/-- Notes a statement and carries it out, unless it is bound to fail. -/
def execute (db : Memory) (sql : String) (params : List Value) : Except Error Nat × Memory :=
  let db := { db with statements := db.statements ++ [sql] }
  if db.isBoundToFail sql then (.error (injected sql), db)
  else db.perform params (Command.read db.ledgerTable sql)

/-! ## Queries -/

/-- A truth as a count. -/
def count (b : Bool) : Value := .int (if b then 1 else 0)

/-- The row that a catalog shows for a column. -/
def columnRow (field type : String) (nullable : Bool) (default : Option String)
    (extra comment : String) : Row :=
  Row.ofFields [("Field", .text field), ("Type", .text type), ("Collation", .null),
    ("Null", .text (if nullable then "YES" else "NO")), ("Key", .text ""),
    ("Default", match default with
      | some d => .text d
      | none => .null),
    ("Extra", .text extra), ("Privileges", .text "select,insert,update,references"),
    ("Comment", .text comment)]

/-- The row that a catalog shows for a part of an index. -/
def indexRow (table key : String) (sequence : Int) (column : String) (nonUnique : Bool)
    (subPart : Option Int) : Row :=
  Row.ofFields [("Table", .text table), ("Non_unique", count nonUnique), ("Key_name", .text key),
    ("Seq_in_index", .int sequence), ("Column_name", .text column),
    ("Sub_part", match subPart with
      | some n => .int n
      | none => .null),
    ("Index_type", .text "BTREE")]

/-- The row that a catalog shows for a column of a foreign key. -/
def foreignKeyRow (constraint column referencedTable referencedColumn deleteRule
    updateRule : String) : Row :=
  Row.ofFields [("constraint_name", .text constraint), ("column_name", .text column),
    ("referenced_table_name", .text referencedTable),
    ("referenced_column_name", .text referencedColumn), ("update_rule", .text updateRule),
    ("delete_rule", .text deleteRule)]

/-- The row that a catalog shows for the options of a table. -/
def optionsRow (engine charset collation comment : String) : Row :=
  Row.ofFields [("engine", .text engine), ("collation", .text collation),
    ("charset", .text charset), ("comment", .text comment)]

/-- The row that is shown for a column of a table that a statement created: its
type is the first word of the clause, and of the rest only signs, null and
counting are read. -/
def columnRowOfClause (name clause : String) : Row :=
  let upper := clause.toList.map Char.toUpper
  let word := (((words clause.toList).head?).getD []).map Char.toLower
  let type := word ++ (if occursIn " UNSIGNED".toList upper then " unsigned".toList else [])
  columnRow name (String.ofList type) (!occursIn "NOT NULL".toList upper) none
    (if occursIn "AUTO_INCREMENT".toList upper then "auto_increment" else "") ""

/-- The row that shows a ledger row. -/
def LedgerRow.row (r : LedgerRow) : Row :=
  Row.ofFields [("id", .int r.id), ("migration", .text r.migration), ("batch", .int r.batch),
    ("applied_at", .timestamp r.appliedAt)]

/-- Whether a table has a column. -/
def hasColumn (db : Memory) (table column : String) : Bool :=
  (db.tableColumns table).contains column ||
    (db.catalog.get? table).any fun t => t.columns.any fun r => r.text? "Field" == some column

/-- What the database shows of a table: of a described one its rows, of one that a
statement created something else, and of any other an error. -/
def shown (db : Memory) (rest : List Char) (described : CatalogTable → List Row)
    (created : List (String × String) → List Row) : Except Error (List Row) :=
  match SchemaChange.tableAt rest with
  | .error e => .error e
  | .ok table =>
    match db.catalog.get? (String.ofList table) with
    | some t => .ok (described t)
    | none => match db.tables.get? (String.ofList table) with
      | some columns => .ok (created columns)
      | none => .error (missingTable (String.ofList table))

/-- The options of a table; one that a statement created has the defaults. -/
def optionsOf (db : Memory) (table : String) : List Row :=
  match db.catalog.get? table with
  | some t => t.options.toList
  | none =>
    if db.tables.contains table then
      [optionsRow Table.defaultEngine Table.defaultCharset Table.defaultCollation ""]
    else []

/-- Takes a lock that no other session holds. -/
def acquire (db : Memory) (name : String) : List Row × Memory :=
  let free := !db.heldElsewhere.contains name
  let db :=
    if free ∧ !db.held.contains name then { db with held := name :: db.held } else db
  ([Row.ofFields [("acquired", count free)]], db)

/-- Gives a lock back. -/
def release (db : Memory) (name : String) : List Row × Memory :=
  ([Row.ofFields [("released", count (db.held.contains name))]],
    { db with held := db.held.filter (· != name) })

/-- Whether a query reads the ledger. -/
def readsLedger (db : Memory) (sql : String) : Bool :=
  startsWithWords "SELECT".toList (trimStart sql.toList) &&
    occursIn ("FROM \x60".toList ++ db.ledgerTable.toList ++ ['\x60']) sql.toList

/-- The answer to a query, and the database after it; only locks change. -/
def answer (db : Memory) (sql : String) (params : List Value) :
    Except Error (List Row) × Memory :=
  match db.canned.get? sql with
  | some rows => (.ok rows, db)
  | none =>
    if sql = hasTableSql then
      (.ok [Row.ofFields [("aggregate", count (db.hasTable (param params 0)))]], db)
    else if sql = hasColumnSql then
      (.ok [Row.ofFields [("aggregate", count (db.hasColumn (param params 0) (param params 1)))]],
        db)
    else if sql = listTablesSql then
      (.ok (db.tableNames.map fun n => Row.ofFields [("name", .text n)]), db)
    else match after? showColumns.toList sql.toList with
    | some rest =>
      (db.shown rest (·.columns) fun columns =>
        columns.map fun c => columnRowOfClause c.1 c.2, db)
    | none => match after? showIndex.toList sql.toList with
    | some rest => (db.shown rest (·.indexes) fun _ => [], db)
    | none =>
      if sql = foreignKeysSql then
        (.ok (((db.catalog.get? (param params 0)).map (·.foreignKeys)).getD []), db)
      else if sql = optionsSql then (.ok (db.optionsOf (param params 0)), db)
      else if sql = acquireLockSql then
        let (rows, db) := db.acquire (param params 0)
        (.ok rows, db)
      else if sql = releaseLockSql then
        let (rows, db) := db.release (param params 0)
        (.ok rows, db)
      else if db.readsLedger sql then db.withLedger (.ok (db.ledger.map LedgerRow.row), db)
      else (.error (.query ("MemoryExecutor has no answer for: " ++ sql)), db)

/-- Answers a query, unless it is bound to fail. -/
def query (db : Memory) (sql : String) (params : List Value) :
    Except Error (List Row) × Memory :=
  if db.isBoundToFail sql then (.error (injected sql), db) else db.answer sql params

/-- A statement whose count does not matter. -/
def send (sql : String) : Action Memory Unit := fun db =>
  let (r, db) := db.execute sql []
  (r.map fun _ => (), db)

instance : Connection Memory where
  execute sql params := fun db => db.execute sql params
  query sql params := fun db => db.query sql params
  begin := send beginSql
  commit := send commitSql
  rollback := send rollbackSql
  warn text db := { db with warnings := db.warnings ++ [text] }

theorem run_execute (db : Memory) (sql : String) (params : List Value) :
    (Connection.execute sql params : Action Memory Nat).run db = db.execute sql params := rfl

theorem run_query (db : Memory) (sql : String) (params : List Value) :
    (Connection.query sql params : Action Memory (List Row)).run db = db.query sql params := rfl

end Memory

end SchemaMigration.Database
