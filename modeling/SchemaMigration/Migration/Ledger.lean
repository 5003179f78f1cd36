import SchemaMigration.Schema.Gateway

/-
  The ledger: a table with one row for each applied migration.

  A row holds an ascending number, the filename, the batch and the time. A batch
  is any integer; how many bits it is stored in is left out. Rows are written and
  removed on the connection that runs the migration.
-/
namespace SchemaMigration.Migration

open Sql Calendar Database Schema

/-- A row of the ledger as it was read. -/
structure LedgerEntry where
  id : Int
  migration : String
  batch : Int
  appliedAt : Option DateTime
  deriving DecidableEq, Repr

/-- The statement that creates the ledger table where there is none. -/
def createLedgerSql (table : String) : String :=
  "CREATE TABLE IF NOT EXISTS " ++ quoteIdent table ++
    " ( `id` int UNSIGNED NOT NULL PRIMARY KEY AUTO_INCREMENT," ++
    " `migration` varchar(255) NOT NULL UNIQUE, `batch` int NOT NULL," ++
    " `applied_at` timestamp NOT NULL DEFAULT CURRENT_TIMESTAMP )"

/-- The query for all rows of the ledger. -/
def ledgerEntriesSql (table : String) : String :=
  "SELECT id, migration, batch, applied_at FROM " ++ quoteIdent table ++ " ORDER BY id"

/-- The statement that adds a row to the ledger. -/
def recordSql (table : String) : String :=
  "INSERT INTO " ++ quoteIdent table ++ " (migration, batch) VALUES (?, ?)"

/-- The statement that adds a row to the ledger unless there is one. -/
def recordIfAbsentSql (table : String) : String :=
  "INSERT IGNORE INTO " ++ quoteIdent table ++ " (migration, batch) VALUES (?, ?)"

/-- The statement that removes a row from the ledger. -/
def removeSql (table : String) : String :=
  "DELETE FROM " ++ quoteIdent table ++ " WHERE migration = ?"

/-- The ledger entry that a row holds. -/
def LedgerEntry.ofRow (row : Row) : Except Database.Error LedgerEntry :=
  match row.text? "migration" with
  | none => .error (.unreadable "ledger row without migration")
  | some migration =>
    .ok ⟨(row.int? "id").getD 0, migration, (row.int? "batch").getD 0, row.timestamp? "applied_at"⟩

/-- The greatest batch of some entries; zero if there are none. -/
def lastBatch : List LedgerEntry → Int
  | [] => 0
  | e :: rest => rest.foldl (fun b e => max b e.batch) e.batch

namespace Ledger

variable {σ : Type} [Connection σ]

/-- Creates the ledger table where there is none. -/
def ensure (table : String) : Action σ Unit := statement (createLedgerSql table)

/-- Whether there is a ledger table. -/
def isPresent (table : String) : Action σ Bool := hasTable table

/-- All rows of the ledger. -/
def entries (table : String) : Action σ (List LedgerEntry) := do
  let rows ← Connection.query (ledgerEntriesSql table) []
  match rows.mapM LedgerEntry.ofRow with
  | .ok es => return es
  | .error e => throw e

/-- Adds the row of a migration. -/
def record (table migration : String) (batch : Int) : Action σ Unit := do
  let _ ← Connection.execute (σ := σ) (recordSql table) [.text migration, .int batch]

/-- Adds the row of a migration unless there is one, and tells whether it did. -/
def recordIfAbsent (table migration : String) (batch : Int) : Action σ Bool := do
  let n ← Connection.execute (recordIfAbsentSql table) [.text migration, .int batch]
  return decide (0 < n)

/-- Removes the row of a migration. -/
def remove (table migration : String) : Action σ Unit := do
  let _ ← Connection.execute (σ := σ) (removeSql table) [.text migration]

end Ledger

end SchemaMigration.Migration
