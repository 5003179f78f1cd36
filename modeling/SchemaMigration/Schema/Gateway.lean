import SchemaMigration.Catalog.Query
import SchemaMigration.Catalog.Redefinition
import SchemaMigration.Database.Connection
import SchemaMigration.Table.Declaration
import SchemaMigration.Table.Statement

/-
  The gateway: what a migration can ask of the schema.

  Every operation sends its statements at once, one by one, on any connection.
  A blueprint is checked before the first statement is sent.
-/
namespace SchemaMigration.Schema

open Sql Table Database Catalog

variable {σ : Type} [Connection σ]

/-- The value of what passed a check. -/
def checked {α : Type} : Except Fault α → Action σ α
  | .ok a => pure a
  | .error f => throw (.invalid f)

/-- Creates a table. -/
def createTable (b : Blueprint) : Action σ Unit := do
  let sql ← checked b.createStatement
  statement sql

/-- Adds an index to a table. -/
def addIndex (table : String) (i : Index) : Action σ Unit :=
  if i.columns = [] then throw (.invalid (.indexWithoutColumns table i.name))
  else statement ("ALTER TABLE " ++ quoteIdent table ++ " ADD " ++ i.sql)

/-- Adds a foreign key to a table. -/
def addForeignKey (table : String) (fk : ForeignKey) : Action σ Unit :=
  if fk.referencesTable = "" ∨ fk.columns.length ≠ fk.referencesColumns.length then
    throw (.invalid (.incompleteForeignKey fk.name))
  else statement ("ALTER TABLE " ++ quoteIdent table ++ " ADD " ++ fk.sql)

/-- Adds what a blueprint declares to its table: columns, then indexes, then
foreign keys. -/
def alterTable (b : Blueprint) : Action σ Unit := do
  let columns ← checked b.alterStatements
  columns.forM statement
  b.indexes.forM (addIndex b.table)
  b.foreignKeys.forM (addForeignKey b.table)

def dropTable (table : String) : Action σ Unit := statement ("DROP TABLE " ++ quoteIdent table)

def dropTableIfExists (table : String) : Action σ Unit :=
  statement ("DROP TABLE IF EXISTS " ++ quoteIdent table)

def renameTable (old new : String) : Action σ Unit :=
  statement ("RENAME TABLE " ++ quoteIdent old ++ " TO " ++ quoteIdent new)

/-- Whether a count in the answer to a query is positive. -/
def isCounted (row : Option Row) : Bool := decide (0 < ((row.bind (·.int? "aggregate")).getD 0))

/-- Whether there is a table. -/
def hasTable (table : String) : Action σ Bool := do
  let row ← queryOne hasTableSql [.text table]
  return isCounted row

/-- Whether a table has a column. -/
def hasColumn (table column : String) : Action σ Bool := do
  let row ← queryOne hasColumnSql [.text table, .text column]
  return isCounted row

/-- Drops columns, all in one statement; for none there is nothing to send. -/
def dropColumns (table : String) (columns : List String) : Action σ Unit :=
  if columns = [] then pure ()
  else statement ("ALTER TABLE " ++ quoteIdent table ++ " " ++
    String.intercalate ", " (columns.map fun c => "DROP COLUMN " ++ quoteIdent c))

/-- The names of all tables. -/
def tables : Action σ (List String) := do
  let rows ← Connection.query listTablesSql []
  return rows.filterMap (·.text? "name")

/-- The rows that the catalog shows for the columns of a table. -/
def columnRows (table : String) : Action σ (List Row) := Connection.query (columnsSql table) []

/-- The statement that renames the column of a row. -/
def renameColumnSql (table old new : String) (row : Row) : String :=
  "ALTER TABLE " ++ quoteIdent table ++ " CHANGE " ++ quoteIdent old ++ " " ++ quoteIdent new ++
    " " ++ definitionOfRow row

/-- Renames a column, and declares it as the catalog shows it. -/
def renameColumn (table old new : String) : Action σ Unit := do
  let rows ← columnRows table
  match rows.find? (fun row => row.text? "Field" == some old) with
  | some row => statement (renameColumnSql table old new row)
  | none => throw (.notFound "column" (table ++ "." ++ old))

/-- Drops an index; the primary key has no name to drop it by. -/
def dropIndex (table name : String) : Action σ Unit :=
  statement ("ALTER TABLE " ++ quoteIdent table ++
    (if name = "PRIMARY" then " DROP PRIMARY KEY" else " DROP INDEX " ++ quoteIdent name))

def dropForeignKey (table name : String) : Action σ Unit :=
  statement ("ALTER TABLE " ++ quoteIdent table ++ " DROP FOREIGN KEY " ++ quoteIdent name)

def disableForeignKeyChecks : Action σ Unit := statement "SET FOREIGN_KEY_CHECKS=0"

def enableForeignKeyChecks : Action σ Unit := statement "SET FOREIGN_KEY_CHECKS=1"

end SchemaMigration.Schema
