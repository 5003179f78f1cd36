import SchemaMigration.Catalog.Snapshot
import SchemaMigration.Schema.Gateway

/-
  Inspection: reading the structure of tables from the catalog of a connection.
-/
namespace SchemaMigration.Schema

open Sql Table Database Catalog

variable {σ : Type} [Connection σ]

/-- Stops with an error, or goes on with a value. -/
def orThrow {α : Type} : Except Error α → Action σ α
  | .ok a => pure a
  | .error e => throw e

/-- The columns of a table. -/
def inspectColumns (table : String) : Action σ (List InspectedColumn) := do
  let rows ← columnRows table
  orThrow (rows.mapM (columnOfRow table))

/-- The indexes of a table, with a warning for each that is left out. -/
def inspectIndexes (table : String) : Action σ (List Index) := do
  let rows ← Connection.query (indexesSql table) []
  let (result, skipped) := indexesOfRows table rows
  skipped.forM fun index => warning (skippedIndexWarning table index)
  orThrow result

/-- The foreign keys of a table. -/
def inspectForeignKeys (table : String) : Action σ (List ForeignKey) := do
  let rows ← Connection.query foreignKeysSql [.text table]
  return foreignKeysOfRows rows

/-- The options of a table. -/
def inspectOptions (table : String) : Action σ TableOptions := do
  let row ← queryOne optionsSql [.text table]
  return (row.map TableOptions.ofRow).getD {}

/-- The structure of a table. -/
def inspect (table : String) : Action σ Snapshot := do
  if ← hasTable table then
    let columns ← inspectColumns table
    let indexes ← inspectIndexes table
    let foreignKeys ← inspectForeignKeys table
    let options ← inspectOptions table
    return { table, columns, indexes, foreignKeys, options }
  else throw (.notFound "table" table)

end SchemaMigration.Schema
