import SchemaMigration.Table.Column
import SchemaMigration.Table.Key

/-
  Blueprints: the description of one table under construction.

  A blueprint starts with a table name and default options and grows by
  declarations. A column modifier acts on the column declared last, and does
  nothing before the first.
-/
namespace SchemaMigration.Table

open Sql

def defaultEngine : String := "InnoDB"

def defaultCharset : String := "utf8mb4"

def defaultCollation : String := "utf8mb4_unicode_ci"

/-- A table under construction. `primaryColumn` is the column that was declared
as the table's key, if one was. -/
structure Blueprint where
  table : String
  columns : List Column := []
  primaryColumn : Option String := none
  indexes : List Index := []
  foreignKeys : List ForeignKey := []
  engine : String := defaultEngine
  charset : String := defaultCharset
  collation : String := defaultCollation
  comment : Option String := none
  deriving DecidableEq, Repr

namespace Blueprint

/-- A blueprint of a table with nothing declared. -/
def empty (table : String) : Blueprint := { table }

/-! ## Columns -/

def addColumn (c : Column) (b : Blueprint) : Blueprint :=
  { b with columns := b.columns ++ [c] }

/-- A column of a type, without modifiers. -/
def column (name : String) (type : ColumnType) : Blueprint → Blueprint :=
  addColumn { name, type }

/-- An unsigned column that counts up and is the table's key. -/
def keyColumn (name : String) (type : ColumnType) (b : Blueprint) : Blueprint :=
  { b.addColumn { name, type, unsigned := true, autoIncrement := true } with
    primaryColumn := some name }

/-- A nullable column for a point in time. -/
def nullableTimestamp (name : String) : Blueprint → Blueprint :=
  addColumn { name, type := .timestamp 0, nullable := true }

/-- The columns that hold when a row was written. -/
def timestamps (b : Blueprint) : Blueprint :=
  (b.nullableTimestamp "created_at").nullableTimestamp "updated_at"

/-- The column that marks a row as deleted. -/
def softDeletes : Blueprint → Blueprint := nullableTimestamp "deleted_at"

/-- The list with its last member changed. -/
def modifyLast {α : Type} (f : α → α) : List α → List α
  | [] => []
  | [a] => [f a]
  | a :: b :: rest => a :: modifyLast f (b :: rest)

/-- The blueprint with the column declared last changed. -/
def modify (f : Column → Column) (b : Blueprint) : Blueprint :=
  { b with columns := modifyLast f b.columns }

/-- A type with a number of fractional digits, where it has such. -/
def setPrecision (p : UInt32) : ColumnType → ColumnType
  | .dateTime _ => .dateTime p
  | .timestamp _ => .timestamp p
  | .time _ => .time p
  | t => t

/-! ## Keys -/

/-- An index, under its default name unless it is given one. -/
def addIndex (kind : IndexKind) (name : Option String) (columns : List String)
    (b : Blueprint) : Blueprint :=
  { b with indexes := b.indexes ++
      [⟨kind, name.getD (Index.defaultName b.table kind columns), columns⟩] }

/-- A foreign key that is still to be told what it refers to. -/
def startForeignKey (columns : List String) (b : Blueprint) : ForeignKey :=
  { name := ForeignKey.defaultName b.table columns, columns,
    referencesTable := "", referencesColumns := [] }

def addForeignKey (fk : ForeignKey) (b : Blueprint) : Blueprint :=
  { b with foreignKeys := b.foreignKeys ++ [fk] }

theorem modifyLast_append {α : Type} (f : α → α) (l : List α) (a : α) :
    modifyLast f (l ++ [a]) = l ++ [f a] := by
  induction l with
  | nil => rfl
  | cons b l ih =>
    cases l with
    | nil => rfl
    | cons c l => simpa [modifyLast] using ih

end Blueprint

end SchemaMigration.Table
