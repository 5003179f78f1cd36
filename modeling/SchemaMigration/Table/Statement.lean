import SchemaMigration.Table.Blueprint
import SchemaMigration.Table.Fault

/-
  From blueprints to statements.

  A blueprint is checked first: names in order of declaration, then columns,
  then keys. A blueprint that passes becomes one statement that creates the
  table, or one statement for each column that an existing table gains.
-/
namespace SchemaMigration.Table

open Sql

/-- A name of more than the allowed characters is a fault. -/
def checkName (named : Named) (name : String) : Except Fault Unit :=
  if maxNameLength < name.length then .error (.nameTooLong named name) else .ok ()

/-- What kind of name an index has. -/
def IndexKind.named : IndexKind → Named
  | .unique => .uniqueIndex
  | .primary => .plainIndex
  | .index => .plainIndex

/-- A column has at most six fractional digits, and a default that stands
unquoted is a number. -/
def Column.check (table : String) (c : Column) : Except Fault Unit :=
  if maxFractionalPrecision < c.type.fractionalPrecision then
    .error (.precisionTooLarge table c.name c.type.fractionalPrecision)
  else match c.default with
    | some (.numeric literal) =>
      if isNumericLiteral literal.toList then .ok ()
      else .error (.nonNumericDefault table c.name literal)
    | _ => .ok ()

/-- A foreign key names a table and pairs its columns with as many there. -/
def ForeignKey.check (fk : ForeignKey) : Except Fault Unit :=
  if fk.referencesTable = "" then .error (.noReferencedTable fk.name)
  else if fk.columns = [] ∨ fk.columns.length ≠ fk.referencesColumns.length then
    .error (.unpairedColumns fk.name fk.columns.length fk.referencesColumns.length)
  else .ok ()

/-- An index has columns. -/
def Index.check (table : String) (i : Index) : Except Fault Unit :=
  if i.columns = [] then .error (.indexWithoutColumns table i.name) else .ok ()

namespace Blueprint

/-- The number of primary keys declared, as a column or as an index. -/
def primaryKeys (b : Blueprint) : Nat :=
  b.indexes.countP (·.kind == .primary) + (if b.primaryColumn.isSome then 1 else 0)

/-- Names of the table, its columns, indexes and foreign keys. -/
def checkNames (b : Blueprint) : Except Fault Unit := do
  checkName .table b.table
  b.columns.forM fun c => checkName .column c.name
  b.indexes.forM fun i => checkName i.kind.named i.name
  b.foreignKeys.forM fun fk => checkName .foreignKey fk.name

/-- The first fault of a blueprint, if it has one. -/
def check (b : Blueprint) : Except Fault Unit := do
  b.checkNames
  b.columns.forM (Column.check b.table)
  if 1 < b.primaryKeys then .error (.severalPrimaryKeys b.table) else .ok ()
  b.indexes.forM (Index.check b.table)
  b.foreignKeys.forM ForeignKey.check

/-- The clauses of a table: columns, then keys, then references. -/
def clauses (b : Blueprint) : List String :=
  b.columns.map Column.sql ++
    b.primaryColumn.toList.map (fun name => "PRIMARY KEY (" ++ quoteIdent name ++ ")") ++
    b.indexes.map Index.sql ++ b.foreignKeys.map ForeignKey.sql

/-- The statement that creates the table, without any check. -/
def createText (b : Blueprint) : String :=
  "CREATE TABLE " ++ quoteIdent b.table ++ " (\n  " ++
    String.intercalate ",\n  " b.clauses ++ "\n) ENGINE=" ++ b.engine ++
    " DEFAULT CHARSET=" ++ b.charset ++ " COLLATE=" ++ b.collation ++
    (match b.comment with
      | some text => " COMMENT=" ++ quoteLiteral text
      | none => "")

/-- The statement that creates the table; a table has columns. -/
def createStatement (b : Blueprint) : Except Fault String := do
  b.check
  if b.columns = [] then .error (.noColumns b.table) else .ok b.createText

/-- The statement that adds one column to the table. -/
def addColumnText (b : Blueprint) (c : Column) : String :=
  "ALTER TABLE " ++ quoteIdent b.table ++ " ADD COLUMN " ++ c.sql ++
    (if b.primaryColumn = some c.name then " PRIMARY KEY" else "") ++
    (match c.after with
      | some column => " AFTER " ++ quoteIdent column
      | none => "")

/-- The statements that add the columns to the table, one each. -/
def alterStatements (b : Blueprint) : Except Fault (List String) := do
  b.check
  .ok (b.columns.map b.addColumnText)

end Blueprint

end SchemaMigration.Table
