import SchemaMigration.Sql.Quote

/-
  Indexes and foreign keys, the names they get when none is given, and their
  clauses.
-/
namespace SchemaMigration.Table

open Text Sql

inductive IndexKind where
  | primary
  | unique
  | index
  deriving DecidableEq, Repr

/-- An index over columns of a table. -/
structure Index where
  kind : IndexKind
  name : String
  columns : List String
  deriving DecidableEq, Repr

namespace Index

/-- The name of an index that is given none: table, columns and kind joined by
underscores; a primary key has a fixed name. -/
def defaultName (table : String) (kind : IndexKind) (columns : List String) : String :=
  match kind with
  | .primary => "PRIMARY"
  | .unique => table ++ "_" ++ String.intercalate "_" columns ++ "_unique"
  | .index => table ++ "_" ++ String.intercalate "_" columns ++ "_index"

/-- The clause that declares the index. -/
def sql (i : Index) : String :=
  match i.kind with
  | .primary => "PRIMARY KEY (" ++ identList i.columns ++ ")"
  | .unique => "UNIQUE KEY " ++ quoteIdent i.name ++ " (" ++ identList i.columns ++ ")"
  | .index => "KEY " ++ quoteIdent i.name ++ " (" ++ identList i.columns ++ ")"

end Index

/-- What happens to a row whose referenced row goes or changes. -/
inductive ReferentialAction where
  | restrict
  | cascade
  | setNull
  | noAction
  deriving DecidableEq, Repr

namespace ReferentialAction

/-- The action as SQL. -/
def sql : ReferentialAction → String
  | restrict => "RESTRICT"
  | cascade => "CASCADE"
  | setNull => "SET NULL"
  | noAction => "NO ACTION"

/-- The action that a rule names, letter case and blanks around it apart. -/
def ofText? (rule : String) : Option ReferentialAction :=
  let word := (trim rule.toList).map Char.toUpper
  [restrict, cascade, setNull, noAction].find? (fun a => a.sql.toList == word)

theorem ofText?_sql (a : ReferentialAction) : ofText? a.sql = some a := by
  cases a <;> decide

end ReferentialAction

/-- A reference from columns of a table to columns of another. -/
structure ForeignKey where
  name : String
  columns : List String
  referencesTable : String
  referencesColumns : List String
  onDelete : ReferentialAction := .restrict
  onUpdate : ReferentialAction := .restrict
  deriving DecidableEq, Repr

namespace ForeignKey

/-- The name of a foreign key that is given none. -/
def defaultName (table : String) (columns : List String) : String :=
  table ++ "_" ++ String.intercalate "_" columns ++ "_foreign"

/-- The clause that declares the foreign key. -/
def sql (fk : ForeignKey) : String :=
  "CONSTRAINT " ++ quoteIdent fk.name ++ " FOREIGN KEY (" ++ identList fk.columns ++
    ") REFERENCES " ++ quoteIdent fk.referencesTable ++
    " (" ++ identList fk.referencesColumns ++ ") ON DELETE " ++ fk.onDelete.sql ++
    " ON UPDATE " ++ fk.onUpdate.sql

end ForeignKey

end SchemaMigration.Table
