import SchemaMigration.Table.Default

/-
  Columns and the clause that declares one.
-/
namespace SchemaMigration.Table

open Sql

/-- A column of a table. `after` asks for its place when it is added to an
existing table. -/
structure Column where
  name : String
  type : ColumnType
  nullable : Bool := false
  default : Option DefaultValue := none
  unsigned : Bool := false
  autoIncrement : Bool := false
  onUpdateCurrentTimestamp : Bool := false
  comment : Option String := none
  after : Option String := none
  deriving DecidableEq, Repr

namespace Column

/-- Everything a column clause says after the name. Unsigned is written only on
types that accept it. -/
def definition (c : Column) : String :=
  c.type.sql ++
  (if c.unsigned && c.type.acceptsUnsigned then " UNSIGNED" else "") ++
  (if c.nullable then " NULL" else " NOT NULL") ++
  (if c.autoIncrement then " AUTO_INCREMENT" else "") ++
  (match c.default with
    | some d => " DEFAULT " ++ d.sql c.type.fractionalPrecision
    | none => "") ++
  (if c.onUpdateCurrentTimestamp then
    " ON UPDATE " ++ currentTimestampSql c.type.fractionalPrecision else "") ++
  (match c.comment with
    | some text => " COMMENT " ++ quoteLiteral text
    | none => "")

/-- The clause that declares the column. -/
def sql (c : Column) : String := quoteIdent c.name ++ " " ++ c.definition

end Column

end SchemaMigration.Table
