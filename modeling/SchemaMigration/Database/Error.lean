import SchemaMigration.Table.Fault

/-
  What can go wrong between a program and its database.
-/
namespace SchemaMigration.Database

open Table

/-- A reason why a statement, a query or the reading of an answer failed. -/
inductive Error where
  /-- The database refused. -/
  | query (detail : String)
  /-- A row with this key exists. -/
  | duplicate (detail : String)
  /-- The named thing of a kind does not exist. -/
  | notFound (kind name : String)
  /-- The definition of a table is at fault; nothing was sent. -/
  | invalid (fault : Fault)
  /-- A column has a type that no blueprint can declare. -/
  | unsupportedType (table column raw : String)
  /-- An index is of a form that no blueprint can declare. -/
  | unsupportedIndex (table index detail : String)
  /-- A text is not of the expected form. -/
  | unreadable (detail : String)
  | other (detail : String)
  deriving DecidableEq, Repr

/-- The wording of an error. -/
def Error.message : Error → String
  | query detail => "Query error: " ++ detail
  | duplicate detail => "Duplicate entry: " ++ detail
  | notFound kind name => kind ++ " not found: " ++ name
  | invalid fault => "Invalid schema definition: " ++ fault.message
  | unsupportedType table column raw =>
    "Unsupported column type `" ++ raw ++ "` on " ++ table ++ "." ++ column
  | unsupportedIndex table index detail =>
    "Unsupported index `" ++ index ++ "` on " ++ table ++ ": " ++ detail
  | unreadable detail => "Parse error: " ++ detail
  | other detail => "Execution error: " ++ detail

end SchemaMigration.Database
