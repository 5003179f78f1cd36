import SchemaMigration.Catalog.DefaultText
import SchemaMigration.Catalog.TypeText
import SchemaMigration.Sql.Quote
import SchemaMigration.Sql.Row

/-
  The definition of an existing column, for a statement that declares it again.

  The type stays the text that the catalog gives. A default is written as the
  catalog has it, in parentheses if it was generated and quoted unless it is a
  number or the current timestamp.
-/
namespace SchemaMigration.Catalog

open Text Sql

/-- How a default stands in the definition of a column of a type. -/
def defaultClause (rawType extra default : String) : String :=
  if isCurrentTimestamp default then default
  else if contains extra "default_generated" then "(" ++ default ++ ")"
  else if (TypeText.ofText rawType).isNumeric then default
  else quoteLiteral default

/-- What a column is set to on update: the word after `on update`. -/
def onUpdateTarget? (rawExtra : String) : Option String :=
  let phrase := "on update ".toList
  let chars := rawExtra.toList
  (fromFirst? phrase (chars.map Char.toLower)).map fun found =>
    let rest := chars.drop (chars.length - found.length + phrase.length)
    match words rest with
    | word :: _ => String.ofList word
    | [] => "CURRENT_TIMESTAMP"

/-- The definition of the column that a catalog row shows. -/
def definitionOfRow (row : Row) : String :=
  let rawType := (row.text? "Type").getD ""
  let rawExtra := (row.text? "Extra").getD ""
  let extra := lowered rawExtra
  rawType ++
    (if row.text? "Null" = some "YES" then " NULL" else " NOT NULL") ++
    (if contains extra "auto_increment" then " AUTO_INCREMENT" else "") ++
    (match row.text? "Default" with
      | some default => " DEFAULT " ++ defaultClause rawType extra default
      | none => "") ++
    (match onUpdateTarget? rawExtra with
      | some target => " ON UPDATE " ++ target
      | none => "") ++
    (match (row.text? "Comment").filter (· ≠ "") with
      | some comment => " COMMENT " ++ quoteLiteral comment
      | none => "")

end SchemaMigration.Catalog
