import SchemaMigration.Text.Blank
import SchemaMigration.Table.Default

/-
  The texts by which a catalog gives column defaults.

  A plain default is the value itself, or a quoted literal in catalogs that
  quote; a generated default is an expression. Either may be a call for the
  current timestamp.
-/
namespace SchemaMigration.Catalog

open Text Table

/-- Whether a text is some spelling of null. -/
def isNullWord (s : String) : Bool := s.toList.map Char.toUpper == "NULL".toList

/-- Whether a default is the current timestamp. -/
def isCurrentTimestamp (raw : String) : Bool :=
  let lower := (trim raw.toList).map Char.toLower
  "current_timestamp".toList.isPrefixOf lower || lower == "now()".toList

/-- Every pair of single quotes written once. -/
def undoubled : List Char → List Char
  | '\'' :: '\'' :: rest => '\'' :: undoubled rest
  | c :: rest => c :: undoubled rest
  | [] => []

/-- The text between the single quotes that wrap it. -/
def unwrapped? : List Char → Option (List Char)
  | '\'' :: rest => if rest.getLast? = some '\'' then some rest.dropLast else none
  | _ => none

/-- The default that a generated expression stands for. -/
def generatedDefault? (raw : String) : Option DefaultValue :=
  let text := trimmed raw
  if text = "" ∨ isNullWord text then none
  else if isCurrentTimestamp text then some .currentTimestamp
  else some (.expression text)

/-- The default that a plain text stands for, in a column of a type. -/
def plainDefault? (type : ColumnType) (raw : String) : Option DefaultValue :=
  if isNullWord raw then none
  else if isCurrentTimestamp raw then some .currentTimestamp
  else
    let value := match unwrapped? raw.toList with
      | some inner => String.ofList (undoubled inner)
      | none => raw
    some <|
      if type = .boolean then .bool (trimmed value != "0")
      else if type.isNumeric then .numeric value
      else .string value

end SchemaMigration.Catalog
