import SchemaMigration.Catalog.DefaultText
import SchemaMigration.Catalog.TypeText
import SchemaMigration.Database.Error
import SchemaMigration.Sql.Row
import SchemaMigration.Table.Column
import SchemaMigration.Table.Key

/-
  Columns, indexes and foreign keys read from the rows of a catalog.

  A column is one row. An index or a foreign key is the group of the rows that
  carry its name, in order of first appearance; the columns of an index follow
  their sequence numbers. An index that a blueprint cannot express is left out
  with a warning, and one over a part of a column is an error.
-/
namespace SchemaMigration.Catalog

open Text Sql Table Database

/-! ## Columns -/

/-- A column as the catalog shows it, with the type text it had there. -/
structure InspectedColumn where
  column : Column
  rawType : String
  deriving DecidableEq, Repr

/-- The column that a catalog row of a table describes. -/
def columnOfRow (table : String) (row : Row) : Except Error InspectedColumn :=
  match row.text? "Field" with
  | none => .error (.unreadable ("column row for `" ++ table ++ "` has no Field"))
  | some name =>
    let rawType := (row.text? "Type").getD ""
    let typeText := TypeText.ofText rawType
    match typeText.columnType? with
    | none => .error (.unsupportedType table name rawType)
    | some type =>
      let extra := lowered ((row.text? "Extra").getD "")
      let default :=
        if contains extra "default_generated" then (row.text? "Default").bind generatedDefault?
        else (row.text? "Default").bind (plainDefault? type)
      .ok
        { rawType
          column :=
            { name, type, default
              unsigned := typeText.unsigned && type.acceptsUnsigned
              nullable := (row.text? "Null").any (sameName "YES")
              autoIncrement := contains extra "auto_increment"
              onUpdateCurrentTimestamp := contains extra "on update current_timestamp"
              comment := (row.text? "Comment").filter (· ≠ "") } }

/-! ## Indexes -/

/-- A part of an index: one column with its place. -/
structure KeyPart where
  index : String
  column : String
  sequence : Int
  unique : Bool
  deriving DecidableEq, Repr

/-- What a row of the index catalog says. -/
inductive IndexRow where
  /-- The row names no index. -/
  | nameless
  /-- The row belongs to an index that a blueprint cannot express. -/
  | inexpressible (index : String)
  /-- The row indexes the start of a column only. -/
  | columnPrefix (index column : String) (length : Int)
  | part (p : KeyPart)
  deriving DecidableEq, Repr

namespace IndexRow

/-- Whether an index type has no form in a blueprint. -/
def isSpecialType (type : String) : Bool := sameName type "FULLTEXT" || sameName type "SPATIAL"

/-- What a row says. -/
def ofRow (row : Row) : IndexRow :=
  match row.text? "Key_name" with
  | none => .nameless
  | some index =>
    if isSpecialType ((row.text? "Index_type").getD "") then .inexpressible index
    else match row.text? "Column_name" with
      | none => .inexpressible index
      | some column =>
        match row.int? "Sub_part" with
        | some length => .columnPrefix index column length
        | none =>
          .part ⟨index, column, (row.int? "Seq_in_index").getD 0, row.int? "Non_unique" = some 0⟩

def isColumnPrefix : IndexRow → Bool
  | .columnPrefix _ _ _ => true
  | _ => false

/-- The index that the row makes inexpressible. -/
def skipped? : IndexRow → Option String
  | .inexpressible index => some index
  | _ => none

def part? : IndexRow → Option KeyPart
  | .part p => some p
  | _ => none

end IndexRow

/-- The index of one name, from the parts of all. -/
def indexOfParts (parts : List KeyPart) (name : String) : Index :=
  let own := parts.filter (·.index = name)
  let kind :=
    if name = "PRIMARY" then IndexKind.primary
    else if own.head?.any (·.unique) then .unique
    else .index
  ⟨kind, name, (own.mergeSort fun a b => a.sequence ≤ b.sequence).map (·.column)⟩

/-- The indexes of a table, and the names of those left out, each in order of
first appearance. -/
def indexesOfRows (table : String) (rows : List Row) :
    Except Error (List Index) × List String :=
  let entries := rows.map IndexRow.ofRow
  let before := entries.takeWhile (fun e => !e.isColumnPrefix)
  let skipped := (before.filterMap IndexRow.skipped?).eraseDups
  let result := match entries.find? IndexRow.isColumnPrefix with
    | some (.columnPrefix index column length) =>
      .error (.unsupportedIndex table index
        ("key part `" ++ column ++ "(" ++ intText length ++ ")` indexes a column prefix"))
    | _ =>
      let parts := entries.filterMap IndexRow.part?
      let names := (parts.map (·.index)).eraseDups
      .ok ((names.filter (!skipped.contains ·)).map (indexOfParts parts))
  (result, skipped)

/-- The warning about an index that is left out. -/
def skippedIndexWarning (table index : String) : String :=
  "skipping index `" ++ index ++ "` on `" ++ table ++ "`: not expressible as a blueprint index"

/-! ## Foreign keys -/

/-- One column of a foreign key, with the rules its row states. -/
structure ReferenceRow where
  name : String
  column : String
  referencesTable : String
  referencesColumn : String
  onDelete : ReferentialAction
  onUpdate : ReferentialAction
  deriving DecidableEq, Repr

/-- A rule of a row; one that is missing or unknown restricts. -/
def ruleOfRow (row : Row) (column : String) : ReferentialAction :=
  ((row.text? column).bind ReferentialAction.ofText?).getD .restrict

/-- What a row says, if it has all its parts. -/
def ReferenceRow.ofRow? (row : Row) : Option ReferenceRow := do
  let name ← row.text? "constraint_name"
  let column ← row.text? "column_name"
  let referencesTable ← row.text? "referenced_table_name"
  let referencesColumn ← row.text? "referenced_column_name"
  some ⟨name, column, referencesTable, referencesColumn,
    ruleOfRow row "delete_rule", ruleOfRow row "update_rule"⟩

/-- The foreign key that a first row and the rows of its name make up. -/
def foreignKeyOfRows (rows : List ReferenceRow) (first : ReferenceRow) : ForeignKey :=
  let own := rows.filter (·.name = first.name)
  { name := first.name, columns := own.map (·.column)
    referencesTable := first.referencesTable
    referencesColumns := own.map (·.referencesColumn)
    onDelete := first.onDelete, onUpdate := first.onUpdate }

/-- The foreign keys of a table, in order of first appearance. -/
def foreignKeysOfRows (rows : List Row) : List ForeignKey :=
  let entries := rows.filterMap ReferenceRow.ofRow?
  let names := (entries.map (·.name)).eraseDups
  names.filterMap fun name =>
    (entries.find? (·.name = name)).map (foreignKeyOfRows entries)

end SchemaMigration.Catalog
