import SchemaMigration.Catalog.Snapshot
import SchemaMigration.Database.Memory

/-
  The rows that a database in memory shows, field by field.

  A field is found by its name, so a row answers for each of its fields with the
  value that was put there. The rows of columns, indexes, foreign keys and table
  options are read by these lemmas and never taken apart again.
-/
namespace SchemaMigration.Sql

open Text

/-- The first field whose name fits gives the value. -/
theorem Row.get?_ofFields_cons (name : String) (v : Value) (fields : List (String × Value))
    (column : String) :
    (Row.ofFields ((name, v) :: fields)).get? column =
      if sameName column name then some v else (Row.ofFields fields).get? column := by
  simp only [Row.get?, Row.ofFields, List.map_cons, List.findIdx?_cons]
  split
  · rfl
  · cases (List.findIdx? (sameName column) (List.map Prod.fst fields)) <;> rfl

end SchemaMigration.Sql

namespace SchemaMigration.Database.Memory

open Text Sql Table Catalog

section Column
variable (field type : String) (nullable : Bool) (default : Option String) (extra comment : String)

theorem columnRow_field : (columnRow field type nullable default extra comment).text? "Field" =
    some field := by
  simp +decide [columnRow, Row.text?, Row.get?_ofFields_cons, Value.asText]

theorem columnRow_type : (columnRow field type nullable default extra comment).text? "Type" =
    some type := by
  simp +decide [columnRow, Row.text?, Row.get?_ofFields_cons, Value.asText]

theorem columnRow_null : (columnRow field type nullable default extra comment).text? "Null" =
    some (if nullable then "YES" else "NO") := by
  simp +decide [columnRow, Row.text?, Row.get?_ofFields_cons, Value.asText]

theorem columnRow_default : (columnRow field type nullable default extra comment).text? "Default" =
    default := by
  cases default <;> simp +decide [columnRow, Row.text?, Row.get?_ofFields_cons, Value.asText]

theorem columnRow_extra : (columnRow field type nullable default extra comment).text? "Extra" =
    some extra := by
  simp +decide [columnRow, Row.text?, Row.get?_ofFields_cons, Value.asText]

theorem columnRow_comment : (columnRow field type nullable default extra comment).text? "Comment" =
    some comment := by
  simp +decide [columnRow, Row.text?, Row.get?_ofFields_cons, Value.asText]

end Column

/-- A row of a whole column says which index it belongs to, with its place there. -/
theorem ofRow_indexRow (table key : String) (sequence : Int) (column : String) (nonUnique : Bool) :
    IndexRow.ofRow (indexRow table key sequence column nonUnique none) =
      .part ⟨key, column, sequence, !nonUnique⟩ := by
  have hkey : (indexRow table key sequence column nonUnique none).text? "Key_name" = some key := by
    simp +decide [indexRow, Row.text?, Row.get?_ofFields_cons, Value.asText]
  have htype : (indexRow table key sequence column nonUnique none).text? "Index_type" =
      some "BTREE" := by
    simp +decide [indexRow, Row.text?, Row.get?_ofFields_cons, Value.asText]
  have hcolumn : (indexRow table key sequence column nonUnique none).text? "Column_name" =
      some column := by
    simp +decide [indexRow, Row.text?, Row.get?_ofFields_cons, Value.asText]
  have hpart : (indexRow table key sequence column nonUnique none).int? "Sub_part" = none := by
    simp +decide [indexRow, Row.int?, Row.get?_ofFields_cons, Value.asInt]
  have hsequence : (indexRow table key sequence column nonUnique none).int? "Seq_in_index" =
      some sequence := by
    simp +decide [indexRow, Row.int?, Row.get?_ofFields_cons, Value.asInt]
  have hunique : (indexRow table key sequence column nonUnique none).int? "Non_unique" =
      some (if nonUnique then 1 else 0) := by
    simp +decide [indexRow, Row.int?, Row.get?_ofFields_cons, Value.asInt, count]
  -- With nothing special and no prefix the row is a part of its index.
  have hplain : IndexRow.isSpecialType "BTREE" = false := by decide
  rw [IndexRow.ofRow, hkey]
  simp only [htype, hcolumn, hpart, hsequence, hunique, Option.getD_some, hplain]
  cases nonUnique <;> rfl

theorem ofRow?_foreignKeyRow (name column table referenced : String)
    (onDelete onUpdate : ReferentialAction) :
    ReferenceRow.ofRow?
        (foreignKeyRow name column table referenced onDelete.sql onUpdate.sql) =
      some ⟨name, column, table, referenced, onDelete, onUpdate⟩ := by
  simp +decide [ReferenceRow.ofRow?, ruleOfRow, foreignKeyRow, Row.text?, Row.get?_ofFields_cons,
    Value.asText, ReferentialAction.ofText?_sql]

theorem ofRow_optionsRow (engine charset collation comment : String) :
    TableOptions.ofRow (optionsRow engine charset collation comment) =
      ⟨some engine, some charset, some collation, some comment⟩ := by
  simp +decide [TableOptions.ofRow, optionsRow, Row.text?, Row.get?_ofFields_cons, Value.asText]

end SchemaMigration.Database.Memory
