import SchemaMigration.Sql.Value
import SchemaMigration.Text.Find

/-
  Rows: column names beside values.

  A column is found by its name, ASCII letter case apart; the first of that name
  counts. A row may have fewer values than columns: the columns past the last
  value have none.
-/
namespace SchemaMigration.Sql

open Text Calendar

/-- A row of an answer. -/
structure Row where
  columns : List String
  values : List Value
  deriving DecidableEq, Repr

namespace Row

/-- A row from its fields. -/
def ofFields (fields : List (String × Value)) : Row :=
  ⟨fields.map Prod.fst, fields.map Prod.snd⟩

/-- The number of values. -/
def size (r : Row) : Nat := r.values.length

/-- The value at a position. -/
def at? (r : Row) (i : Nat) : Option Value := r.values[i]?

/-- The value of a column. -/
def get? (r : Row) (column : String) : Option Value :=
  (r.columns.findIdx? (sameName column)).bind r.at?

/-- The value of a column as text. -/
def text? (r : Row) (column : String) : Option String := (r.get? column).bind Value.asText

/-- The value of a column as a whole number. -/
def int? (r : Row) (column : String) : Option Int := (r.get? column).bind Value.asInt

/-- The value of a column as a date. -/
def timestamp? (r : Row) (column : String) : Option DateTime :=
  (r.get? column).bind Value.asTimestamp

end Row

end SchemaMigration.Sql
