import SchemaMigration.Calendar.Reader
import SchemaMigration.Decimal.Shortest

/-
  Values that statements are bound with and that rows hold, and the views of a
  value as text, as a whole number and as a date.

  A view is `none` where the value has none: null has no text, a date is no
  number, and a text that is no numeral or no date has neither view.
-/
namespace SchemaMigration.Sql

open Text Calendar Decimal

/-- A value of a parameter or of a field of a row. -/
inductive Value where
  | null
  | bool (b : Bool)
  | int (i : Int)
  | uint (n : Nat)
  | float (x : Binary64)
  | text (s : String)
  | timestamp (t : DateTime)
  deriving DecidableEq, Repr

namespace Value

def isNull : Value → Bool
  | .null => true
  | _ => false

/-- The value as text. -/
def asText : Value → Option String
  | .null => none
  | .bool b => some (if b then "1" else "0")
  | .int i => some (intText i)
  | .uint n => some (natText n)
  | .float x => some x.text
  | .text s => some s
  | .timestamp t => some t.text

/-- The value as a whole number of 64 bits: a float is truncated, a text is read
without the blanks around it. -/
def asInt : Value → Option Int
  | .bool b => some (if b then 1 else 0)
  | .int i => some i
  | .uint n => if (n : Int) ≤ maxInt64 then some n else none
  | .float x => some x.truncated
  | .text s => readInt64? (trim s.toList)
  | .null => none
  | .timestamp _ => none

/-- The value as a date. -/
def asTimestamp : Value → Option DateTime
  | .timestamp t => some t
  | .text s => DateTime.ofText? s
  | _ => none

/-- The value as it is shown, null by its name. -/
def shown (v : Value) : String := v.asText.getD "NULL"

end Value

end SchemaMigration.Sql
