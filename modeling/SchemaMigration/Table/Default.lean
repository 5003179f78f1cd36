import SchemaMigration.Decimal.Shortest
import SchemaMigration.Table.ColumnType

/-
  Column defaults.

  A number is kept as the text it is written with and stands unquoted, so it is
  checked before it is used: `isNumericLiteral` accepts a sign, digits with an
  optional point, and an exponent.
-/
namespace SchemaMigration.Table

open Text Sql Decimal

/-- The value a column has when none is given. -/
inductive DefaultValue where
  | null
  | numeric (literal : String)
  | bool (b : Bool)
  | string (s : String)
  | currentTimestamp
  | expression (sql : String)
  deriving DecidableEq, Repr

/-- The current timestamp, with fractional digits unless zero. -/
def currentTimestampSql (p : UInt32) : String := ColumnType.withPrecision "CURRENT_TIMESTAMP" p

/-- A text without the sign it may start with. -/
def dropSign : List Char → List Char
  | c :: cs => if c = '-' ∨ c = '+' then cs else c :: cs
  | [] => []

/-- Whether a text is the number that may stand unquoted in SQL. -/
def isNumericLiteral (cs : List Char) : Bool :=
  let body := dropSign cs
  let (mantissa, exponent) := match cutAt (fun c => c == 'e' || c == 'E') body with
    | some (m, e) => (m, some (dropSign e))
    | none => (body, none)
  let (whole, fraction) := (cutAt (· == '.') mantissa).getD (mantissa, [])
  !(whole.isEmpty && fraction.isEmpty) && allDigits whole && allDigits fraction &&
    match exponent with
    | some e => !e.isEmpty && allDigits e
    | none => true

namespace DefaultValue

/-- A whole number as default. -/
def ofInt (i : Int) : DefaultValue := .numeric (intText i)

/-- A floating point number as default; not every one has a numeric literal. -/
def ofFloat (x : Binary64) : DefaultValue := .numeric x.text

/-- The default as SQL, for a type with `p` fractional digits. -/
def sql (p : UInt32) : DefaultValue → String
  | null => "NULL"
  | numeric n => n
  | bool b => if b then "1" else "0"
  | string s => quoteLiteral s
  | currentTimestamp => currentTimestampSql p
  | expression e => "(" ++ e ++ ")"

end DefaultValue

end SchemaMigration.Table
