import SchemaMigration.Sql.Quote
import SchemaMigration.Text.Numeral

/-
  Column types and their SQL spelling.

  `sql` writes a type the way a column clause declares it. Four classes of
  types matter elsewhere: whole numbers, those that may be unsigned, numbers,
  and those with fractional seconds.
-/
namespace SchemaMigration.Table

open Text Sql

/-- The types a column can have. A boolean is a one-digit number to the
database. -/
inductive ColumnType where
  | tinyInteger
  | smallInteger
  | mediumInteger
  | integer
  | bigInteger
  | decimal (precision scale : UInt32)
  | float
  | double
  | char (length : UInt32)
  | string (length : UInt32)
  | text
  | mediumText
  | longText
  | date
  | dateTime (precision : UInt32)
  | timestamp (precision : UInt32)
  | time (precision : UInt32)
  | year
  | enum (values : List String)
  | json
  | boolean
  deriving DecidableEq, Repr

namespace ColumnType

/-- Whether the type holds whole numbers. -/
def isInteger : ColumnType → Bool
  | tinyInteger | smallInteger | mediumInteger | integer | bigInteger => true
  | _ => false

/-- Whether the type may be declared unsigned. -/
def acceptsUnsigned : ColumnType → Bool
  | decimal _ _ => true
  | t => t.isInteger

/-- Whether a default of this type is written as a number. -/
def isNumeric : ColumnType → Bool
  | float | double | boolean => true
  | t => t.acceptsUnsigned

/-- The number of fractional digits of a second; zero for types without. -/
def fractionalPrecision : ColumnType → UInt32
  | dateTime p | timestamp p | time p => p
  | _ => 0

/-- The decimal text of a 32-bit number. -/
def number (n : UInt32) : String := natText n.toNat

/-- A word with one number in parentheses, which is left out when zero. -/
def withPrecision (word : String) (p : UInt32) : String :=
  if p = 0 then word else word ++ "(" ++ number p ++ ")"

/-- The type as SQL. -/
def sql : ColumnType → String
  | tinyInteger => "TINYINT"
  | smallInteger => "SMALLINT"
  | mediumInteger => "MEDIUMINT"
  | integer => "INT"
  | bigInteger => "BIGINT"
  | decimal p s => "DECIMAL(" ++ number p ++ "," ++ number s ++ ")"
  | float => "FLOAT"
  | double => "DOUBLE"
  | char n => "CHAR(" ++ number n ++ ")"
  | string n => "VARCHAR(" ++ number n ++ ")"
  | text => "TEXT"
  | mediumText => "MEDIUMTEXT"
  | longText => "LONGTEXT"
  | date => "DATE"
  | dateTime p => withPrecision "DATETIME" p
  | timestamp p => withPrecision "TIMESTAMP" p
  | time p => withPrecision "TIME" p
  | year => "YEAR"
  | enum values => "ENUM(" ++ String.intercalate "," (values.map quoteLiteral) ++ ")"
  | json => "JSON"
  | boolean => "TINYINT(1)"

end ColumnType

end SchemaMigration.Table
