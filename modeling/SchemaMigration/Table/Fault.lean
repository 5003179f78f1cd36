import SchemaMigration.Text.Numeral

/-
  What can be wrong with the definition of a table.
-/
namespace SchemaMigration.Table

open Text

/-- What a name that is too long was given to. -/
inductive Named where
  | table
  | column
  | uniqueIndex
  | plainIndex
  | foreignKey
  deriving DecidableEq, Repr

namespace Named

/-- The word for the named thing. -/
def word : Named → String
  | table => "table"
  | column => "column"
  | uniqueIndex => "index"
  | plainIndex => "index"
  | foreignKey => "foreign key"

/-- How to choose a shorter name, where names are made up by default. -/
def hint : Named → String
  | table => ""
  | column => ""
  | uniqueIndex => "; name it with `unique_named`"
  | plainIndex => "; name it with `index_named`"
  | foreignKey => "; name it with `.named(..)`"

end Named

/-- The most characters a name may have. -/
def maxNameLength : Nat := 64

/-- The most fractional digits a second may have. -/
def maxFractionalPrecision : UInt32 := 6

/-- A reason to refuse a definition. -/
inductive Fault where
  | nameTooLong (named : Named) (name : String)
  | precisionTooLarge (table column : String) (precision : UInt32)
  | nonNumericDefault (table column literal : String)
  | severalPrimaryKeys (table : String)
  | indexWithoutColumns (table index : String)
  | noReferencedTable (foreignKey : String)
  | unpairedColumns (foreignKey : String) (columns referenced : Nat)
  | incompleteForeignKey (foreignKey : String)
  | noColumns (table : String)
  deriving DecidableEq, Repr

/-- The wording of a fault. -/
def Fault.message : Fault → String
  | nameTooLong named name =>
    named.word ++ " name `" ++ name ++ "` is " ++ natText name.length ++
      " characters, MySQL allows " ++ natText maxNameLength ++ named.hint
  | precisionTooLarge table column p =>
    "column `" ++ table ++ "`.`" ++ column ++ "` has fractional precision " ++
      natText p.toNat ++ ", MySQL allows 0 to " ++ natText maxFractionalPrecision.toNat
  | nonNumericDefault table column literal =>
    "column `" ++ table ++ "`.`" ++ column ++ "` has non-numeric default `" ++ literal ++ "`"
  | severalPrimaryKeys table => "table `" ++ table ++ "` declares more than one primary key"
  | indexWithoutColumns table index =>
    "index `" ++ index ++ "` on `" ++ table ++ "` has no columns"
  | noReferencedTable fk => "foreign key `" ++ fk ++ "` does not name a referenced table"
  | unpairedColumns fk columns referenced =>
    "foreign key `" ++ fk ++ "` pairs " ++ natText columns ++ " local column(s) with " ++
      natText referenced ++ " referenced column(s)"
  | incompleteForeignKey fk => "foreign key `" ++ fk ++ "` is incomplete"
  | noColumns table => "table `" ++ table ++ "` declares no columns"

end SchemaMigration.Table
