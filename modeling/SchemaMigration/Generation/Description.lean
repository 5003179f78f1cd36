import SchemaMigration.Migration.Error

/-
  Descriptions of artifacts, and the tables they speak of.

  A description is reduced to its words of ASCII letters and digits, in lower
  case and joined by underscores. One of the form `create_…_table` names the
  table in its middle; any other is itself the table's name.
-/
namespace SchemaMigration.Generation

open Text Migration

/-- The words of letters and digits in a text, in lower case. -/
def plainWords (cs : List Char) : List (List Char) :=
  ((pieces (fun c => !c.isAlphanum) cs).filter (· ≠ [])).map fun w => w.map Char.toLower

/-- A description reduced to its words; there must be one. -/
def normalized (description : String) : Except Error String :=
  match plainWords description.toList with
  | [] => .error (.malformed (.unusableDescription description))
  | ws => .ok (String.ofList (['_'].intercalate ws))

/-- What stands in front of the table's name. -/
def creating : List Char := "create_".toList

/-- What stands behind the table's name. -/
def tableEnding : List Char := "_table".toList

/-- The table that a reduced description speaks of. -/
def tableOf (description : String) : String :=
  let cs := description.toList
  if creating.isPrefixOf cs ∧ tableEnding.isSuffixOf cs ∧
      creating.length + tableEnding.length < cs.length then
    String.ofList
      ((cs.drop creating.length).take (cs.length - creating.length - tableEnding.length))
  else description

end SchemaMigration.Generation
