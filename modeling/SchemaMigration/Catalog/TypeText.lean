import SchemaMigration.Text.Blank
import SchemaMigration.Table.ColumnType

/-
  The texts by which a catalog names column types.

  `TypeText.ofText` takes a text such as `decimal(8,2) unsigned` apart, whatever
  it says; `columnType?` is the column type it names, if a blueprint can declare
  it.
-/
namespace SchemaMigration.Catalog

open Text Table

/-- A type text taken apart. -/
structure TypeText where
  base : String
  args : List String
  unsigned : Bool
  zerofill : Bool
  deriving DecidableEq, Repr

/-- The members of a list of quoted texts; what stands between them is skipped.
Inside quotes a doubled quote stands for one, and a backslash takes the next
character as it is. The state is what was read of an open member, in reverse. A
member that is not closed does not count. -/
def quotedMembers : Option (List Char) → List Char → List (List Char)
  | _, [] => []
  | none, c :: rest =>
    if c = '\'' then quotedMembers (some []) rest else quotedMembers none rest
  | some acc, '\'' :: '\'' :: rest => quotedMembers (some ('\'' :: acc)) rest
  | some acc, '\\' :: c :: rest => quotedMembers (some (c :: acc)) rest
  | some acc, c :: rest =>
    if c = '\'' then acc.reverse :: quotedMembers none rest
    else if c = '\\' then []
    else quotedMembers (some (c :: acc)) rest

/-- A text in three parts: before the arguments, the arguments between the first
parenthesis that opens and the last that closes, and the rest. Without
arguments the first blank separates head and rest. -/
def typeParts (raw : List Char) : List Char × Option (List Char) × List Char :=
  let parenthesized := (cutAt (· == '(') raw).bind fun ht =>
    (cutAtLast (· == ')') ht.2).map fun at' => (ht.1, some at'.1, at'.2)
  parenthesized.getD <| match cutAt isBlank raw with
    | some (head, tail) => (head, none, tail)
    | none => (raw, none, [])

namespace TypeText

/-- Takes a type text apart. -/
def ofText (raw : String) : TypeText :=
  let (head, args, tail) := typeParts (trim raw.toList)
  let base := String.ofList ((trim head).map Char.toLower)
  let args := match args with
    | none => []
    | some list =>
      if base = "enum" ∨ base = "set" then (quotedMembers none list).map String.ofList
      else (pieces (· == ',') list).map (fun a => String.ofList (trim a))
  let qualifiers := (words (tail.map Char.toLower)).map String.ofList
  ⟨base, args, qualifiers.contains "unsigned", qualifiers.contains "zerofill"⟩

/-- Whether values of the type are written as numbers. -/
def isNumeric (t : TypeText) : Bool :=
  ["tinyint", "smallint", "mediumint", "int", "integer", "bigint", "decimal", "numeric",
    "float", "double", "real", "bit", "bool", "boolean"].contains t.base

/-- An argument as a number. -/
def arg? (t : TypeText) (i : Nat) : Option UInt32 :=
  t.args[i]?.bind fun a => readUInt32? (trim a.toList)

/-- The number of fractional digits of a second: none given means zero. -/
def precision? (t : TypeText) : Option UInt32 :=
  match t.args with
  | [] => some 0
  | [_] => t.arg? 0
  | _ => none

/-- The column type, if a blueprint can declare it. A one-digit number with a
sign is a boolean, and numbers padded with zeros cannot be declared. -/
def columnType? (t : TypeText) : Option ColumnType :=
  if t.zerofill then none
  else match t.base with
    | "tinyint" =>
      if t.args.length = 1 ∧ t.arg? 0 = some 1 ∧ !t.unsigned then some .boolean
      else some .tinyInteger
    | "bool" | "boolean" => some .boolean
    | "smallint" => some .smallInteger
    | "mediumint" => some .mediumInteger
    | "int" | "integer" => some .integer
    | "bigint" => some .bigInteger
    | "decimal" | "numeric" => some (.decimal ((t.arg? 0).getD 10) ((t.arg? 1).getD 0))
    | "float" => if t.args = [] then some .float else none
    | "double" | "real" => if t.args = [] then some .double else none
    | "char" => some (.char ((t.arg? 0).getD 1))
    | "varchar" => (t.arg? 0).map .string
    | "text" => some .text
    | "mediumtext" => some .mediumText
    | "longtext" => some .longText
    | "date" => some .date
    | "datetime" => t.precision?.map .dateTime
    | "timestamp" => t.precision?.map .timestamp
    | "time" => t.precision?.map .time
    | "year" => some .year
    | "enum" => some (.enum t.args)
    | "json" => some .json
    | _ => none

end TypeText

end SchemaMigration.Catalog
