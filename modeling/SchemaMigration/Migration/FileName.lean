import SchemaMigration.Text.Blank
import SchemaMigration.Text.DecimalDigit
import SchemaMigration.Text.Numeral

/-
  The names of artifacts.

  An artifact's filename is a version of fourteen digits, an underscore, a name
  of letters, digits and underscores, and the ending `.rs`. The identity of an
  artifact is its filename without the ending behind an `m`, and its struct is
  named after its words.
-/
namespace SchemaMigration.Migration

open Text

/-- The ending of artifact filenames. -/
def extension : List Char := ".rs".toList

/-- The characters of an artifact's name. -/
def isNameChar (c : Char) : Bool := c.isAlphanum || c == '_'

/-- An artifact's file. -/
structure MigrationFile where
  filename : String
  version : Nat
  name : String
  path : Option String := none
  deriving DecidableEq, Repr

/-- Why a filename is not an artifact's. -/
inductive NameFault where
  /-- The filename has another form. -/
  | form (filename : String)
  /-- The version has digits of another script. -/
  | foreignDigits (filename : String)
  deriving DecidableEq, Repr

/-- The wording of a fault. -/
def NameFault.message : NameFault → String
  | form filename =>
    "Invalid migration filename '" ++ filename ++
      "'. Expected format: YYYYMMDDHHMMSS_description.rs"
  | foreignDigits filename => filename ++ ": invalid digit found in string"

/-- The text before the extension. -/
def stem? (cs : List Char) : Option (List Char) :=
  if extension.isSuffixOf cs then some (cs.take (cs.length - extension.length)) else none

/-- Version and name of a filename, as texts. -/
def splitFilename? (cs : List Char) : Option (List Char × List Char) :=
  let version := cs.take 14
  match cs.drop 14 with
  | '_' :: rest =>
    match stem? rest with
    | some name =>
      if version.all isDecimalDigit ∧ name ≠ [] ∧ name.all isNameChar then some (version, name)
      else none
    | none => none
  | _ => none

namespace MigrationFile

/-- The artifact that a filename names. -/
def ofFilename (filename : String) : Except NameFault MigrationFile :=
  match splitFilename? filename.toList with
  | none => .error (.form filename)
  | some (version, name) =>
    match readDigits? version with
    | none => .error (.foreignDigits filename)
    | some version => .ok { filename, version, name := String.ofList name }

/-- The filename of a version and a name. -/
def format (version : Nat) (name : String) : String :=
  String.ofList (padded 14 version) ++ "_" ++ name ++ String.ofList extension

end MigrationFile

/-- The identity of the artifact in a file. -/
def identityOf (filename : String) : String :=
  "m" ++ String.ofList ((stem? filename.toList).getD filename.toList)

/-- The identity of an artifact. -/
def MigrationFile.identity (f : MigrationFile) : String := identityOf f.filename

/-- A word with its first letter in upper case. -/
def capitalized : List Char → List Char
  | [] => []
  | c :: cs => c.toUpper :: cs

/-- The name of an artifact's struct: the words between the underscores of the
description, each capitalized, with an `M` in front of a digit. -/
def structName (description : String) : String :=
  let name := (pieces (· == '_') description.toList).flatMap capitalized
  match name with
  | c :: _ => String.ofList (if c.isDigit then 'M' :: name else name)
  | [] => ""

end SchemaMigration.Migration
