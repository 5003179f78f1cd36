import SchemaMigration.Database.Error
import SchemaMigration.Sql.Clause
import SchemaMigration.Sql.Quote
import SchemaMigration.Text.Find

/-
  Commands: what a statement asks of a database, read from its text.

  Keywords count in any letter case. Statements that change the schema are
  recognised by their first words and read as far as the names of tables and
  columns; of a column clause the text is kept.
-/
namespace SchemaMigration.Database

open Text Sql

/-- A change of the columns of a table. -/
inductive ColumnChange where
  /-- Adds a column, behind another one if that is there. -/
  | add (name clause : List Char) (behind : Option (List Char))
  | drop (name : List Char)
  | rename (old new clause : List Char)
  /-- Leaves the columns alone. -/
  | other
  deriving DecidableEq, Repr

/-- A change of the schema. -/
inductive SchemaChange where
  | create (ifMissing : Bool) (table : List Char) (columns : List (List Char × List Char))
  | drop (ifPresent : Bool) (table : List Char)
  | rename (old new : List Char)
  | alter (table : List Char) (changes : List ColumnChange)
  /-- Nothing that shows in tables or columns. -/
  | other
  deriving DecidableEq, Repr

/-- What a statement asks. -/
inductive Command where
  | begin
  | commit
  | rollback
  /-- Adds a row to the ledger; if told so, leaves an existing one alone. -/
  | record (ifAbsent : Bool)
  /-- Removes a row from the ledger. -/
  | remove
  /-- Changes the schema, or tries to. -/
  | change (c : Except Error SchemaChange)
  | other

namespace ColumnChange

/-- The column that a clause asks to stand behind: the one after the last
`AFTER`. -/
def behindOf (clause : List Char) : Option (List Char) :=
  (fromLast? " AFTER `".toList clause).bind fun rest =>
    (readIdent? (rest.drop " AFTER".length)).map Prod.fst

/-- Reads one action of an alteration. -/
def ofClause (clause : List Char) : ColumnChange :=
  match afterWords? "ADD COLUMN".toList clause with
  | some rest => match readIdent? rest with
    | some (name, rest) => .add name (trim rest) (behindOf rest)
    | none => .other
  | none => match afterWords? "DROP COLUMN".toList clause with
    | some rest => match readIdent? rest with
      | some (name, _) => .drop name
      | none => .other
    | none => match afterWords? "CHANGE".toList clause with
      | some rest => match readIdent? rest with
        | some (old, rest) => match readIdent? rest with
          | some (new, rest) => .rename old new (trim rest)
          | none => .other
        | none => .other
      | none => .other

end ColumnChange

namespace SchemaChange

/-- The error of a statement that cannot be read. -/
def unreadable (words : String) (sql : List Char) : Error :=
  .unreadable ("unparseable " ++ words ++ ": " ++ String.ofList sql)

/-- A table name at the start of a text. -/
def tableAt (cs : List Char) : Except Error (List Char) :=
  match readIdent? cs with
  | some (name, _) => .ok name
  | none => .error (.unreadable ("expected a quoted table name: " ++ String.ofList cs))

/-- The text between the first parenthesis that opens and the last that closes. -/
def parenthesized (cs : List Char) : Option (List Char) :=
  (cutAt (· == '(') cs).bind fun ht =>
    (cutAt (· == ')') ht.2.reverse).map fun ht' => ht'.2.reverse

/-- The columns that the body of a table declares: the clauses that start with an
identifier. -/
def columnsOf (body : List Char) : List (List Char × List Char) :=
  match parenthesized body with
  | some inner =>
    (clauses inner).filterMap fun clause =>
      (readIdent? clause).map fun nr => (nr.1, trim nr.2)
  | none => []

/-- Reads what follows the words that create a table. -/
def readCreate (sql : List Char) (ifMissing : Bool) (rest : List Char) :
    Except Error SchemaChange :=
  match readIdent? rest with
  | some (name, body) => .ok (.create ifMissing name (columnsOf body))
  | none => .error (unreadable "CREATE TABLE" sql)

/-- Reads what follows the words that rename a table. -/
def readRename (sql : List Char) (rest : List Char) : Except Error SchemaChange :=
  match readIdent? rest with
  | none => .error (unreadable "RENAME TABLE" sql)
  | some (old, rest) =>
    match (afterWords? "TO".toList (trimStart rest)).bind readIdent? with
    | some (new, _) => .ok (.rename old new)
    | none => .error (unreadable "RENAME TABLE" sql)

/-- Reads what follows the words that alter a table. -/
def readAlter (sql : List Char) (rest : List Char) : Except Error SchemaChange :=
  match readIdent? rest with
  | some (name, actions) => .ok (.alter name ((clauses actions).map ColumnChange.ofClause))
  | none => .error (unreadable "ALTER TABLE" sql)

/-- Reads a statement that changes the schema. -/
def read (sql : List Char) : Except Error SchemaChange :=
  match afterWords? "CREATE TABLE IF NOT EXISTS".toList sql with
  | some rest => readCreate sql true rest
  | none => match afterWords? "CREATE TABLE".toList sql with
    | some rest => readCreate sql false rest
    | none => match afterWords? "DROP TABLE IF EXISTS".toList sql with
      | some rest => (tableAt rest).map (.drop true)
      | none => match afterWords? "DROP TABLE".toList sql with
        | some rest => (tableAt rest).map (.drop false)
        | none => match afterWords? "RENAME TABLE".toList sql with
          | some rest => readRename sql rest
          | none => match afterWords? "ALTER TABLE".toList sql with
            | some rest => readAlter sql rest
            | none => .ok .other

end SchemaChange

namespace Command

/-- The words that start a statement which changes the schema. -/
def schemaWords : List (List Char) :=
  ["CREATE".toList, "DROP".toList, "ALTER".toList, "RENAME".toList]

/-- Whether a statement changes the schema, or tries to. -/
def changesSchema (sql : List Char) : Bool := schemaWords.any (startsWithWords · sql)

/-- Reads a statement for a database whose ledger table has the given name. -/
def read (ledgerTable : String) (text : String) : Command :=
  let sql := trim text.toList
  let upper := sql.map Char.toUpper
  let ledger := '\x60' :: ledgerTable.toList ++ ['\x60']
  if upper = "START TRANSACTION".toList ∨ upper = "BEGIN".toList then .begin
  else if upper = "COMMIT".toList then .commit
  else if upper = "ROLLBACK".toList then .rollback
  else if startsWithWords "INSERT".toList sql ∧ occursIn ("INTO ".toList ++ ledger) sql then
    .record (startsWithWords "INSERT IGNORE".toList sql)
  else if startsWithWords "DELETE FROM".toList sql ∧ occursIn ledger sql then .remove
  else if changesSchema sql then .change (SchemaChange.read sql)
  else .other

end Command

end SchemaMigration.Database
