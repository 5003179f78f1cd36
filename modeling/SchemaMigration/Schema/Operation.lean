import SchemaMigration.Schema.Gateway

/-
  Operations: what migrations are made of, as data.

  An operation is a call of the gateway, a statement or query on the connection
  under it, a failure, or a choice between lists of operations. A script is a
  list of operations, which ends at the first that fails.
-/
namespace SchemaMigration.Schema

open Sql Table Database

/-- One step of a script. -/
inductive Operation where
  | create (table : String) (ds : List Declaration)
  | alter (table : String) (ds : List Declaration)
  | drop (table : String)
  | dropIfExists (table : String)
  | rename (old new : String)
  | hasTable (table : String)
  | hasColumn (table column : String)
  | dropColumns (table : String) (columns : List String)
  | renameColumn (table old new : String)
  | tables
  | columns (table : String)
  | addIndex (table : String) (i : Index)
  | dropIndex (table name : String)
  | addForeignKey (table : String) (fk : ForeignKey)
  | dropForeignKey (table name : String)
  | disableForeignKeyChecks
  | enableForeignKeyChecks
  | statement (sql : String)
  | execute (sql : String) (params : List Value)
  | query (sql : String) (params : List Value)
  | queryOne (sql : String) (params : List Value)
  | begin
  | commit
  | rollback
  | fail (e : Error)
  /-- Runs all operations, whatever becomes of each. -/
  | attempt (ops : List Operation)
  | ifHasTable (table : String) (present absent : List Operation)
  | ifHasColumn (table column : String) (present absent : List Operation)

/-- What an operation answers. -/
inductive Outcome where
  | done
  | truth (b : Bool)
  | count (n : Nat)
  | names (l : List String)
  | rows (l : List Row)
  | row (r : Option Row)
  | many (l : List Outcome)
  | failed (e : Error)

variable {σ : Type} [Connection σ]

/-- An action without an answer. -/
def done (act : Action σ Unit) : Action σ Outcome := do
  act
  return .done

mutual

/-- What an operation does. -/
def Operation.run : Operation → Action σ Outcome
  | .create table ds => done (createTable (Blueprint.ofDeclarations table ds))
  | .alter table ds => done (alterTable (Blueprint.ofDeclarations table ds))
  | .drop table => done (dropTable table)
  | .dropIfExists table => done (dropTableIfExists table)
  | .rename old new => done (renameTable old new)
  | .hasTable table => return .truth (← Schema.hasTable table)
  | .hasColumn table column => return .truth (← Schema.hasColumn table column)
  | .dropColumns table columns => done (Schema.dropColumns table columns)
  | .renameColumn table old new => done (Schema.renameColumn table old new)
  | .tables => return .names (← Schema.tables)
  | .columns table => return .rows (← columnRows table)
  | .addIndex table i => done (Schema.addIndex table i)
  | .dropIndex table name => done (Schema.dropIndex table name)
  | .addForeignKey table fk => done (Schema.addForeignKey table fk)
  | .dropForeignKey table name => done (Schema.dropForeignKey table name)
  | .disableForeignKeyChecks => done Schema.disableForeignKeyChecks
  | .enableForeignKeyChecks => done Schema.enableForeignKeyChecks
  | .statement sql => done (Database.statement sql)
  | .execute sql params => return .count (← Connection.execute sql params)
  | .query sql params => return .rows (← Connection.query sql params)
  | .queryOne sql params => return .row (← Database.queryOne sql params)
  | .begin => done Connection.begin
  | .commit => done Connection.commit
  | .rollback => done Connection.rollback
  | .fail e => throw e
  | .attempt ops => return .many (← runEach ops)
  | .ifHasTable table present absent => do
    if ← Schema.hasTable table then return .many (← runAll present)
    else return .many (← runAll absent)
  | .ifHasColumn table column present absent => do
    if ← Schema.hasColumn table column then return .many (← runAll present)
    else return .many (← runAll absent)

/-- Runs operations up to the first that fails. -/
def runAll : List Operation → Action σ (List Outcome)
  | [] => return []
  | op :: rest => do
    let o ← op.run
    return o :: (← runAll rest)

/-- Runs operations and answers with what became of each. -/
def runEach : List Operation → Action σ (List Outcome)
  | [] => return []
  | op :: rest => do
    let o ← tryCatch op.run (fun e => pure (.failed e))
    return o :: (← runEach rest)

end

end SchemaMigration.Schema
