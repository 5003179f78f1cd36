import SchemaMigration.Catalog.Query
import SchemaMigration.Migration.Task

/-
  The advisory lock that keeps two runs from working on one ledger.

  The lock is taken before the work and given back after it, whatever becomes of
  the work. To fail at giving it back is only a warning.
-/
namespace SchemaMigration.Migration

open Text Sql Database Catalog

/-- The name of the lock of a ledger table. -/
def lockName (ledgerTable : String) : String := "strata:" ++ ledgerTable

variable {σ : Type} [Connection σ]

/-- Takes a lock, or fails after some seconds. -/
def acquireLock (name : String) (seconds : Nat) : Task σ Unit := do
  let row ← Task.ofAction <|
    queryOne acquireLockSql [.text name, .int (min (seconds : Int) maxInt64)]
  if row.bind (·.int? "acquired") = some 1 then pure () else throw (.lockTimeout name seconds)

/-- Gives a lock back. -/
def releaseLock (name : String) (s : σ) : σ :=
  match (queryOne (σ := σ) releaseLockSql [.text name]).run s with
  | (.ok _, s) => s
  | (.error e, s) =>
    Connection.warn ("failed to release migration lock `" ++ name ++ "`: " ++ e.message) s

/-- A task done while holding a lock, if a timeout for it is given. -/
def withLock {α : Type} (name : String) (timeout : Option Nat) (act : Task σ α) : Task σ α :=
  match timeout with
  | none => act
  | some seconds => fun s =>
    match (acquireLock name seconds).run s with
    | (.error e, s) => (.error e, s)
    | (.ok _, s) =>
      let (r, s) := act.run s
      (r, releaseLock name s)

end SchemaMigration.Migration
