import SchemaMigration.Config.Settings
import SchemaMigration.Database.Memory
import SchemaMigration.Database.Rehearsal
import SchemaMigration.Database.Transaction
import SchemaMigration.Migration.Discovery
import SchemaMigration.Migration.Lock
import SchemaMigration.Migration.Registry
import SchemaMigration.Migration.Status

/-
  The manager: runs, reverts and reports migrations.

  Pending migrations run in the order of their filenames, each in a transaction
  of its own together with its ledger row, all of one run in one batch. Batches
  are reverted from the latest on, their migrations in the opposite order. The
  first failure ends the work; what was completed before it stays.
-/
namespace SchemaMigration.Migration

open Database Schema Config

/-- A manager. `available` are the filenames of the migrations there are, or why
they cannot be found. -/
structure Manager where
  registry : Registry
  available : Except Error (List String)
  ledgerTable : String := defaultLedgerTable
  lockTimeout : Option Nat := none

/-- What a migration would send. -/
structure PlannedMigration where
  filename : String
  statements : List String
  deriving DecidableEq, Repr

namespace Manager

/-- A manager of the migrations of a registry. -/
def ofRegistry (registry : Registry) : Manager :=
  { registry, available := .ok registry.filenames }

/-- A manager that finds migrations in a directory. -/
def inDirectory (m : Manager) (files : Files.Tree) (directory : String) : Manager :=
  { m with available := (discover files directory).map fun fs => fs.map (·.filename) }

/-- A manager with settings; the directory counts if it is there. -/
def ofSettings (s : Settings) (files : Files.Tree) (registry : Registry) : Manager :=
  let m := { ofRegistry registry with ledgerTable := s.ledgerTable, lockTimeout := s.lockTimeout }
  if files.isDirectory s.migrationsDir then m.inDirectory files s.migrationsDir else m

/-- The available migrations that are not among some entries, at most as many as
a limit says. -/
def pending (m : Manager) (entries : List LedgerEntry) (limit : Option Nat) :
    Except Error (List String) :=
  m.available.map fun files =>
    let remaining := files.filter fun f => !entries.any (·.migration == f)
    match limit with
    | some n => remaining.take n
    | none => remaining

/-- The migrations of files; all have to be registered. -/
def resolve (m : Manager) (files : List String) : Except Error (List (String × Scripts)) :=
  files.mapM fun file =>
    match m.registry.get? file with
    | some scripts => .ok (file, scripts)
    | none => .error (.notFound file)

variable {σ : Type} [Connection σ]

/-- A task done under the lock of the ledger, if the manager takes it. -/
def locked {α : Type} (m : Manager) (act : Task σ α) : Task σ α :=
  withLock (lockName m.ledgerTable) m.lockTimeout act

/-! ## One migration -/

/-- Notes in the ledger what was done with a migration. -/
def writeLedger (m : Manager) (direction : Direction) (file : String) (batch : Int) :
    Action σ Unit :=
  match direction with
  | .up => Ledger.record m.ledgerTable file batch
  | .down => Ledger.remove m.ledgerTable file

/-- Runs a script and notes it in the ledger. A row that is there already means
that the migration was applied. -/
def attempt (m : Manager) (direction : Direction) (file : String) (scripts : Scripts)
    (batch : Int) (failed : Database.Error → Error) (t : σ) : Except Error Unit × σ :=
  match (runAll (scripts.toward direction)).run t with
  | (.error e, t) => (.error (failed e), t)
  | (.ok _, t) =>
    match (m.writeLedger direction file batch).run t with
    | (.ok _, t) => (.ok (), t)
    | (.error (.duplicate _), t) => (.error (.alreadyApplied file), t)
    | (.error e, t) => (.error (failed e), t)

/-- Runs one migration in a transaction, which is committed if all went well and
rolled back otherwise. -/
def executeOne (m : Manager) (direction : Direction) (batch : Int) (completed : List String)
    (file : String) (scripts : Scripts) : Task σ Unit := fun s =>
  let failed := Error.executionFailed file direction completed
  match Connection.begin.run s with
  | (.error e, s) => (.error (failed e), s)
  | (.ok _, s) =>
    match m.attempt direction file scripts batch failed (Transaction.mk s false) with
    | (.ok _, t) =>
      let (r, s) := t.finish .commit
      (r.mapError failed, s)
    | (.error e, t) =>
      match t.finish .rollback with
      | (.ok _, s) => (.error e, s)
      | (.error rollbackError, s) =>
        (.error e, Connection.warn ("rollback after failed " ++ direction.word ++ " of " ++ file ++
          " failed: " ++ rollbackError.message) s)

/-- Runs migrations one after the other and answers with the completed ones. -/
def executeEach (m : Manager) (direction : Direction) (batch : Int) :
    List String → List (String × Scripts) → Task σ (List String)
  | completed, [] => return completed
  | completed, (file, scripts) :: rest => do
    m.executeOne direction batch completed file scripts
    m.executeEach direction batch (completed ++ [file]) rest

/-! ## Running -/

/-- Runs the pending migrations, up to a limit, as a new batch. -/
def runPending (m : Manager) (limit : Option Nat) : Task σ (List String) := do
  Task.ofAction (Ledger.ensure m.ledgerTable)
  let entries ← Task.ofAction (Ledger.entries m.ledgerTable)
  let files ← Task.ofExcept (m.pending entries limit)
  if files = [] then return []
  else
    let resolved ← Task.ofExcept (m.resolve files)
    m.executeEach .up (lastBatch entries + 1) [] resolved

/-- Runs pending migrations; with a limit of zero there is nothing to do. -/
def run (m : Manager) (limit : Option Nat) : Task σ (List String) :=
  if limit = some 0 then pure [] else m.locked (m.runPending limit)

/-- The rows of the ledger, if there is one. -/
def appliedEntries (m : Manager) : Task σ (Option (List LedgerEntry)) := do
  if ← Task.ofAction (Ledger.isPresent m.ledgerTable) then
    let entries ← Task.ofAction (Ledger.entries m.ledgerTable)
    return some entries
  else return none

/-! ## Reverting -/

/-- The files of some rows, the latest first. -/
def reversed (rows : List LedgerEntry) : List String :=
  ((rows.mergeSort fun a b => decide (a.id ≤ b.id)).reverse).map (·.migration)

/-- Reverts the migrations of some rows, the latest first. -/
def revert (m : Manager) (rows : List LedgerEntry) : Task σ (List String) := do
  let resolved ← Task.ofExcept (m.resolve (reversed rows))
  m.executeEach .down 0 [] resolved

/-- The latest batches, at most as many as given. -/
def latestBatches (steps : Nat) (entries : List LedgerEntry) : List Int :=
  (((entries.map (·.batch)).eraseDups).mergeSort fun a b => decide (b ≤ a)).take steps

/-- Reverts the latest batches. -/
def rollback (m : Manager) (steps : Nat) : Task σ (List String) :=
  if steps = 0 then pure []
  else m.locked do
    match ← m.appliedEntries with
    | none => return []
    | some entries =>
      let targets := latestBatches steps entries
      m.revert (entries.filter fun e => targets.contains e.batch)

/-- Reverts everything. -/
def reset (m : Manager) : Task σ (List String) :=
  m.locked do
    match ← m.appliedEntries with
    | none => return []
    | some entries => m.revert entries

/-! ## Reporting -/

/-- The status of every available migration. -/
def status (m : Manager) : Task σ (List StatusEntry) := do
  let entries := (← m.appliedEntries).getD []
  let files ← Task.ofExcept m.available
  return files.map (StatusEntry.ofLedger entries)

/-- Notes a migration as applied without running it, in a batch or in a new one;
tells whether it was not noted before. -/
def mark (m : Manager) (file : String) (batch : Option Nat) : Task σ Bool :=
  match MigrationFile.ofFilename file with
  | .error f => throw (.malformed (.filename f))
  | .ok _ =>
    if batch = some 0 then throw (.malformed .batchZero)
    else m.locked do
      Task.ofAction (Ledger.ensure m.ledgerTable)
      let batch ← match batch with
        | some n => pure (n : Int)
        | none => do
          let entries ← Task.ofAction (Ledger.entries m.ledgerTable)
          pure (lastBatch entries + 1)
      Task.ofAction (Ledger.recordIfAbsent m.ledgerTable file batch)

/-- What a script would send. -/
def rehearse (script : List Operation) : Action σ (List String) := fun s =>
  let (r, t) := (runAll script).run (Rehearsal.mk s [])
  (r.map fun _ => t.captured, t.inner)

/-- What migrations would send, one after the other. -/
def rehearseEach : List String → List (String × Scripts) → Task σ (List PlannedMigration)
  | _, [] => return []
  | completed, (file, scripts) :: rest => do
    let statements ← fun s =>
      let (r, s) := (rehearse scripts.up).run s
      (r.mapError (Error.executionFailed file .up completed), s)
    return ⟨file, statements⟩ :: (← rehearseEach (completed ++ [file]) rest)

/-- What a run would send for each pending migration. -/
def pretend (m : Manager) (limit : Option Nat) : Task σ (List PlannedMigration) :=
  if limit = some 0 then pure []
  else do
    let entries := (← m.appliedEntries).getD []
    let files ← Task.ofExcept (m.pending entries limit)
    let resolved ← Task.ofExcept (m.resolve files)
    rehearseEach [] resolved

end Manager

end SchemaMigration.Migration
