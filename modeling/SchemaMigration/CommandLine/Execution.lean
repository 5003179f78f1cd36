import SchemaMigration.CommandLine.Invocation
import SchemaMigration.CommandLine.Report
import SchemaMigration.Config.Load
import SchemaMigration.Database.Address
import SchemaMigration.Generation.Generator
import SchemaMigration.Migration.Manager

/-
  Carrying out command lines.

  Settings come from the configuration and give way to the environment's
  database address and then to the command line. The address is checked before
  a connection is made. What is printed before a failure stays printed.
-/
namespace SchemaMigration.CommandLine

open Text Config Database Migration Generation

/-- Why a command line failed. -/
inductive Failure where
  | configuration
  | address (address : String) (fault : AddressFault)
  | migration (e : Migration.Error)
  | batchOutOfRange
  deriving DecidableEq, Repr

/-- The wording of a failure and of what lies behind it. -/
def Failure.message : Failure → String
  | configuration => "loading configuration"
  | address a fault => "connecting to " ++ redacted a ++ ": " ++ fault.message
  | migration e => e.chain
  | batchOutOfRange =>
    "batch number out of range: out of range integral type conversion attempted"

/-! ## Settings -/

/-- Where settings come from: the environment, a file that adds to it, and a
configuration document. -/
structure Sources where
  environment : Environment
  environmentFile : Option String
  document : Option String

namespace Invocation

/-- The settings that hold for an invocation. -/
def settings (i : Invocation) (sources : Sources) : Except Failure Settings :=
  let env := match sources.environmentFile with
    | some text => sources.environment.addFile text
    | none => sources.environment
  match Settings.load? sources.document env with
  | none => .error .configuration
  | some s => .ok
    { s with
      databaseUrl := (i.databaseUrl.or (env.get? "DATABASE_URL")).getD s.databaseUrl
      migrationsDir := i.migrationsDir.getD s.migrationsDir }

/-- The settings that hold for an invocation, with an address to connect to. -/
def connectableSettings (i : Invocation) (sources : Sources) : Except Failure Settings :=
  match i.settings sources with
  | .error f => .error f
  | .ok s =>
    match checkAddress s.databaseUrl with
    | .error fault => .error (.address s.databaseUrl fault)
    | .ok _ => .ok s

end Invocation

/-! ## Commands -/

/-- A workspace, and the lines printed so far. -/
structure Console (σ : Type) where
  workspace : Workspace σ
  lines : List String := []

/-- The printed text. -/
def Console.text {σ : Type} (c : Console σ) : String := String.join (c.lines.map (· ++ "\n"))

/-- A computation on a console. -/
abbrev Run (σ α : Type) := ExceptT Failure (StateM (Console σ)) α

section
variable {σ α : Type}

/-- Prints lines. -/
def print (lines : List String) : Run σ Unit := modify fun c => { c with lines := c.lines ++ lines }

/-- Works in the workspace. -/
def inWorkspace (act : Work σ α) : Run σ α := fun c =>
  let (r, workspace) := act.run c.workspace
  (r.mapError .migration, { c with workspace })

/-- Does a task on the connection. -/
def doing (act : Task σ α) : Run σ α := inWorkspace (onConnection act)

/-- The manager as the files are now. -/
def managerNow (s : Settings) (registry : Registry) : Run σ Manager := do
  return Manager.ofSettings s (← get).workspace.files registry

/-- Tells what was done with migrations. -/
def report (verb nothing : String) (files : List String) : Run σ Unit :=
  print (if files = [] then [nothing] else files.map fun f => verb ++ ": " ++ f)

/-- Tells that an artifact was written. -/
def reportCreated (f : MigrationFile) : Run σ Unit :=
  print ["Created " ++ f.path.getD f.filename]

variable [Connection σ]

/-- The batch that a migration is noted in, if it fits 32 bits. -/
def batchOf (m : Manager) (filename : String) : Run σ (Option Nat) := do
  let entries ← doing m.status
  match (entries.find? (·.filename == filename)).bind (·.batch) with
  | none => return none
  | some b => if 0 ≤ b ∧ b < UInt32.size then return some b.toNat else throw .batchOutOfRange

/-- Notes migrations as applied, all in one batch: a new one unless one is
given. -/
def markEach (m : Manager) : Option Nat → List MigrationFile → Run σ Unit
  | _, [] => return
  | batch, f :: rest => do
    let _ ← doing (m.mark f.filename batch)
    let batch ← match batch with
      | some b => pure (some b)
      | none => batchOf m f.filename
    markEach m batch rest

/-- What a plan prints. -/
def planLines (p : PlannedMigration) : List String :=
  p.filename :: p.statements.map fun s => "  " ++ s ++ ";"

/-- Carries out a command with settings and a registry; the clock is read for each
artifact. -/
def execute (c : Command) (s : Settings) (registry : Registry) (clock : Nat → Int) :
    Run σ Unit := do
  let generator := Generator.ofSettings s
  match c with
  | .status json =>
    let entries ← doing (← managerNow s registry).status
    print (if json then statusJson entries else statusTable entries)
  | .run step true =>
    let plans ← doing ((← managerNow s registry).pretend step)
    print (if plans.isEmpty then ["Nothing to migrate"] else plans.flatMap planLines)
  | .run step false =>
    report "Migrated" "Nothing to migrate" (← doing ((← managerNow s registry).run step))
  | .rollback step =>
    report "Rolled back" "Nothing to roll back"
      (← doing ((← managerNow s registry).rollback step))
  | .reset =>
    report "Rolled back" "Nothing to roll back" (← doing (← managerNow s registry).reset)
  | .generate description table =>
    reportCreated (← inWorkspace (generator.create (clock 0) description table))
  | .generateFromTable table markApplied =>
    let file ← inWorkspace (generator.generateTable (clock 0) table)
    reportCreated file
    if markApplied then
      let _ ← doing ((← managerNow s registry).mark file.filename none)
      print ["Marked applied " ++ file.filename]
  | .generateAll exclude markApplied =>
    let files ← inWorkspace (generator.generateAll clock exclude)
    if files.isEmpty then print ["No tables to generate"]
    files.forM reportCreated
    if markApplied && !files.isEmpty then
      markEach (← managerNow s registry) none files
      print ["Marked applied " ++ natText files.length ++ " migration(s)"]
  | .markApplied filename batch =>
    if ← doing ((← managerNow s registry).mark filename batch) then
      print ["Marked applied " ++ filename]
    else print [filename ++ " was already recorded"]

end

end SchemaMigration.CommandLine
