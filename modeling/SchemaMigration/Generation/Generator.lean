import SchemaMigration.Catalog.DependencyOrder
import SchemaMigration.Config.Settings
import SchemaMigration.Database.NameMap
import SchemaMigration.Generation.Description
import SchemaMigration.Generation.Version
import SchemaMigration.Migration.Discovery
import SchemaMigration.Migration.Task
import SchemaMigration.Schema.Inspector
import SchemaMigration.Source.Artifact

/-
  The generator: writes artifacts into the migrations directory.

  An artifact is a scaffold for a description, or rebuilds a table as the
  catalog shows it. Its version is greater than that of every artifact in the
  directory and of every one the generator issued, so it sorts last, and a file
  that is there is never written over.
-/
namespace SchemaMigration.Generation

open Database Schema Catalog Source Migration Files

/-- What a generator keeps to: where it writes, which table is not the
program's own, and how an artifact is written. -/
structure Generator where
  directory : String
  ledgerTable : String
  template : Artifact → String := Artifact.render

/-- What a generator works on: a connection of type `σ` and the files. It
remembers the version it issued last. -/
structure Workspace (σ : Type) where
  connection : σ
  files : Tree
  lastVersion : Nat := 0

/-- A computation on a workspace. -/
abbrev Work (σ α : Type) := ExceptT Migration.Error (StateM (Workspace σ)) α

/-- A task on the connection of the workspace. -/
def onConnection {σ α : Type} (act : Task σ α) : Work σ α := fun w =>
  let (r, connection) := act.run w.connection
  (r, { w with connection })

namespace Generator

/-- A generator with settings. -/
def ofSettings (s : Config.Settings) : Generator := ⟨s.migrationsDir, s.ledgerTable, Artifact.render⟩

/-! ## Writing -/

/-- The version of the last artifact in the directory; zero if there is none. -/
def versionOnDisk (g : Generator) (files : Tree) : Nat :=
  match discover files g.directory with
  | .ok found => (found.getLast?.map (·.version)).getD 0
  | .error _ => 0

variable {σ : Type}

/-- Writes an artifact under the next version. -/
def write (g : Generator) (now : Int) (description : String) (a : Artifact) :
    Work σ MigrationFile := fun w =>
  let version := nextVersion (max w.lastVersion (g.versionOnDisk w.files)) now
  let w := { w with lastVersion := version }
  let filename := MigrationFile.format version description
  match MigrationFile.ofFilename filename with
  | .error f => (.error (.malformed (.filename f)), w)
  | .ok file =>
    match w.files.makeDirectories g.directory with
    | (.error f, files) => (.error (.io g.directory (.files f)), { w with files })
    | (.ok (), files) =>
      let path := join g.directory filename
      match files.create path (g.template a) with
      | .error f => (.error (.io path (.files f)), { w with files })
      | .ok files => (.ok { file with path := some path }, { w with files })

/-! ## Scaffolds -/

/-- The artifact that starts the alteration of a table. -/
def alteration (description table : String) : Artifact :=
  { structName := structName description
    summary := "Alter the `" ++ table ++ "` table"
    up := .alter table []
    down := .alter table [] }

/-- The artifact that starts the creation of a table. -/
def creation (description table : String) : Artifact :=
  { structName := structName description
    summary := "Create the `" ++ table ++ "` table"
    up := .create table [.key .id "id", .timestamps]
    down := .dropIfExists table }

/-- The scaffold for a reduced description, with the table to alter if there is
one. -/
def scaffold (description : String) (target : Option String) : Artifact :=
  match target with
  | some table => alteration description table
  | none => creation description (tableOf description)

/-- Writes a scaffold. -/
def create (g : Generator) (now : Int) (description : String) (target : Option String) :
    Work σ MigrationFile :=
  match normalized description with
  | .error e => throw e
  | .ok description => g.write now description (scaffold description target)

/-! ## Existing tables -/

/-- Writes the artifact that rebuilds a table. -/
def writeSnapshot (g : Generator) (now : Int) (s : Snapshot) : Work σ MigrationFile :=
  match normalized ("create_" ++ s.table ++ "_table") with
  | .error e => throw e
  | .ok description => g.write now description (Artifact.ofSnapshot (structName description) s)

variable [Connection σ]

/-- The structure of a table that should exist. -/
def inspectTable (table : String) : Task σ Snapshot := fun s =>
  match (inspect table).run s with
  | (.ok snapshot, s) => (.ok snapshot, s)
  | (.error (.notFound _ _), s) => (.error (.notFound ("table `" ++ table ++ "` does not exist")), s)
  | (.error e, s) => (.error (.database e), s)

/-- Writes the artifact that rebuilds an existing table. -/
def generateTable (g : Generator) (now : Int) (table : String) : Work σ MigrationFile := do
  let snapshot ← onConnection (inspectTable table)
  g.writeSnapshot now snapshot

/-- The structures of tables, by name. -/
def inspectEach : List String → Action σ (NameMap Snapshot)
  | [] => return ∅
  | table :: rest => do
    let snapshot ← inspect table
    let snapshots ← inspectEach rest
    return snapshots.insert table snapshot

/-- The structures of all tables but the ledger and the excluded ones. -/
def inspectAll (g : Generator) (excluded : List String) : Action σ (NameMap Snapshot) := do
  let names ← tables
  inspectEach (names.filter fun n => n != g.ledgerTable && !excluded.contains n)

/-- What a table refers to. -/
def referencesOf (s : Snapshot) : TableReferences := ⟨s.table, s.referencedTables⟩

/-- Snapshots in an order that puts referenced tables first, with a warning if
there is none. -/
def inDependencyOrder (snapshots : NameMap Snapshot) : Action σ (List Snapshot) := do
  let (order, cyclic) := dependencyOrder (snapshots.values.map referencesOf)
  if cyclic ≠ [] then warning (cycleWarning cyclic)
  return order.filterMap snapshots.get?

/-- Writes artifacts one after the other; the clock is read for each. -/
def writeEach (g : Generator) (clock : Nat → Int) : List Snapshot → Work σ (List MigrationFile)
  | [] => return []
  | s :: rest => do
    let file ← g.writeSnapshot (clock 0) s
    return file :: (← g.writeEach (fun n => clock (n + 1)) rest)

/-- Writes one artifact for every table but the ledger and the excluded ones. All
tables are inspected before the first artifact is written. -/
def generateAll (g : Generator) (clock : Nat → Int) (excluded : List String) :
    Work σ (List MigrationFile) := do
  let snapshots ← onConnection (Task.ofAction (do
    inDependencyOrder (← g.inspectAll excluded)))
  g.writeEach clock snapshots

end Generator

end SchemaMigration.Generation
