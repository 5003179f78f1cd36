import SchemaMigration.Database.NameMap
import SchemaMigration.Migration.Error
import SchemaMigration.Schema.Operation

/-
  Registries: the migrations that a program brings along, by identity.
-/
namespace SchemaMigration.Migration

open Database Schema

/-- The scripts of a migration. -/
structure Scripts where
  up : List Operation
  down : List Operation

/-- The script for a direction. -/
def Scripts.toward (m : Scripts) : Direction → List Operation
  | .up => m.up
  | .down => m.down

/-- Migrations with their filenames, by identity. -/
structure Registry where
  entries : NameMap (String × Scripts) := ∅

namespace Registry

/-- A registry without migrations. -/
def empty : Registry := {}

/-- The registry with one more migration; its filename must be an artifact's and
new. -/
def register (r : Registry) (filename : String) (m : Scripts) : Except Error Registry :=
  match MigrationFile.ofFilename filename with
  | .error f => .error (.malformed (.filename f))
  | .ok file =>
    if r.entries.contains file.identity then .error (.alreadyRegistered filename)
    else .ok ⟨r.entries.insert file.identity (file.filename, m)⟩

/-- The migration of a file. -/
def get? (r : Registry) (filename : String) : Option Scripts :=
  (r.entries.get? (identityOf filename)).map Prod.snd

/-- Whether the migration of a file is registered. -/
def contains (r : Registry) (filename : String) : Bool := r.entries.contains (identityOf filename)

/-- The filenames, in order of identities. -/
def filenames (r : Registry) : List String := r.entries.values.map Prod.fst

/-- The identities, in ascending order. -/
def identities (r : Registry) : List String := r.entries.keys

/-- The number of migrations. -/
def size (r : Registry) : Nat := r.entries.entries.length

end Registry

end SchemaMigration.Migration
