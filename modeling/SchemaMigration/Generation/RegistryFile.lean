import SchemaMigration.Migration.Discovery
import SchemaMigration.Source.RegistryModule

/-
  The registry module of a directory, written to a file.

  The module covers all artifacts of the directory. An earlier file at its path
  is written over.
-/
namespace SchemaMigration.Generation

open Migration Source Files

/-- Writes the registry module of a directory to a path, and answers with the
artifacts it covers. -/
def writeRegistryModule (files : Tree) (directory path : String) :
    Except Migration.Error (List MigrationFile × Tree) :=
  match discover files directory with
  | .error e => .error e
  | .ok found =>
    match files.write path (registryModule found) with
    | .error f => .error (.io path (.files f))
    | .ok files => .ok (found, files)

end SchemaMigration.Generation
