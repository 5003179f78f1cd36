import SchemaMigration.Migration.Error

/-
  Finding artifacts in a directory.

  An artifact is a file whose name has the form of one and whose path is not too
  long; everything else in the directory is passed over. Artifacts are listed by
  filename.
-/
namespace SchemaMigration.Migration

open Files

/-- The artifact at an entry of a directory, if there is one. -/
def artifactAt? (directory : String) : String × Node → Option MigrationFile
  | (name, .file _) =>
    let path := join directory name
    match Tree.checkPath (Path.ofText path), MigrationFile.ofFilename name with
    | .ok (), .ok f => some { f with path := some path }
    | _, _ => none
  | (_, .directory) => none

/-- The artifacts in a directory, by filename. -/
def discover (t : Tree) (directory : String) : Except Error (List MigrationFile) :=
  match t.get? directory with
  | none => .error (.io directory .noMigrationsDirectory)
  | some (.file _) => .error (.malformed (.notDirectory directory))
  | some .directory =>
    .ok (((t.children directory).filterMap (artifactAt? directory)).mergeSort
      fun a b => decide (a.filename ≤ b.filename))

end SchemaMigration.Migration
