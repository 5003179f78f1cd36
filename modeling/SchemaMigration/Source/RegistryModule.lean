import SchemaMigration.Migration.FileName
import SchemaMigration.Source.Literal

/-
  The source of the module that registers all artifacts of a directory.

  It declares one module for each artifact, by its identity, and a function that
  registers the struct of each under its filename.
-/
namespace SchemaMigration.Source

open Migration

/-- The lines that declare the module of an artifact, at its path if it has one. -/
def moduleLines (f : MigrationFile) : List String :=
  f.path.toList.map (fun p => "#[path = " ++ literal p ++ "]") ++ ["mod " ++ f.identity ++ ";"]

/-- The line that registers an artifact. -/
def registrationLine (f : MigrationFile) : String :=
  "    registry.register(" ++ literal f.filename ++ ", " ++ f.identity ++ "::" ++
    structName f.name ++ ")?;"

/-- The lines of a registry module. -/
def registryLines (files : List MigrationFile) : List String :=
  ["// @generated by strata::migration::build. Do not edit.", ""] ++
    files.flatMap moduleLines ++
    ["",
      "/// Registry of every migration compiled into this binary",
      "pub fn registry() -> Result<::strata::migration::MigrationRegistry, " ++
        "::strata::migration::MigrationError> \x7b",
      "    let mut registry = ::strata::migration::MigrationRegistry::new();"] ++
    files.map registrationLine ++
    ["    Ok(registry)", "\x7d"]

/-- The text of a registry module. -/
def registryModule (files : List MigrationFile) : String :=
  String.join ((registryLines files).map (· ++ "\n"))

/-- Identities as a list of literals. -/
def identityList (identities : List String) : String :=
  "[" ++ String.intercalate ", " (identities.map literal) ++ "]"

end SchemaMigration.Source
