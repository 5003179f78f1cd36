import SchemaMigration.Catalog.Description
import SchemaMigration.Source.Call

/-
  Artifacts: the source files that hold one migration each.

  An artifact declares a type with two methods, one that applies the migration
  and one that reverts it, and imports what the methods name.
-/
namespace SchemaMigration.Source

open Table Catalog

/-- What a method of a migration does. -/
inductive Body where
  | create (table : String) (calls : List BuildCall)
  | alter (table : String) (calls : List BuildCall)
  | dropIfExists (table : String)
  deriving DecidableEq, Repr

/-- The calls of a body. -/
def Body.calls : Body → List BuildCall
  | create _ calls => calls
  | alter _ calls => calls
  | dropIfExists _ => []

/-- The contents of an artifact. -/
structure Artifact where
  structName : String
  summary : String
  up : Body
  down : Body
  deriving DecidableEq, Repr

/-- Twelve blanks, the depth of a call. -/
def callIndent : String := "            "

/-- The lines of a callback that fills a table; an empty one holds an example
as a comment. -/
def callbackLines (method table : String) (calls : List BuildCall) : List String :=
  if calls = [] then
    ["        schema." ++ method ++ "(" ++ literal table ++ ", |_table| \x7b",
      callIndent ++ "// table.string(\"name\", 255);",
      "        \x7d)"]
  else
    ["        schema." ++ method ++ "(" ++ literal table ++ ", |table| \x7b"] ++
      calls.map (fun c => callIndent ++ renderCall c ++ ";") ++
      ["        \x7d)"]

/-- The lines of a body. -/
def Body.lines : Body → List String
  | create table calls => callbackLines "create" table calls
  | alter table calls => callbackLines "alter_table" table calls
  | dropIfExists table => ["        schema.drop_if_exists(" ++ literal table ++ ")"]

/-- The lines of a method. -/
def methodLines (method : String) (body : Body) : List String :=
  ["    fn " ++ method ++ "(&self, schema: &SchemaGateway<'_>) -> Result<(), StrataError> \x7b"] ++
    body.lines ++ ["    \x7d"]

namespace Artifact

/-- Whether some call of the artifact has a need. -/
def needs (a : Artifact) (uses : BuildCall → Bool) : Bool :=
  [a.up, a.down].any fun b => b.calls.any uses

/-- The types imported from the schema module, in alphabetical order. -/
def schemaImports (a : Artifact) : List String :=
  (if a.needs usesDefault then [defaultType] else []) ++
    (if a.needs usesAction then [actionType] else []) ++ ["SchemaGateway"]

/-- The line that imports the types of the schema module. -/
def importLine (a : Artifact) : String :=
  match a.schemaImports with
  | [only] => "use strata::schema::" ++ only ++ ";"
  | several => "use strata::schema::\x7b" ++ String.intercalate ", " several ++ "\x7d;"

/-- The lines of an artifact. -/
def lines (a : Artifact) : List String :=
  ["//! " ++ a.summary,
    "",
    "use strata::migration::Migration;",
    a.importLine,
    "use strata::StrataError;",
    "",
    "pub struct " ++ a.structName ++ ";",
    "",
    "impl Migration for " ++ a.structName ++ " \x7b"] ++
    methodLines "up" a.up ++ [""] ++ methodLines "down" a.down ++ ["\x7d"]

/-- The text of an artifact, each line closed by a line break. -/
def render (a : Artifact) : String := String.join (a.lines.map (· ++ "\n"))

/-- The artifact that rebuilds a table as it was inspected. -/
def ofSnapshot (structName : String) (s : Snapshot) : Artifact :=
  { structName
    summary := "Create the `" ++ s.table ++ "` table, generated from the live schema"
    up := .create s.table s.calls
    down := .dropIfExists s.table }

end Artifact

end SchemaMigration.Source
