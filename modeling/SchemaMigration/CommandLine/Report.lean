import SchemaMigration.Migration.Status

/-
  The status of migrations as text: a table for readers, or JSON.
-/
namespace SchemaMigration.CommandLine

open Text Calendar Migration

/-- A text filled up with spaces behind it. -/
def filled (width : Nat) (s : String) : String :=
  s ++ String.ofList (List.replicate (width - s.length) ' ')

/-- A text moved to the right by spaces in front of it. -/
def movedRight (width : Nat) (s : String) : String :=
  String.ofList (List.replicate (width - s.length) ' ') ++ s

/-- The line of a table with three columns. -/
def tableLine (width : Nat) (filename batch state : String) : String :=
  filled width filename ++ "  " ++ movedRight 5 batch ++ "  " ++ state

/-- The words for the state of a migration. -/
def stateText (e : StatusEntry) : String :=
  if !e.applied then "Pending"
  else match e.appliedAt with
    | some t => "Applied (" ++ t.text ++ ")"
    | none => "Applied"

/-- The lines of the table of all migrations. -/
def statusTable (entries : List StatusEntry) : List String :=
  if entries = [] then ["No migrations found"]
  else
    let width := (entries.map (·.filename.length)).foldl max 0
    let pending := pendingCount entries
    tableLine width "Migration" "Batch" "Status" ::
      entries.map (fun e => tableLine width e.filename ((e.batch.map intText).getD "") (stateText e)) ++
      ["", natText (entries.length - pending) ++ " applied, " ++ natText pending ++ " pending"]

/-- A text in quotes. Filenames and times hold nothing that has to be escaped. -/
def inQuotes (s : String) : String := "\"" ++ s ++ "\""

/-- The lines of an entry in JSON, with or without a comma behind it. -/
def entryLines (e : StatusEntry) (last : Bool) : List String :=
  ["  \x7b",
    "    \"filename\": " ++ inQuotes e.filename ++ ",",
    "    \"applied\": " ++ (if e.applied then "true" else "false") ++ ",",
    "    \"batch\": " ++ (e.batch.map intText).getD "null" ++ ",",
    "    \"applied_at\": " ++
      ((e.appliedAt.map fun t => inQuotes (String.ofList (t.written 'T'))).getD "null"),
    if last then "  \x7d" else "  \x7d,"]

/-- The lines of all entries in JSON. -/
def entriesLines : List StatusEntry → List String
  | [] => []
  | [e] => entryLines e true
  | e :: rest => entryLines e false ++ entriesLines rest

/-- The lines of the status in JSON. -/
def statusJson (entries : List StatusEntry) : List String :=
  if entries = [] then ["[]"] else ["["] ++ entriesLines entries ++ ["]"]

end SchemaMigration.CommandLine
