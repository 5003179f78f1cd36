import SchemaMigration.CommandLine.Execution

/-
  The program: reads its words, the environment and the configuration files, and
  says what became of the command line.

  There is no driver for a database server here, so an address that passes the
  check is still refused.
-/
namespace SchemaMigration.Program

open Config Database CommandLine

/-- What is printed when a command line is not carried out. -/
def refusalText : Refusal → String
  | .help => "Usage: strata-migrate [OPTIONS] <COMMAND>\n\nCommands:\n  " ++
      String.intercalate "\n  " subcommandNames
  | .version => "strata-migrate 0.1.0"
  | .nothingGiven | .noSubcommand => "error: a subcommand is required"
  | .unknownSubcommand => "error: unrecognized subcommand"
  | .unknownArgument => "error: unexpected argument"
  | .repeated => "error: an argument is used twice"
  | .noValue => "error: a value is required"
  | .badValue => "error: invalid value"
  | .needlessValue => "error: unexpected value"
  | .missingOperand => "error: a required argument is missing"

/-- The status that the program ends with when a command line is not carried
out. -/
def refusalStatus : Refusal → UInt32
  | .help | .version => 0
  | _ => 2

/-- The text of a file, if it can be read. -/
def textOf? (path : String) : IO (Option String) :=
  try
    let text ← IO.FS.readFile path
    return some text
  catch _ => return none

/-- The variables that are looked for in the environment. -/
def variableNames : List String :=
  ["DATABASE_URL", "STRATA__DATABASE_URL", "STRATA__MIGRATIONS_DIR", "STRATA__LEDGER_TABLE",
    "STRATA__LOCK_TIMEOUT_SECONDS"]

/-- The sources of the settings. -/
def sources : IO Sources := do
  let environment ← variableNames.filterMapM fun name => do
    let value ← IO.getEnv name
    return value.map (name, ·)
  return ⟨environment, ← textOf? ".env", ← textOf? "config/strata.toml"⟩

/-- Carries out an invocation as far as the connection. -/
def carryOut (i : Invocation) : IO UInt32 := do
  let text := match i.connectableSettings (← sources) with
    | .error f => f.message
    | .ok s => "connecting to " ++ redacted s.databaseUrl ++
        ": Connection failed: Execution error: there is no driver for this address"
  IO.eprintln ("Error: " ++ text)
  return 1

end SchemaMigration.Program

/-- Runs the program. -/
def main (words : List String) : IO UInt32 := do
  match SchemaMigration.CommandLine.Invocation.ofWords words with
  | .error r =>
    IO.println (SchemaMigration.Program.refusalText r)
    return SchemaMigration.Program.refusalStatus r
  | .ok i => SchemaMigration.Program.carryOut i
