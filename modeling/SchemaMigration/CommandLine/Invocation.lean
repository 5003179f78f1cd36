import SchemaMigration.CommandLine.Grammar

/-
  Invocations: the command line of the program.

  In front of the subcommand stand the options that override the configuration
  and say how much is told; each subcommand has options of its own.
-/
namespace SchemaMigration.CommandLine

/-- What is to be done. -/
inductive Command where
  | status (json : Bool)
  | run (step : Option Nat) (pretend : Bool)
  | rollback (step : Nat)
  | reset
  | generate (description : String) (table : Option String)
  | generateFromTable (table : String) (markApplied : Bool)
  | generateAll (exclude : List String) (markApplied : Bool)
  | markApplied (filename : String) (batch : Option Nat)
  deriving DecidableEq, Repr

/-- A command line. -/
structure Invocation where
  databaseUrl : Option String
  migrationsDir : Option String
  verbose : Bool
  quiet : Bool
  command : Command
  deriving DecidableEq, Repr

/-- A subcommand: its name, what may follow it, and what it means. -/
structure Subcommand where
  name : String
  grammar : Grammar
  meaning : Reading → Command

/-- The flag that every grammar has. -/
def helpFlag : Flag := ⟨"help", some 'h', .help⟩

/-- The first operand. -/
def Reading.operand (r : Reading) : String := r.operands.headD ""

/-- All subcommands that do something. -/
def subcommands : List Subcommand :=
  [{ name := "status"
     grammar := { flags := [helpFlag, ⟨"json", none, .mark⟩] }
     meaning := fun r => .status (r.has "json") },
   { name := "run"
     grammar := { flags := [helpFlag, ⟨"pretend", none, .mark⟩], options := [⟨"step", .count⟩] }
     meaning := fun r => .run (r.number? "step") (r.has "pretend") },
   { name := "rollback"
     grammar := { flags := [helpFlag], options := [⟨"step", .count⟩] }
     meaning := fun r => .rollback ((r.number? "step").getD 1) },
   { name := "reset"
     grammar := { flags := [helpFlag] }
     meaning := fun _ => .reset },
   { name := "generate"
     grammar := { flags := [helpFlag], options := [⟨"table", .text⟩], operands := 1 }
     meaning := fun r => .generate r.operand (r.text? "table") },
   { name := "generate-from-table"
     grammar := { flags := [helpFlag, ⟨"mark-applied", none, .mark⟩], operands := 1 }
     meaning := fun r => .generateFromTable r.operand (r.has "mark-applied") },
   { name := "generate-all"
     grammar :=
       { flags := [helpFlag, ⟨"mark-applied", none, .mark⟩], options := [⟨"exclude", .list⟩] }
     meaning := fun r => .generateAll (r.texts "exclude") (r.has "mark-applied") },
   { name := "mark-applied"
     grammar := { flags := [helpFlag], options := [⟨"batch", .smallCount⟩], operands := 1 }
     meaning := fun r => .markApplied r.operand (r.number? "batch") }]

/-- The names of all subcommands, that for help included. -/
def subcommandNames : List String := subcommands.map (·.name) ++ ["help"]

/-- What stands in front of the subcommand. -/
def generalGrammar : Grammar :=
  { flags := [helpFlag, ⟨"version", some 'V', .version⟩, ⟨"verbose", some 'v', .mark⟩,
      ⟨"quiet", some 'q', .mark⟩]
    options := [⟨"database-url", .text⟩, ⟨"migrations-dir", .path⟩]
    subcommands := subcommandNames }

/-- Why the subcommand for help is not carried out: it asks for help on at most one
subcommand. -/
def helpRefusal : List String → Refusal
  | [] => .help
  | [name] => if subcommandNames.contains name then .help else .unknownSubcommand
  | _ => .unknownSubcommand

/-- The command that a subcommand makes with the words behind it. -/
def commandOf (name : String) (ws : List String) : Except Refusal Command :=
  match subcommands.find? (·.name == name) with
  | none => .error (helpRefusal ws)
  | some c => do
    let (r, _) ← c.grammar.readWords {} ws
    let r ← c.grammar.finish r
    return c.meaning r

/-- The invocation that words make. -/
def Invocation.ofWords (ws : List String) : Except Refusal Invocation := do
  match ← generalGrammar.readWords {} ws with
  | (r, none) =>
    let _ ← generalGrammar.finish r
    .error .noSubcommand
  | (r, some (name, ws)) =>
    let command ← commandOf name ws
    let r ← r.settle
    return { databaseUrl := r.text? "database-url", migrationsDir := r.text? "migrations-dir",
             verbose := r.has "verbose", quiet := r.has "quiet", command }

end SchemaMigration.CommandLine
