import SchemaMigration.Database.Error
import SchemaMigration.Files.Tree
import SchemaMigration.Migration.FileName

/-
  What can go wrong when migrations are found, run and generated.
-/
namespace SchemaMigration.Migration

open Text

/-- Whether a migration is applied or reverted. -/
inductive Direction where
  | up
  | down
  deriving DecidableEq, Repr

def Direction.word : Direction → String
  | up => "up"
  | down => "down"

/-- Why something is not of the form it should have. -/
inductive FormFault where
  | filename (f : NameFault)
  | notDirectory (path : String)
  | batchZero
  | unusableDescription (description : String)
  deriving DecidableEq, Repr

/-- The wording of a fault. -/
def FormFault.message : FormFault → String
  | filename f => f.message
  | notDirectory path => "Path is not a directory: " ++ path
  | batchZero => "batch numbers start at 1"
  | unusableDescription description =>
    "migration description '" ++ description ++ "' has no usable characters"

/-- Why files could not be read or written. -/
inductive FileFault where
  | noMigrationsDirectory
  | files (f : Files.Fault)
  deriving DecidableEq, Repr

/-- The wording of a fault. -/
def FileFault.message : FileFault → String
  | noMigrationsDirectory => "migrations directory not found"
  | files f => f.message

/-- Why work on migrations failed. -/
inductive Error where
  | database (e : Database.Error)
  | io (path : String) (fault : FileFault)
  | malformed (fault : FormFault)
  | notFound (what : String)
  | lockTimeout (name : String) (seconds : Nat)
  | alreadyApplied (migration : String)
  | alreadyRegistered (migration : String)
  /-- A migration failed after the completed ones. -/
  | executionFailed (migration : String) (direction : Direction) (completed : List String)
      (cause : Database.Error)
  deriving DecidableEq, Repr

namespace Error

/-- The wording of an error. -/
def message : Error → String
  | database e => "Database error: " ++ e.message
  | io path fault => "I/O error on " ++ path ++ ": " ++ fault.message
  | malformed fault => "Invalid migration format: " ++ fault.message
  | notFound what => "Migration not found: " ++ what
  | lockTimeout name seconds =>
    "Migration lock timeout: could not acquire `" ++ name ++ "` within " ++ natText seconds ++
      "s. Another process may be running migrations."
  | alreadyApplied migration => "Migration '" ++ migration ++ "' has already been applied"
  | alreadyRegistered migration => "Migration '" ++ migration ++ "' is already registered"
  | executionFailed migration direction completed cause =>
    "Migration '" ++ migration ++ "' failed during " ++ direction.word ++ ": " ++ cause.message ++
      " (completed before failure: " ++
      (if completed = [] then "none" else String.intercalate ", " completed) ++ ")"

/-- The wording of what lies behind an error, if anything does. -/
def cause? : Error → Option String
  | database e => some e.message
  | io _ fault => some fault.message
  | executionFailed _ _ _ cause => some cause.message
  | _ => none

/-- The wording of an error and of what lies behind it. -/
def chain (e : Error) : String :=
  match e.cause? with
  | some cause => e.message ++ ": " ++ cause
  | none => e.message

end Error

end SchemaMigration.Migration
