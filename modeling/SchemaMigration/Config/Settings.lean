import SchemaMigration.Config.Setting

/-
  The settings that the manager, the generator and the command line share.
-/
namespace SchemaMigration.Config

/-- Where the database and the migrations are. A lock timeout of zero means that
no lock is taken. -/
structure Settings where
  databaseUrl : String := "mysql://root@localhost:3306/strata_dev"
  migrationsDir : String := "migrations"
  ledgerTable : String := "migrations"
  lockTimeoutSeconds : Nat := 0
  deriving DecidableEq, Repr

namespace Settings

/-- The seconds to wait for the lock, if it is to be taken. -/
def lockTimeout (s : Settings) : Option Nat :=
  if s.lockTimeoutSeconds = 0 then none else some s.lockTimeoutSeconds

/-- The value that a name is bound to, or a default if it is not bound; `none` if
the setting is of no use. -/
def valueOr {α : Type} (bs : Bindings) (name : String) (read : Setting → Option α)
    (default : α) : Option α :=
  match bs.get? name with
  | some s => read s
  | none => some default

/-- The settings that bindings make. -/
def ofBindings (bs : Bindings) : Option Settings := do
  let standard : Settings := {}
  let databaseUrl ← valueOr bs "database_url" Setting.asText standard.databaseUrl
  let migrationsDir ← valueOr bs "migrations_dir" Setting.asText standard.migrationsDir
  let ledgerTable ← valueOr bs "ledger_table" Setting.asText standard.ledgerTable
  let lockTimeoutSeconds ←
    valueOr bs "lock_timeout_seconds" Setting.asCount standard.lockTimeoutSeconds
  return { databaseUrl, migrationsDir, ledgerTable, lockTimeoutSeconds }

end Settings

end SchemaMigration.Config
