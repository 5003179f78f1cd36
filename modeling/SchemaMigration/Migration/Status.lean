import SchemaMigration.Migration.Ledger

/-
  The status of migrations.
-/
namespace SchemaMigration.Migration

open Text Calendar

/-- Whether a migration is applied, and when and in which batch. -/
structure StatusEntry where
  filename : String
  applied : Bool
  batch : Option Int
  appliedAt : Option DateTime
  deriving DecidableEq, Repr

/-- The status of a file, given the ledger. -/
def StatusEntry.ofLedger (entries : List LedgerEntry) (filename : String) : StatusEntry :=
  match entries.reverse.find? (·.migration == filename) with
  | some e => ⟨filename, true, some e.batch, e.appliedAt⟩
  | none => ⟨filename, false, none, none⟩

/-- The number of migrations that are not applied. -/
def pendingCount (entries : List StatusEntry) : Nat := entries.countP (!·.applied)

end SchemaMigration.Migration
