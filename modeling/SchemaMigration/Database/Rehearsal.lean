import SchemaMigration.Database.Connection

/-
  Rehearsals: a connection whose statements are noted and not sent.

  Queries are answered by the inner connection, so that a script that asks about
  the schema sees it as it is.
-/
namespace SchemaMigration.Database

open Sql

/-- A connection of type `σ` with the statements noted so far. -/
structure Rehearsal (σ : Type) where
  inner : σ
  captured : List String := []

namespace Rehearsal

variable {σ : Type}

/-- An action of the inner connection. -/
def through {α : Type} (act : Action σ α) : Action (Rehearsal σ) α := fun r =>
  let (x, inner) := act.run r.inner
  (x, { r with inner })

instance [Connection σ] : Connection (Rehearsal σ) where
  execute sql _ := fun r => (.ok 0, { r with captured := r.captured ++ [sql] })
  query sql params := through (Connection.query sql params)
  begin := pure ()
  commit := pure ()
  rollback := pure ()
  warn text r := { r with inner := Connection.warn text r.inner }

end Rehearsal

end SchemaMigration.Database
