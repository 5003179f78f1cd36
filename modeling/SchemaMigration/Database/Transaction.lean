import SchemaMigration.Database.Connection

/-
  Transactions: a connection inside one transaction.

  Until it is closed a transaction passes statements and queries on; closed by
  commit or rollback, it refuses them. A transaction cannot be opened inside
  another. At its end `finish` sends the statement that closes it, and `abandon`
  rolls back what nobody closed.
-/
namespace SchemaMigration.Database

open Sql

/-- A connection of type `σ` inside a transaction. -/
structure Transaction (σ : Type) where
  inner : σ
  closed : Bool := false

/-- The error of a transaction that is used after its end. -/
def closedError : Error := .other "Transaction has already been committed or rolled back"

/-- The error of a transaction that is opened inside another. -/
def nestedError : Error := .other "nested transactions are not supported"

namespace Transaction

variable {σ : Type}

/-- An action of the inner connection, unless the transaction is closed. -/
def whileOpen {α : Type} (act : Action σ α) : Action (Transaction σ) α := fun t =>
  if t.closed then (.error closedError, t)
  else
    let (r, inner) := act.run t.inner
    (r, { t with inner })

/-- An action of the inner connection that closes the transaction, unless it is
closed. -/
def closing {α : Type} (act : Action σ α) : Action (Transaction σ) α := fun t =>
  if t.closed then (.error closedError, t)
  else
    let (r, inner) := act.run t.inner
    (r, ⟨inner, true⟩)

instance [Connection σ] : Connection (Transaction σ) where
  execute sql params := whileOpen (Connection.execute sql params)
  query sql params := whileOpen (Connection.query sql params)
  begin := throw nestedError
  commit := closing Connection.commit
  rollback := closing Connection.rollback
  warn text t := { t with inner := Connection.warn text t.inner }

/-- How a transaction that its owner holds comes to its end. -/
inductive Ending where
  | commit
  | rollback
  /-- The owner lets go of it. -/
  | abandon
  deriving DecidableEq, Repr

/-- Rolls back what nobody closed; a failure of that is only a warning. -/
def abandon [Connection σ] (t : Transaction σ) : σ :=
  if t.closed then t.inner
  else match Connection.rollback.run t.inner with
    | (.ok _, inner) => inner
    | (.error e, inner) =>
      Connection.warn ("failed to roll back abandoned transaction: " ++ e.message) inner

/-- The end of a transaction. To commit and to roll back send their statement
whether or not the transaction was closed before. -/
def finish [Connection σ] (e : Ending) (t : Transaction σ) : Except Error Unit × σ :=
  match e with
  | .commit => Connection.commit.run t.inner
  | .rollback => Connection.rollback.run t.inner
  | .abandon => (.ok (), t.abandon)

end Transaction

end SchemaMigration.Database
