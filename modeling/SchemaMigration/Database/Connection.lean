import SchemaMigration.Database.Error
import SchemaMigration.Sql.Row

/-
  Connections: what statements and queries are sent to.

  An action on a connection answers or fails, and gives the connection after it.
  What was done before a failure stays done.

  Main statement: `Action.run_bind`, an action goes on from the connection that the
  one before it left.
-/
namespace SchemaMigration.Database

open Sql

/-- A computation on a connection of type `σ`. -/
abbrev Action (σ α : Type) := ExceptT Error (StateM σ) α

namespace Action

variable {σ α β : Type}

theorem run_pure (a : α) (s : σ) : (pure a : Action σ α).run s = (.ok a, s) := rfl

theorem run_bind (x : Action σ α) (f : α → Action σ β) (s : σ) :
    (x >>= f).run s = match x.run s with
      | (.ok a, s') => (f a).run s'
      | (.error e, s') => (.error e, s') := by
  show ExceptT.bindCont f (x.run s).1 (x.run s).2 = _
  rcases x.run s with ⟨_ | a, s'⟩ <;> rfl

theorem run_tryCatch (x : Action σ α) (f : Error → Action σ α) (s : σ) :
    (tryCatch x f).run s = match x.run s with
      | (.ok a, s') => (.ok a, s')
      | (.error e, s') => (f e).run s' := by
  simp only [tryCatch, tryCatchThe, MonadExceptOf.tryCatch, ExceptT.tryCatch, ExceptT.run_mk,
    bind, StateT.bind]
  rcases h : x s with ⟨_ | a, s'⟩
  · rw [show x.run s = _ from h]
    rfl
  · rw [show x.run s = _ from h]
    rfl

theorem run_bind_ok {x : Action σ α} {f : α → Action σ β} {s s' : σ} {a : α}
    (h : x.run s = (.ok a, s')) : (x >>= f).run s = (f a).run s' := by
  rw [run_bind, h]

theorem run_bind_error {x : Action σ α} {f : α → Action σ β} {s s' : σ} {e : Error}
    (h : x.run s = (.error e, s')) : (x >>= f).run s = (.error e, s') := by
  rw [run_bind, h]

theorem of_run_bind {x : Action σ α} {f : α → Action σ β} {s s'' : σ} {b : β}
    (h : (x >>= f).run s = (.ok b, s'')) :
    ∃ a s', x.run s = (.ok a, s') ∧ (f a).run s' = (.ok b, s'') := by
  rw [run_bind] at h
  rcases hx : x.run s with ⟨e | a, s'⟩
  · rw [hx] at h
    cases h
  · rw [hx] at h
    exact ⟨a, s', rfl, h⟩

theorem run_discard (x : Action σ α) (s : σ) :
    (do let _ ← x : Action σ Unit).run s = ((x.run s).1.map fun _ => (), (x.run s).2) := by
  rw [run_bind]
  rcases x.run s with ⟨_ | a, s'⟩ <;> rfl

end Action

/-- A result that is known to be an answer comes with what was left behind it. -/
theorem eq_ok_of_toOption {ε σ α : Type} {r : Except ε α × σ} {a : α}
    (h : r.1.toOption = some a) : r = (.ok a, r.2) := by
  obtain ⟨_ | b, s⟩ := r
  · cases h
  · obtain rfl := Option.some.inj h
    rfl

/-- What can be done with a connection. A statement answers with the number of
rows it affected; a warning is noted and has no other effect. -/
class Connection (σ : Type) where
  execute : String → List Value → Action σ Nat
  query : String → List Value → Action σ (List Row)
  begin : Action σ Unit
  commit : Action σ Unit
  rollback : Action σ Unit
  warn : String → σ → σ

/-- The statement that opens a transaction. -/
def beginSql : String := "START TRANSACTION"

/-- The statement that ends a transaction and keeps its effects. -/
def commitSql : String := "COMMIT"

/-- The statement that ends a transaction and undoes its effects. -/
def rollbackSql : String := "ROLLBACK"

section
variable {σ : Type} [Connection σ]

/-- Sends a statement whose count does not matter. -/
def statement (sql : String) : Action σ Unit := do
  let _ ← Connection.execute (σ := σ) sql []

/-- The first row of the answer to a query. -/
def queryOne (sql : String) (params : List Value) : Action σ (Option Row) := do
  let rows ← Connection.query sql params
  return rows.head?

/-- Notes a warning. -/
def warning (text : String) : Action σ Unit := modify (Connection.warn text)

end

end SchemaMigration.Database
