import SchemaMigration.Database.Connection
import SchemaMigration.Migration.Error

/-
  Tasks: work on migrations over a connection.

  Main statement: `Task.run_bind`, a task goes on from the connection that the one
  before it left.
-/
namespace SchemaMigration.Migration

open Database

/-- A computation on a connection of type `σ` that fails for a reason of its own. -/
abbrev Task (σ α : Type) := ExceptT Error (StateM σ) α

/-- An action as a task. -/
def Task.ofAction {σ α : Type} (act : Action σ α) : Task σ α := fun s =>
  let (r, s) := act.run s
  (r.mapError .database, s)

/-- A result as a task. -/
def Task.ofExcept {σ α : Type} : Except Error α → Task σ α
  | .ok a => pure a
  | .error e => throw e

namespace Task

variable {σ α β : Type}

theorem run_bind (x : Task σ α) (f : α → Task σ β) (s : σ) :
    (x >>= f).run s = match x.run s with
      | (.ok a, s') => (f a).run s'
      | (.error e, s') => (.error e, s') := by
  show ExceptT.bindCont f (x.run s).1 (x.run s).2 = _
  rcases x.run s with ⟨_ | a, s'⟩ <;> rfl

theorem run_bind_ok {x : Task σ α} {f : α → Task σ β} {s s' : σ} {a : α}
    (h : x.run s = (.ok a, s')) : (x >>= f).run s = (f a).run s' := by
  rw [run_bind, h]

theorem run_bind_error {x : Task σ α} {f : α → Task σ β} {s s' : σ} {e : Error}
    (h : x.run s = (.error e, s')) : (x >>= f).run s = (.error e, s') := by
  rw [run_bind, h]

theorem of_run_bind {x : Task σ α} {f : α → Task σ β} {s s'' : σ} {b : β}
    (h : (x >>= f).run s = (.ok b, s'')) :
    ∃ a s', x.run s = (.ok a, s') ∧ (f a).run s' = (.ok b, s'') := by
  rw [run_bind] at h
  rcases hx : x.run s with ⟨e | a, s'⟩
  · rw [hx] at h
    cases h
  · rw [hx] at h
    exact ⟨a, s', rfl, h⟩

theorem run_ofAction (act : Action σ α) (s : σ) :
    (ofAction act).run s = ((act.run s).1.mapError .database, (act.run s).2) := rfl

theorem of_run_ofAction {act : Action σ α} {s s' : σ} {a : α}
    (h : (ofAction act).run s = (.ok a, s')) : act.run s = (.ok a, s') := by
  rw [run_ofAction] at h
  rcases hact : act.run s with ⟨e | b, s''⟩
  · rw [hact] at h
    cases h
  · rw [hact] at h
    obtain ⟨⟨⟩, rfl⟩ := Prod.mk.inj h
    rfl

theorem run_ofExcept (r : Except Error α) (s : σ) : (ofExcept r : Task σ α).run s = (r, s) := by
  cases r with
  | ok a => rfl
  | error e => rfl

end Task

end SchemaMigration.Migration
