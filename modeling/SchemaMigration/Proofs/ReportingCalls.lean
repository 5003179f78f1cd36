import SchemaMigration.Proofs.ManagerPlans

/-
  Calls that only report.

  A database in memory is changed by statements and by the two queries about locks, and
  by nothing else. A rehearsed script sends no statement, and neither a gateway call nor
  a look at the ledger asks about locks. So to tell the status and to pretend a run
  leave the database as it is, whatever they answer.

  Main statements: `status_unchanging` and `pretend_unchanging`.
-/
namespace SchemaMigration.Migration

open Sql Database Schema Catalog
open Database.Memory

/-- The computation leaves every database as it is. -/
def Unchanging {ε α : Type} (x : ExceptT ε (StateM Memory) α) : Prop := ∀ db, (x.run db).2 = db

namespace Unchanging
variable {ε α β : Type}

protected theorem pure (a : α) : Unchanging (pure a : ExceptT ε (StateM Memory) α) := fun _ => rfl

protected theorem bind {x : ExceptT ε (StateM Memory) α} {f : α → ExceptT ε (StateM Memory) β}
    (hx : Unchanging x) (hf : ∀ a, Unchanging (f a)) : Unchanging (x >>= f) := by
  intro db
  show ((ExceptT.bindCont f (x.run db).1).run (x.run db).2).2 = db
  rw [hx db]
  cases (x.run db).1 with
  | error e => rfl
  | ok a => exact hf a db

protected theorem ofExcept (r : Except Error α) : Unchanging (Task.ofExcept r) := by
  intro db
  rw [Task.run_ofExcept]

protected theorem ofAction {act : Action Memory α} (h : Unchanging act) :
    Unchanging (Task.ofAction act) := h

theorem sameLedger {x : Task Memory α} (h : Unchanging x) (db : Memory) :
    SameLedger db (x.run db).2 := by
  rw [h db]
  exact .refl db

end Unchanging

/-! ## Queries that are not about locks -/

theorem query_unchanging {sql : String} (hacquire : sql ≠ acquireLockSql)
    (hrelease : sql ≠ releaseLockSql) (params : List Value) :
    Unchanging (Connection.query sql params : Action Memory (List Row)) := by
  intro db
  rcases query_cases db sql params with h | ⟨h, -⟩ | ⟨h, -⟩
  · exact h
  · exact absurd h hacquire
  · exact absurd h hrelease

/-- A query that starts with other words than those about locks. -/
theorem query_unchanging_of_begins {start sql : String} (h : Begins start sql)
    (hacquire : ¬start.toList <+: "SELECT GET".toList ∧ ¬"SELECT GET".toList <+: start.toList)
    (hrelease : ¬start.toList <+: "SELECT RELEASE".toList ∧
      ¬"SELECT RELEASE".toList <+: start.toList) (params : List Value) :
    Unchanging (Connection.query sql params : Action Memory (List Row)) :=
  query_unchanging (h.ne begins_acquireLockSql hacquire) (h.ne begins_releaseLockSql hrelease) params

theorem query_hasTableSql_unchanging (table : String) :
    Unchanging (Connection.query hasTableSql [.text table] : Action Memory (List Row)) :=
  query_unchanging_of_begins begins_hasTableSql (by decide) (by decide) _

/-! ## Reports -/

theorem appliedEntries_unchanging (m : Manager) :
    Unchanging (m.appliedEntries : Task Memory (Option (List LedgerEntry))) := by
  have hpresent : Unchanging (Ledger.isPresent m.ledgerTable : Action Memory Bool) :=
    ((query_hasTableSql_unchanging m.ledgerTable).bind fun _ => .pure _).bind fun _ => .pure _
  have hentries : Unchanging (Ledger.entries m.ledgerTable : Action Memory (List LedgerEntry)) := by
    refine (query_unchanging_of_begins (begins_ledgerEntriesSql m.ledgerTable) (by decide)
      (by decide) []).bind fun rows => ?_
    split
    · exact .pure _
    · exact fun _ => rfl
  rw [Manager.appliedEntries]
  refine hpresent.ofAction.bind fun there => ?_
  split
  · exact hentries.ofAction.bind fun _ => .pure _
  · exact .pure _

theorem status_unchanging (m : Manager) : Unchanging (m.status : Task Memory (List StatusEntry)) := by
  rw [Manager.status]
  exact (appliedEntries_unchanging m).bind fun _ => (Unchanging.ofExcept _).bind fun _ => .pure _

/-- Rehearsed, a script of gateway calls leaves the database as it is. -/
theorem rehearsal_unchanged (db : Memory) {script : List Operation}
    (hscript : allGateway script = true) :
    Preserves (fun r : Rehearsal Memory => r.inner = db) (runAll script) := by
  have hask : ∀ {sql : String} {params : List Value},
      Unchanging (Connection.query sql params : Action Memory (List Row)) →
      Simulates (fun r r' : Rehearsal Memory => r = r' ∧ r.inner = db)
        (Connection.query sql params) (Connection.query sql params) := by
    intro sql params h
    refine Preserves.simulates fun r hr => ?_
    exact (h r.inner).trans hr
  have hkeeps : KeepsGateway fun r r' : Rehearsal Memory => r = r' ∧ r.inner = db := by
    refine ⟨⟨fun table => hask ?_, fun table column => hask ?_, hask ?_, fun table => hask ?_⟩,
      fun sql => Preserves.simulates fun r hr => hr⟩
    · exact query_hasTableSql_unchanging table
    · exact query_unchanging_of_begins begins_hasColumnSql (by decide) (by decide) _
    · exact query_unchanging_of_begins begins_listTablesSql (by decide) (by decide) _
    · exact query_unchanging_of_begins (begins_columnsSql table) (by decide) (by decide) _
  intro r hr
  exact (runAll_simulates hkeeps script hscript r r ⟨rfl, hr⟩).2.2

theorem rehearse_unchanging {script : List Operation} (hscript : allGateway script = true) :
    Unchanging (Manager.rehearse script : Action Memory (List String)) := fun db =>
  rehearsal_unchanged db hscript ⟨db, []⟩ rfl

theorem rehearseEach_unchanging {l : List (String × Scripts)}
    (hl : ∀ p ∈ l, allGateway p.2.up = true) (completed : List String) :
    Unchanging (Manager.rehearseEach completed l : Task Memory (List PlannedMigration)) := by
  induction l generalizing completed with
  | nil => exact .pure _
  | cons p l ih =>
    obtain ⟨file, scripts⟩ := p
    obtain ⟨hscripts, hl⟩ := List.forall_mem_cons.1 hl
    rw [Manager.rehearseEach]
    refine Unchanging.bind (fun db => rehearse_unchanging hscripts db) fun _ => ?_
    exact (ih hl (completed ++ [file])).bind fun _ => .pure _

/-- Statements of a run that is only pretended do not reach the database. -/
theorem pretend_unchanging {m : Manager} (hm : GatewayRegistry m.registry) (limit : Option Nat) :
    Unchanging (m.pretend limit : Task Memory (List PlannedMigration)) := by
  rw [Manager.pretend]
  split
  · exact .pure []
  refine (appliedEntries_unchanging m).bind fun entries => ?_
  refine (Unchanging.ofExcept _).bind fun files db => ?_
  rw [Task.run_bind, Task.run_ofExcept]
  cases hresolve : m.resolve files with
  | error e => rfl
  | ok l =>
    refine rehearseEach_unchanging (fun p hp => ?_) [] db
    exact hm.of_get? ((resolve_eq_ok hresolve).2 p hp) .up

end SchemaMigration.Migration
