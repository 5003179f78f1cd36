import SchemaMigration.Proofs.RelatedRuns
import SchemaMigration.Proofs.ReportingCalls
import SchemaMigration.Proofs.RelatedWork

/-
  The lock of a ledger, from before the first statement to after the last.

  While a manager works under the lock nothing that it asks gives the lock back: statements
  do not touch locks, and of the queries only two do, which no work asks. So the lock is held
  at every request between those two queries, whatever fails in between, and the query that
  gives it back is made on every way out. If another session holds the lock, the query for it
  is all that is asked.

  Main statements: `guarded_kept`, an invariant of every request; `disciplined_locked` and
  `lock_discipline`.
-/
namespace SchemaMigration.Database.Memory

open Catalog

/-! ## Locks on a database in memory -/

/-- Statements do not touch locks. -/
theorem execute_held (db : Memory) (sql : String) (params : List Sql.Value) :
    (db.execute sql params).2.held = db.held := by
  obtain ⟨tables, catalog, ledger, nextId, ticks, saved, h⟩ := execute_frame db sql params
  rw [h]
  rfl

theorem holdsLock_release (db : Memory) (name : String) :
    (db.release name).2.holdsLock name = false := by
  show (db.held.filter (· != name)).contains name = false
  simp

end SchemaMigration.Database.Memory

namespace SchemaMigration.Migration

open Text Sql Database Schema Catalog
open Database.Memory

/-! ## The invariant -/

/-- The lock is held, and nothing keeps it from being given back. -/
structure Guarded (name : String) (db : Memory) : Prop where
  held : db.holdsLock name = true
  canned : db.canned = ∅
  releasable : db.isBoundToFail releaseLockSql = false

theorem Guarded.of_sameConditions {name : String} {db db' : Memory} (h : Guarded name db)
    (hsame : SameConditions db db') (hheld : db'.held = db.held) : Guarded name db' where
  held := by
    rw [holdsLock, hheld]
    exact h.held
  canned := hsame.canned.trans h.canned
  releasable := (hsame.isBoundToFail _).trans h.releasable

/-- Nothing that a manager asks under the lock gives it back. -/
theorem guarded_kept (name : String) : KeptByWork (Guarded name) := by
  have hexecute : ∀ sql params, Preserves (Guarded name)
      (Connection.execute sql params : Action Memory Nat) := fun sql params db h =>
    h.of_sameConditions (.ofExecute db sql params) (execute_held db sql params)
  refine ⟨hexecute, fun sql params hacquire hrelease db h => ?_, fun db h => hexecute beginSql [] db h,
    fun db h => hexecute commitSql [] db h, fun db h => hexecute rollbackSql [] db h,
    fun text db h => ⟨h.held, h.canned, h.releasable⟩⟩
  rw [query_unchanging hacquire hrelease params db]
  exact h

/-! ## The two queries -/

/-- The query that takes a lock. -/
def acquiring (name : String) (seconds : Nat) : Request :=
  .query acquireLockSql [.text name, .int (min (seconds : Int) maxInt64)]

/-- The query that gives a lock back. -/
def releasingOf (name : String) : Request := .query releaseLockSql [.text name]

theorem acquireLock_observed {σ : Type} [Connection σ] (name : String) (seconds : Nat)
    (o : Observed σ) :
    (acquireLock name seconds).run o =
      (((acquireLock name seconds).run o.inner).1,
        ⟨((acquireLock name seconds).run o.inner).2, o.seen ++ [(acquiring name seconds, o.inner)]⟩) := by
  have hquery : (Connection.query acquireLockSql
      [.text name, .int (min (seconds : Int) maxInt64)] : Action (Observed σ) (List Row)).run o =
    (((Connection.query acquireLockSql
        [.text name, .int (min (seconds : Int) maxInt64)]).run o.inner).1,
      ⟨((Connection.query acquireLockSql
        [.text name, .int (min (seconds : Int) maxInt64)]).run o.inner).2,
        o.seen ++ [(acquiring name seconds, o.inner)]⟩) := rfl
  rw [acquireLock, acquireLock, Task.run_bind, Task.run_bind, Task.run_ofAction,
    Task.run_ofAction, queryOne, queryOne, Action.run_bind, Action.run_bind, hquery]
  generalize (Connection.query acquireLockSql
    [.text name, .int (min (seconds : Int) maxInt64)] : Action σ (List Row)).run o.inner = answer
  obtain ⟨_ | rows, s⟩ := answer
  · rfl
  · dsimp only [Action.run_pure, Except.mapError]
    split <;> rfl

theorem releaseLock_observed {σ : Type} [Connection σ] (name : String) (o : Observed σ) :
    releaseLock name o =
      ⟨releaseLock name o.inner, o.seen ++ [(releasingOf name, o.inner)]⟩ := by
  have hquery : (Connection.query releaseLockSql [.text name] :
      Action (Observed σ) (List Row)).run o =
    (((Connection.query releaseLockSql [.text name]).run o.inner).1,
      ⟨((Connection.query releaseLockSql [.text name]).run o.inner).2,
        o.seen ++ [(releasingOf name, o.inner)]⟩) := rfl
  rw [releaseLock, releaseLock, queryOne, queryOne, Action.run_bind, Action.run_bind, hquery]
  generalize (Connection.query releaseLockSql [.text name] :
    Action σ (List Row)).run o.inner = answer
  obtain ⟨_ | rows, s⟩ := answer <;> rfl

theorem holdsLock_acquire {db : Memory} {name : String}
    (h : db.heldElsewhere.contains name = false) : (db.acquire name).2.holdsLock name = true := by
  rw [acquire]
  dsimp only
  split
  · simp [holdsLock]
  · rename_i hheld
    rw [h] at hheld
    simpa [holdsLock] using hheld

theorem acquire_conditions (db : Memory) (name : String) :
    SameConditions db (db.acquire name).2 := by
  rw [acquire]
  dsimp only
  split <;> exact ⟨rfl, rfl, rfl, rfl⟩

/-- A lock that is held is given back. -/
theorem holdsLock_releaseLock {name : String} {db : Memory} (h : Guarded name db) :
    (releaseLock name db).holdsLock name = false := by
  rw [releaseLock, queryOne, Action.run_bind, run_query, query, h.releasable,
    if_neg Bool.false_ne_true, answer_releaseLockSql h.canned]
  exact holdsLock_release db name

/-! ## What is done under the lock -/

/-- A call of a manager that takes the lock, as `x` on an observed database and as `y` on the
plain one. Where another session holds the lock, it fails for that and leaves everything as
it is. Otherwise it asks for the lock, works, and gives it back, whatever the result: the lock
is held at every request of the work and not in the end. -/
def Disciplined {α : Type} (name : String) (seconds : Nat) (db : Memory)
    (x : Task (Observed Memory) α) (y : Task Memory α) : Prop :=
  (x.run ⟨db, []⟩).1 = (y.run db).1 ∧ (x.run ⟨db, []⟩).2.inner = (y.run db).2 ∧
    if db.heldElsewhere.contains name then
      y.run db = (.error (.lockTimeout name seconds), db) ∧
        (x.run ⟨db, []⟩).2.requests = [acquiring name seconds]
    else ∃ work last,
      (x.run ⟨db, []⟩).2.seen =
        (acquiring name seconds, db) :: (work ++ [(releasingOf name, last)]) ∧
      (∀ p ∈ work ++ [(releasingOf name, last)], p.2.holdsLock name = true) ∧
      (y.run db).2.holdsLock name = false

/-- Whatever keeps the lock keeps it from its taking to its giving back. -/
theorem disciplined_locked {α : Type} {m : Manager} {seconds : Nat} {db : Memory}
    {x : Task (Observed Memory) α} {y : Task Memory α} (htimeout : m.lockTimeout = some seconds)
    (hcanned : db.canned = ∅) (hacquire : db.isBoundToFail acquireLockSql = false)
    (hrelease : db.isBoundToFail releaseLockSql = false)
    (h : ∀ start, Parallel (Since (Guarded (lockName m.ledgerTable)) start) x y) :
    Disciplined (lockName m.ledgerTable) seconds db (m.locked x) (m.locked y) := by
  rw [Manager.locked, Manager.locked, htimeout]
  generalize lockName m.ledgerTable = name at h ⊢
  rw [withLock_eq, withLock_eq]
  have htaken := run_acquireLock hcanned name seconds
  rw [hacquire, if_neg Bool.false_ne_true] at htaken
  have hasked : (acquireLock name seconds).run (⟨db, []⟩ : Observed Memory) =
      (((acquireLock name seconds).run db).1,
        ⟨((acquireLock name seconds).run db).2, [(acquiring name seconds, db)]⟩) :=
    acquireLock_observed name seconds ⟨db, []⟩
  rw [htaken] at hasked
  rw [Disciplined]
  cases helsewhere : db.heldElsewhere.contains name with
  | true =>
    rw [helsewhere, if_pos rfl] at htaken hasked
    rw [Task.run_bind_error htaken, Task.run_bind_error hasked, if_pos rfl]
    exact ⟨rfl, rfl, rfl, rfl⟩
  | false =>
    rw [helsewhere, if_neg Bool.false_ne_true] at htaken hasked
    rw [Task.run_bind_ok htaken, Task.run_bind_ok hasked, if_neg Bool.false_ne_true]
    have hsame := acquire_conditions db name
    have hguarded : Guarded name (db.acquire name).2 :=
      ⟨holdsLock_acquire helsewhere, hsame.canned.trans hcanned,
        (hsame.isBoundToFail _).trans hrelease⟩
    generalize (db.acquire name).2 = taken at hguarded
    -- the work starts with the lock taken, so every request of it finds the lock held
    obtain ⟨hresult, hinner, hend, work, hseen, hwork⟩ :=
      h ⟨taken, [(acquiring name seconds, db)]⟩ ⟨taken, [(acquiring name seconds, db)]⟩ taken
        (.refl hguarded)
    show (x.run ⟨taken, _⟩).1 = (y.run taken).1 ∧
      (releaseLock name (x.run ⟨taken, _⟩).2).inner = releaseLock name (y.run taken).2 ∧
      ∃ work last,
        (releaseLock name (x.run ⟨taken, _⟩).2).seen =
          (acquiring name seconds, db) :: (work ++ [(releasingOf name, last)]) ∧
        (∀ p ∈ work ++ [(releasingOf name, last)], p.2.holdsLock name = true) ∧
        (releaseLock name (y.run taken).2).holdsLock name = false
    rw [releaseLock_observed, hinner]
    refine ⟨hresult, rfl, work, (y.run taken).2, ?_, ?_, holdsLock_releaseLock hend⟩
    · rw [hseen]
      rfl
    · intro p hp
      rcases List.mem_append.1 hp with hp | hp
      · exact (hwork p hp).held
      · rw [List.mem_singleton.1 hp]
        exact hend.held

/-- A manager with a timeout that runs, reverts or marks on a database in memory takes the
lock of its ledger, keeps it while it works, and gives it back, whatever fails in between. -/
theorem lock_discipline {m : Manager} (hm : GatewayRegistry m.registry) {seconds : Nat}
    (htimeout : m.lockTimeout = some seconds) {db : Memory} (hcanned : db.canned = ∅)
    (hacquire : db.isBoundToFail acquireLockSql = false)
    (hrelease : db.isBoundToFail releaseLockSql = false) :
    (∀ w : Work, w.isIdle = false →
        Disciplined (lockName m.ledgerTable) seconds db (w.taskOn m) (w.task m)) ∧
      ∀ file batch, Parses file → batch ≠ some 0 →
        Disciplined (lockName m.ledgerTable) seconds db (m.mark file batch) (m.mark file batch) := by
  have hkeeps : ∀ start, KeepsWork (Since (Guarded (lockName m.ledgerTable)) start) :=
    (guarded_kept _).since
  refine ⟨fun w hw => ?_, fun file batch hfile hbatch => ?_⟩
  · rw [← Work.taskOn_memory, Work.taskOn_eq_locked hw, Work.taskOn_eq_locked hw]
    exact disciplined_locked htimeout hcanned hacquire hrelease fun start =>
      parallel_held (hkeeps start) hm w
  · rw [mark_eq_locked hfile hbatch, mark_eq_locked hfile hbatch]
    exact disciplined_locked htimeout hcanned hacquire hrelease fun start =>
      parallel_markingHeld (hkeeps start) file batch

/-- A manager that does not wait for the lock, of one migration. -/
def hasty : Manager :=
  { Manager.ofRegistry (registryOf [("20240101000000_a.rs", ⟨[.drop "t"], []⟩)]) with
    lockTimeout := some 0 }

/-- A database in which no table can be dropped. -/
def undroppable : Memory := (Memory.empty defaultLedgerTable).failOn "DROP"

theorem lock_discipline_hasty :
    hasty.lockTimeout = some 0 ∧ undroppable.isBoundToFail "DROP TABLE \x60t\x60" = true ∧
      Disciplined "strata:migrations" 0 undroppable ((Work.run none).taskOn hasty)
        ((Work.run none).task hasty) := by
  have hm : GatewayRegistry hasty.registry := gatewayRegistry_registryOf (by decide)
  have hcanned : undroppable.canned = ∅ := rfl
  have hacquire : undroppable.isBoundToFail acquireLockSql = false := by decide
  have hrelease : undroppable.isBoundToFail releaseLockSql = false := by decide
  have htimeout : hasty.lockTimeout = some 0 := rfl
  obtain ⟨hwork, -⟩ := lock_discipline hm htimeout hcanned hacquire hrelease
  exact ⟨htimeout, by decide, hwork (.run none) rfl⟩

end SchemaMigration.Migration
