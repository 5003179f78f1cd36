import SchemaMigration.Proofs.ObservedRequests
import SchemaMigration.Proofs.TransactionBrackets

/-
  The work of a manager on two connections.

  From related connections a manager does the same on both, and leaves them related, if
  everything does that it can ask: statements, queries other than those about locks, what
  opens and closes transactions, and warnings. For a connection and the same one observed
  this says that an invariant of every request is one of all the work.

  Main statements: `parallel_executeOne` for one migration, `parallel_executeEach` for a
  sequence, `parallel_carryOut`, and `KeptByWork.since`.
-/
namespace SchemaMigration.Migration

open Sql Database Schema Catalog

section
variable {σ τ α β ε : Type} {R : σ → τ → Prop}

/-- From related connections both computations give the same result and related
connections. -/
def Parallel (R : σ → τ → Prop) (x : ExceptT ε (StateM σ) α) (y : ExceptT ε (StateM τ) α) : Prop :=
  ∀ s t, R s t → (x.run s).1 = (y.run t).1 ∧ R (x.run s).2 (y.run t).2

namespace Parallel

protected theorem pure (a : α) :
    Parallel R (pure a : ExceptT ε (StateM σ) α) (pure a) := fun _ _ h => ⟨rfl, h⟩

protected theorem throw (e : ε) :
    Parallel R (throw e : ExceptT ε (StateM σ) α) (throw e) := fun _ _ h => ⟨rfl, h⟩

protected theorem bind {x : ExceptT ε (StateM σ) α} {y : ExceptT ε (StateM τ) α}
    {f : α → ExceptT ε (StateM σ) β} {g : α → ExceptT ε (StateM τ) β} (hx : Parallel R x y)
    (hf : ∀ a, Parallel R (f a) (g a)) : Parallel R (x >>= f) (y >>= g) := by
  intro s t hst
  obtain ⟨hresult, hstate⟩ := hx s t hst
  have hleft : (x >>= f).run s = ExceptT.bindCont f (x.run s).1 (x.run s).2 := rfl
  have hright : (y >>= g).run t = ExceptT.bindCont g (y.run t).1 (y.run t).2 := rfl
  rw [hleft, hright, hresult]
  cases (y.run t).1 with
  | error e => exact ⟨rfl, hstate⟩
  | ok a => exact hf a _ _ hstate

theorem ofAction {x : Action σ α} {y : Action τ α} (h : Simulates R x y) :
    Parallel R (Task.ofAction x) (Task.ofAction y) := by
  intro s t hst
  obtain ⟨hresult, hstate⟩ := h s t hst
  rw [Task.run_ofAction, Task.run_ofAction, hresult]
  exact ⟨rfl, hstate⟩

theorem ofExcept (r : Except Error α) :
    Parallel R (Task.ofExcept r : Task σ α) (Task.ofExcept r) := by
  cases r with
  | ok a => exact .pure a
  | error e => exact .throw e

end Parallel

end

variable {σ τ : Type} [Connection σ] [Connection τ]

/-! ## What a manager asks -/

/-- What a manager asks keeps connections related, the lock apart. -/
structure KeepsWork (R : σ → τ → Prop) : Prop where
  execute : ∀ sql params,
    Simulates R (Connection.execute sql params) (Connection.execute sql params)
  query : ∀ sql params, sql ≠ acquireLockSql → sql ≠ releaseLockSql →
    Simulates R (Connection.query sql params) (Connection.query sql params)
  begin : Simulates R (Connection.begin : Action σ Unit) Connection.begin
  commit : Simulates R (Connection.commit : Action σ Unit) Connection.commit
  rollback : Simulates R (Connection.rollback : Action σ Unit) Connection.rollback
  warn : ∀ text s t, R s t → R (Connection.warn text s) (Connection.warn text t)

/-- What a manager asks keeps an invariant, the lock apart. -/
structure KeptByWork (I : σ → Prop) : Prop where
  execute : ∀ sql params, Preserves I (Connection.execute sql params)
  query : ∀ sql params, sql ≠ acquireLockSql → sql ≠ releaseLockSql →
    Preserves I (Connection.query sql params)
  begin : Preserves I Connection.begin
  commit : Preserves I Connection.commit
  rollback : Preserves I Connection.rollback
  warn : ∀ text s, I s → I (Connection.warn text s)

/-- On an observed connection everything finds a connection with the invariant. -/
theorem KeptByWork.since {I : σ → Prop} (h : KeptByWork I) (start : Observed σ) :
    KeepsWork (Since I start) where
  execute sql params := noting_since (h.execute sql params) _ start
  query sql params hacquire hrelease := noting_since (h.query sql params hacquire hrelease) _ start
  begin := noting_since h.begin _ start
  commit := noting_since h.commit _ start
  rollback := noting_since h.rollback _ start
  warn text o s hos := by
    obtain ⟨rfl, hs, hseen⟩ := hos
    exact ⟨rfl, h.warn text o.inner hs, hseen⟩

namespace KeepsWork
variable {R : σ → τ → Prop} (h : KeepsWork R)
include h

/-- A query that starts with other words than those about locks. -/
theorem queryOf {start sql : String} (hbegins : Begins start sql)
    (hacquire : ¬start.toList <+: "SELECT GET".toList ∧ ¬"SELECT GET".toList <+: start.toList)
    (hrelease : ¬start.toList <+: "SELECT RELEASE".toList ∧
      ¬"SELECT RELEASE".toList <+: start.toList) (params : List Value) :
    Simulates R (Connection.query sql params) (Connection.query sql params) :=
  h.query sql params (hbegins.ne begins_acquireLockSql hacquire)
    (hbegins.ne begins_releaseLockSql hrelease)

theorem discarded (sql : String) (params : List Value) :
    Simulates R (do let _ ← Connection.execute sql params : Action σ Unit)
      (do let _ ← Connection.execute sql params) :=
  (h.execute sql params).bind fun _ => .pure ()

theorem gateway : KeepsGateway R where
  statement sql := h.discarded sql []
  askTable _ := h.queryOf begins_hasTableSql (by decide) (by decide) _
  askColumn _ _ := h.queryOf begins_hasColumnSql (by decide) (by decide) _
  askTables := h.queryOf begins_listTablesSql (by decide) (by decide) _
  askColumns table := h.queryOf (begins_columnsSql table) (by decide) (by decide) _

theorem entries (table : String) :
    Simulates R (Ledger.entries table : Action σ _) (Ledger.entries table) := by
  refine (h.queryOf (begins_ledgerEntriesSql table) (by decide) (by decide) []).bind fun rows => ?_
  split
  · exact .pure _
  · exact .throw _

theorem writeLedger (m : Manager) (direction : Direction) (file : String) (batch : Int) :
    Simulates R (m.writeLedger direction file batch : Action σ Unit)
      (m.writeLedger direction file batch) := by
  rw [writeLedger_eq, writeLedger_eq]
  exact h.discarded _ _

end KeepsWork

/-! ## Migrations -/

section
variable {R : σ → τ → Prop} {m : Manager} {direction : Direction} {batch : Int}
  {file : String} {scripts : Scripts}

theorem parallel_attempt (h : KeepsWork R) (hscript : allGateway (scripts.toward direction) = true)
    (failed : Database.Error → Error) :
    Parallel (OnOpen R)
      (m.attempt direction file scripts batch failed : Task (Transaction σ) Unit)
      (m.attempt direction file scripts batch failed) := by
  intro t u htu
  obtain ⟨hresult, hstate⟩ := runAll_simulates h.gateway.onOpen _ hscript t u htu
  show (m.attempt direction file scripts batch failed t).1 =
      (m.attempt direction file scripts batch failed u).1 ∧
    OnOpen R (m.attempt direction file scripts batch failed t).2
      (m.attempt direction file scripts batch failed u).2
  rw [Manager.attempt, Manager.attempt]
  generalize (runAll (scripts.toward direction)).run t = p at hresult hstate ⊢
  generalize (runAll (scripts.toward direction)).run u = q at hresult hstate ⊢
  obtain ⟨x, ⟨s, _⟩⟩ := p
  obtain ⟨_, ⟨s', _⟩⟩ := q
  obtain rfl := hresult
  obtain ⟨rfl, rfl, hrelated⟩ := hstate
  cases x with
  | error e => exact ⟨rfl, rfl, rfl, hrelated⟩
  | ok outcomes =>
    dsimp only
    rw [writeLedger_open, writeLedger_open]
    -- The row is written on the connection inside, which is still open on both.
    obtain ⟨hwritten, hafter⟩ := h.writeLedger m direction file batch s s' hrelated
    rw [hwritten]
    cases ((m.writeLedger direction file batch).run s').1 with
    | ok _ => exact ⟨rfl, rfl, rfl, hafter⟩
    | error e => cases e <;> exact ⟨rfl, rfl, rfl, hafter⟩

theorem undone_related (h : KeepsWork R) {t : Transaction σ} {u : Transaction τ}
    (htu : R t.inner u.inner) : R (undone direction file t) (undone direction file u) := by
  obtain ⟨hresult, hstate⟩ := h.rollback t.inner u.inner htu
  rw [undone, undone]
  generalize (Connection.rollback : Action σ Unit).run t.inner = p at hresult hstate
  generalize (Connection.rollback : Action τ Unit).run u.inner = q at hresult hstate
  obtain ⟨x, s⟩ := p
  obtain ⟨_, s'⟩ := q
  obtain rfl := hresult
  cases x with
  | ok _ => exact hstate
  | error e => exact h.warn _ s s' hstate

/-- A migration is opened, carried out and closed alike on both. -/
theorem parallel_executeOne (h : KeepsWork R)
    (hscript : allGateway (scripts.toward direction) = true) (completed : List String) :
    Parallel R (m.executeOne direction batch completed file scripts : Task σ Unit)
      (m.executeOne direction batch completed file scripts) := by
  intro s t hst
  obtain ⟨hresult, hstate⟩ := h.begin s t hst
  rcases hbegin : (Connection.begin : Action σ Unit).run s with ⟨x, s'⟩
  rcases hbegin' : (Connection.begin : Action τ Unit).run t with ⟨x', t'⟩
  rw [hbegin, hbegin'] at hresult hstate
  obtain rfl := hresult
  cases x with
  | error e =>
    rw [executeOne_unopened m batch hbegin, executeOne_unopened m batch hbegin']
    exact ⟨rfl, hstate⟩
  | ok _ =>
    have hattempt : Parallel (OnOpen R)
        (m.attempt direction file scripts batch (.executionFailed file direction completed) :
          Task (Transaction σ) Unit)
        (m.attempt direction file scripts batch (.executionFailed file direction completed)) :=
      parallel_attempt h hscript _
    -- From here on both have an open transaction around related connections.
    replace hattempt := hattempt ⟨s', false⟩ ⟨t', false⟩ ⟨rfl, rfl, hstate⟩
    rcases hrun : m.attempt direction file scripts batch
      (.executionFailed file direction completed) (Transaction.mk s' false) with ⟨y, u⟩
    rcases hrun' : m.attempt direction file scripts batch
      (.executionFailed file direction completed) (Transaction.mk t' false) with ⟨y', u'⟩
    rw [ExceptT.run, ExceptT.run, hrun, hrun'] at hattempt
    obtain ⟨hattempted, -, -, hrelated⟩ := hattempt
    obtain rfl := hattempted
    cases y with
    | error e =>
      rw [executeOne_failed m batch hbegin hrun, executeOne_failed m batch hbegin' hrun']
      exact ⟨rfl, undone_related h hrelated⟩
    | ok _ =>
      obtain ⟨hclosed, hafter⟩ := h.commit u.inner u'.inner hrelated
      rw [executeOne_closed m batch hbegin hrun, executeOne_closed m batch hbegin' hrun', hclosed]
      exact ⟨rfl, hafter⟩

theorem parallel_executeEach (h : KeepsWork R) {l : List (String × Scripts)}
    (hl : ∀ p ∈ l, allGateway (p.2.toward direction) = true) (completed : List String) :
    Parallel R (m.executeEach direction batch completed l : Task σ (List String))
      (m.executeEach direction batch completed l) := by
  induction l generalizing completed with
  | nil => exact .pure completed
  | cons p l ih =>
    obtain ⟨file, scripts⟩ := p
    obtain ⟨hscript, hl⟩ := List.forall_mem_cons.1 hl
    rw [Manager.executeEach, Manager.executeEach]
    exact (parallel_executeOne h hscript completed).bind fun _ => ih hl (completed ++ [file])

end

/-! ## Work under the lock -/

section
variable {R : σ → τ → Prop} {m : Manager}

theorem parallel_ensure (h : KeepsWork R) (table : String) :
    Parallel R (Task.ofAction (Ledger.ensure table) : Task σ Unit)
      (Task.ofAction (Ledger.ensure table)) := .ofAction (h.discarded _ [])

theorem parallel_entries (h : KeepsWork R) (table : String) :
    Parallel R (Task.ofAction (Ledger.entries table) : Task σ _)
      (Task.ofAction (Ledger.entries table)) := .ofAction (h.entries table)

theorem parallel_runChoice (h : KeepsWork R) (limit : Option Nat) :
    Parallel R (runChoice m limit : Task σ _) (runChoice m limit) := by
  refine (parallel_ensure h m.ledgerTable).bind fun _ => ?_
  refine (parallel_entries h m.ledgerTable).bind fun entries => ?_
  exact (Parallel.ofExcept _).bind fun files => .pure _

theorem parallel_revertChoice (h : KeepsWork R) (select : List LedgerEntry → List LedgerEntry) :
    Parallel R (revertChoice m select : Task σ _) (revertChoice m select) := by
  have happlied : Parallel R (m.appliedEntries : Task σ _) m.appliedEntries := by
    refine (Parallel.ofAction (h.gateway.hasTable m.ledgerTable)).bind fun present => ?_
    cases present with
    | true => exact (parallel_entries h m.ledgerTable).bind fun _ => .pure _
    | false => exact .pure _
  refine happlied.bind fun entries => ?_
  cases entries with
  | none => exact .pure _
  | some entries => exact .pure _

theorem parallel_carryOut (h : KeepsWork R) (hm : GatewayRegistry m.registry)
    {direction : Direction} {choice : Task σ (Int × List String)}
    {choice' : Task τ (Int × List String)} (hchoice : Parallel R choice choice') :
    Parallel R (carryOut m direction choice) (carryOut m direction choice') := by
  refine hchoice.bind fun p => ?_
  cases hresolve : m.resolve p.2 with
  | error e => exact .throw e
  | ok l => exact parallel_executeEach h (fun q hq => hm.of_get? ((resolve_eq_ok hresolve).2 q hq)
      direction) []

/-- What work does once the lock is taken. -/
def Work.held {τ : Type} [Connection τ] (m : Manager) : Work → Task τ (List String)
  | .run limit => carryOut m .up (runChoice m limit)
  | .rollback steps => carryOut m .down (revertChoice m (ofLatest steps))
  | .reset => carryOut m .down (revertChoice m id)

theorem Work.taskOn_eq_locked {w : Work} (hw : w.isIdle = false) :
    (w.taskOn m : Task σ (List String)) = m.locked (w.held m) := by
  cases w with
  | run limit =>
    rw [Work.taskOn, run_eq]
    exact if_neg (beq_eq_false_iff_ne.1 hw)
  | rollback steps =>
    rw [Work.taskOn, rollback_eq]
    exact if_neg (beq_eq_false_iff_ne.1 hw)
  | reset => exact reset_eq m

theorem parallel_held (h : KeepsWork R) (hm : GatewayRegistry m.registry) (w : Work) :
    Parallel R (w.held m : Task σ (List String)) (w.held m) := by
  cases w with
  | run limit => exact parallel_carryOut h hm (parallel_runChoice h limit)
  | rollback steps => exact parallel_carryOut h hm (parallel_revertChoice h _)
  | reset => exact parallel_carryOut h hm (parallel_revertChoice h id)

/-- What marking a file does once the lock is taken. -/
def markingHeld (m : Manager) (file : String) (batch : Option Nat) : Task σ Bool := do
  Task.ofAction (Ledger.ensure m.ledgerTable)
  let batch ← match batch with
    | some n => pure (n : Int)
    | none => do
      let entries ← Task.ofAction (Ledger.entries m.ledgerTable)
      pure (lastBatch entries + 1)
  Task.ofAction (Ledger.recordIfAbsent m.ledgerTable file batch)

theorem mark_eq_locked {file : String} {batch : Option Nat} (hfile : Parses file)
    (hbatch : batch ≠ some 0) :
    (m.mark file batch : Task σ Bool) = m.locked (markingHeld m file batch) := by
  obtain ⟨f, hf⟩ := hfile
  rw [Manager.mark, hf]
  dsimp only
  rw [if_neg hbatch]
  rfl

theorem parallel_markingHeld (h : KeepsWork R) (file : String) (batch : Option Nat) :
    Parallel R (markingHeld m file batch : Task σ Bool) (markingHeld m file batch) := by
  have hrecord : ∀ b : Int, Parallel R
      (Task.ofAction (Ledger.recordIfAbsent m.ledgerTable file b) : Task σ Bool)
      (Task.ofAction (Ledger.recordIfAbsent m.ledgerTable file b)) := fun b =>
    .ofAction ((h.execute _ _).bind fun _ => .pure _)
  refine (parallel_ensure h m.ledgerTable).bind fun _ => ?_
  cases batch with
  | some n => exact hrecord n
  | none => exact (parallel_entries h m.ledgerTable).bind fun entries => hrecord _

end

end SchemaMigration.Migration
