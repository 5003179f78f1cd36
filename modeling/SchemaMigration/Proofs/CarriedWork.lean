import SchemaMigration.Proofs.ManagerPlans

/-
  Work that is carried out: what a manager runs or reverts, and under the lock.

  Work fails before the first migration was begun, or stops at one migration, or is
  finished. In the first case the scripts of the registry do not matter at all, and in
  the second only those up to the migration that failed: with a registry that has
  other scripts for the rest the result and the database are the same, so no later
  migration was called.

  Main statements: `carryOut_outcome` and `locked_cases`.
-/
namespace SchemaMigration.Migration

open Text Sql Database Schema
open Database.Memory

/-- The registry knows the same files. -/
def SameFiles (m : Manager) (r : Registry) : Prop :=
  ∀ file, r.contains file = m.registry.contains file

theorem executeEach_withRegistry {σ : Type} [Connection σ] (m : Manager) (r : Registry)
    (direction : Direction) (batch : Int) (completed : List String)
    (l : List (String × Scripts)) :
    ((m.withRegistry r).executeEach direction batch completed l : Task σ (List String)) =
      m.executeEach direction batch completed l := by
  induction l generalizing completed with
  | nil => rfl
  | cons p l ih =>
    obtain ⟨file, scripts⟩ := p
    rw [Manager.executeEach, Manager.executeEach]
    exact bind_congr fun _ => ih (completed ++ [file])

theorem run_executeEach_append {σ : Type} [Connection σ] (m : Manager) (direction : Direction)
    (batch : Int) (completed : List String) (l l' : List (String × Scripts)) (s : σ) :
    (m.executeEach direction batch completed (l ++ l')).run s =
      match (m.executeEach direction batch completed l).run s with
      | (.ok done, s') => (m.executeEach direction batch done l').run s'
      | (.error e, s') => (.error e, s') := by
  induction l generalizing completed s with
  | nil => rfl
  | cons p l ih =>
    obtain ⟨file, scripts⟩ := p
    rw [List.cons_append, Manager.executeEach, Manager.executeEach, Task.run_bind, Task.run_bind]
    rcases (m.executeOne direction batch completed file scripts).run s with ⟨_ | _, s'⟩
    · rfl
    · exact ih (completed ++ [file]) s'

/-- What becomes of work on a database in memory. -/
inductive Outcome (m : Manager) (direction : Direction) (choice : Task Memory (Int × List String))
    (db : Memory) : Prop
  | unable {e : Error} {db' : Memory} (run : (carryOut m direction choice).run db = (.error e, db'))
      (same : SameLedger db db') (cause : e.isOfMigration = false)
      (completed : carriedOut m direction choice db = [])
      (independent : ∀ r, SameFiles m r →
        (carryOut (m.withRegistry r) direction choice).run db = (.error e, db'))
  | stopped {batch : Int} {files : List String} {start mid db' : Memory}
      {done rest : List (String × Scripts)} {next : String × Scripts} {e : Error}
      (chosen : choice.run db = (.ok (batch, files), start)) (same : SameLedger db start)
      (resolved : m.resolve files = .ok (done ++ next :: rest))
      (chain : CompletedAll direction batch done start mid)
      (run : (carryOut m direction choice).run db = (.error e, db'))
      (completed : carriedOut m direction choice db = done.map Prod.fst)
      (stop : db.isBoundToFail commitSql = false → SameLedger mid db' ∧
        ((∃ cause, e = .executionFailed next.1 direction (done.map Prod.fst) cause) ∨
          direction = .up ∧ e = .alreadyApplied next.1))
      (independent : ∀ r, SameFiles m r →
        (∀ p ∈ done ++ [next], r.get? p.1 = m.registry.get? p.1) →
        (carryOut (m.withRegistry r) direction choice).run db = (.error e, db'))
  | finished {batch : Int} {files : List String} {start db' : Memory}
      {l : List (String × Scripts)} (chosen : choice.run db = (.ok (batch, files), start))
      (same : SameLedger db start) (resolved : m.resolve files = .ok l)
      (chain : CompletedAll direction batch l start db')
      (run : (carryOut m direction choice).run db = (.ok files, db'))
      (completed : carriedOut m direction choice db = files)

theorem run_carryOut {σ : Type} [Connection σ] {m : Manager} (direction : Direction)
    {choice : Task σ (Int × List String)} {s start : σ} {batch : Int} {files : List String}
    {l : List (String × Scripts)} (hchoice : choice.run s = (.ok (batch, files), start))
    (hl : m.resolve files = .ok l) :
    (carryOut m direction choice).run s = (m.executeEach direction batch [] l).run start ∧
      carriedOut m direction choice s = completions m direction batch [] l start := by
  constructor
  · rw [carryOut, Task.run_bind_ok hchoice, Task.run_bind, Task.run_ofExcept, hl]
  · rw [carriedOut, hchoice]
    dsimp only
    rw [hl]

/-- If a file is not found, nothing is carried out. -/
theorem run_carryOut_unresolved {σ : Type} [Connection σ] {m : Manager} (direction : Direction)
    {choice : Task σ (Int × List String)} {s start : σ} {batch : Int} {files : List String}
    {e : Error} (hchoice : choice.run s = (.ok (batch, files), start))
    (he : m.resolve files = .error e) :
    (carryOut m direction choice).run s = (.error e, start) ∧
      carriedOut m direction choice s = [] := by
  constructor
  · rw [carryOut, Task.run_bind_ok hchoice, Task.run_bind, Task.run_ofExcept, he]
  · rw [carriedOut, hchoice]
    dsimp only
    rw [he]

theorem carryOut_outcome {m : Manager} (hm : OfGateway m) (direction : Direction)
    {choice : Task Memory (Int × List String)} {db : Memory}
    (htable : m.ledgerTable = db.ledgerTable) (hnamed : Named db) (hchoice : Chosen choice db) :
    Outcome m direction choice db := by
  cases hchoice with
  | @failed e db' hrun hsame hcause =>
    refine .unable ?_ hsame hcause ?_ fun r _ => ?_
    · rw [carryOut, Task.run_bind_error hrun]
    · rw [carriedOut, hrun]
    · rw [carryOut, Task.run_bind_error hrun]
  | @answered batch files start hrun hsame hquoted hfiles =>
    cases hresolve : m.resolve files with
    | error e =>
      obtain ⟨hcarry, hnone⟩ := run_carryOut_unresolved direction hrun hresolve
      refine .unable hcarry hsame ?_ hnone fun r hr => ?_
      · obtain ⟨_, _, _, -, -, -, rfl⟩ := resolve_eq_error hresolve
        rfl
      · rcases resolve_withRegistry hr files with ⟨e', he, he'⟩ | ⟨l, l', hl, -⟩
        · obtain rfl := Except.error.inj (he.symm.trans hresolve)
          exact (run_carryOut_unresolved direction hrun he').1
        · cases hresolve.symm.trans hl
    | ok l =>
      obtain ⟨hcarry, hcompleted⟩ := run_carryOut direction hrun hresolve
      obtain ⟨hfst, -⟩ := resolve_eq_ok hresolve
      have htable' : m.ledgerTable = start.ledgerTable := htable.trans hsame.ledgerTable.symm
      have hnamed' : Named start := hnamed.of_sameLedger hsame
      have hl : ∀ p ∈ l, p.1 ≠ "" ∧ allGateway (p.2.toward direction) = true := by
        intro p hp
        refine ⟨hfiles p.1 ?_, hm.registry.of_resolve hresolve direction p hp⟩
        rw [← hfst]
        exact List.mem_map_of_mem hp
      -- Without files nothing is sent, so the name of the ledger table does not matter.
      by_cases hnone : files = []
      · obtain rfl : l = [] := List.map_eq_nil_iff.1 (hfst.trans hnone)
        subst hnone
        exact .finished hrun hsame hresolve (.nil start) hcarry hcompleted
      have hquoted' : QuotedAsIs start.ledgerTable := by
        rw [hsame.ledgerTable]
        exact hquoted hnone
      rcases executeEach_cases batch [] htable' hquoted' hnamed' hl with
        ⟨done, next, rest, mid, e, db', rfl, hrest, hshort, hdone, hchain, hstop⟩ |
          ⟨db', hall, hdone, hchain⟩
      · rw [hsame.isBoundToFail, List.nil_append] at hstop
        refine .stopped hrun hsame hresolve hchain (hcarry.trans hrest) (hcompleted.trans hdone)
          hstop fun r hr hscripts => ?_
        -- Another registry has the same migrations up to the one that fails.
        rcases resolve_withRegistry hr files with ⟨e', he, -⟩ | ⟨-, l', -, hl'⟩
        · cases hresolve.symm.trans he
        have hresolve' : m.resolve files = .ok ((done ++ [next]) ++ rest) := by
          rw [List.append_assoc]
          exact hresolve
        obtain ⟨rest', rfl⟩ := resolve_append hresolve' hl' hscripts
        rw [(run_carryOut direction hrun hl').1, executeEach_withRegistry, run_executeEach_append,
          hshort]
      · refine .finished hrun hsame hresolve hchain (hcarry.trans ?_) (hcompleted.trans ?_)
        · rw [hall, hfst]
          rfl
        · rw [hdone, hfst]

/-! ## Under the lock -/

/-- What work that begins once the lock is taken completes. -/
def underLock {σ : Type} [Connection σ] (m : Manager) (completed : σ → List String) (s : σ) :
    List String :=
  match m.lockTimeout with
  | none => completed s
  | some seconds =>
    match (acquireLock (lockName m.ledgerTable) seconds).run s with
    | (.ok _, s') => completed s'
    | (.error _, _) => []

/-- The databases differ in locks and warnings alone. -/
def OnlyLocks (db db' : Memory) : Prop :=
  ∃ held warnings, db' = { db with held := held, warnings := warnings }

theorem OnlyLocks.sameLedger {db db' : Memory} (h : OnlyLocks db db') : SameLedger db db' := by
  obtain ⟨held, warnings, rfl⟩ := h
  exact ⟨rfl, rfl, rfl, rfl, rfl, rfl⟩

theorem OnlyLocks.schema {db db' : Memory} (h : OnlyLocks db db') :
    (db'.tables, db'.catalog) = (db.tables, db.catalog) := by
  obtain ⟨held, warnings, rfl⟩ := h
  rfl

theorem acquireLock_cases (db : Memory) (name : String) (seconds : Nat) :
    ∃ held, (∃ e, (acquireLock name seconds).run db = (.error e, { db with held := held }) ∧
        e.isOfMigration = false) ∨
      (acquireLock name seconds).run db = (.ok (), { db with held := held }) := by
  obtain ⟨held, hheld⟩ := query_frame db Catalog.acquireLockSql
    [.text name, .int (min (seconds : Int) maxInt64)]
  refine ⟨held, ?_⟩
  rw [acquireLock, Task.run_bind, Task.run_ofAction, queryOne, Action.run_bind, run_query]
  generalize db.query Catalog.acquireLockSql
    [.text name, .int (min (seconds : Int) maxInt64)] = answer at hheld
  obtain ⟨r, db'⟩ := answer
  obtain rfl : db' = _ := hheld
  cases r with
  | error e => exact .inl ⟨_, rfl, rfl⟩
  | ok rows =>
    dsimp only [Action.run_pure, Except.mapError]
    split
    · exact .inr rfl
    · exact .inl ⟨_, rfl, rfl⟩

/-- A lock is taken unless the query for it fails or another session holds it. -/
theorem run_acquireLock {db : Memory} (h : db.canned = ∅) (name : String) (seconds : Nat) :
    (acquireLock name seconds).run db =
      if db.isBoundToFail Catalog.acquireLockSql then
        (.error (.database (injected Catalog.acquireLockSql)), db)
      else if db.heldElsewhere.contains name then (.error (.lockTimeout name seconds), db)
      else (.ok (), (db.acquire name).2) := by
  rw [acquireLock, Task.run_bind, Task.run_ofAction, queryOne, Action.run_bind, run_query,
    Memory.query, answer_acquireLockSql h]
  -- The answer depends on the name of the lock, not on how long to wait for it.
  have hname : param [.text name, .int (min (seconds : Int) maxInt64)] 0 = name := rfl
  rw [hname]
  cases db.isBoundToFail Catalog.acquireLockSql with
  | true => rfl
  | false =>
    cases helsewhere : db.heldElsewhere.contains name with
    | true =>
      have hacquired : db.acquire name = ([Row.ofFields [("acquired", count false)]], db) := by
        rw [Memory.acquire, helsewhere]
        rfl
      rw [hacquired]
      rfl
    | false =>
      have hacquired : (db.acquire name).1 = [Row.ofFields [("acquired", count true)]] := by
        rw [Memory.acquire, helsewhere]
        rfl
      rw [hacquired]
      rfl

theorem releaseLock_onlyLocks (name : String) (db : Memory) :
    OnlyLocks db (releaseLock name db) := by
  obtain ⟨held, hheld⟩ := query_frame db Catalog.releaseLockSql [.text name]
  rw [releaseLock, queryOne, Action.run_bind, run_query]
  generalize db.query Catalog.releaseLockSql [.text name] = answer at hheld
  obtain ⟨r, db'⟩ := answer
  obtain rfl : db' = _ := hheld
  cases r with
  | error e => exact ⟨held, _, rfl⟩
  | ok rows => exact ⟨held, db.warnings, rfl⟩

theorem withLock_of_error {α : Type} {name : String} {seconds : Nat} {db db' : Memory} {e : Error}
    (h : (acquireLock name seconds).run db = (.error e, db')) (act : Task Memory α) :
    (withLock name (some seconds) act).run db = (.error e, db') := by
  show withLock name (some seconds) act db = _
  dsimp only [withLock]
  rw [h]

theorem withLock_of_ok {α : Type} {name : String} {seconds : Nat} {db db' : Memory}
    (h : (acquireLock name seconds).run db = (.ok (), db')) (act : Task Memory α) :
    (withLock name (some seconds) act).run db =
      ((act.run db').1, releaseLock name (act.run db').2) := by
  show withLock name (some seconds) act db = _
  dsimp only [withLock]
  rw [h]
  rfl

/-- The lock cannot be taken, whatever the work, or the work is done while it is held
and the lock is given back. -/
theorem locked_cases (m : Manager) (db : Memory) :
    (∃ e db', SameLedger db db' ∧ e.isOfMigration = false ∧
        (∀ {α : Type} (act : Task Memory α), (m.locked act).run db = (.error e, db')) ∧
        ∀ completed, underLock m completed db = []) ∨
      ∃ held, ∃ after : Memory → Memory, (∀ x, OnlyLocks x (after x)) ∧
        (∀ {α : Type} (act : Task Memory α), (m.locked act).run db =
          ((act.run { db with held := held }).1, after (act.run { db with held := held }).2)) ∧
        ∀ completed, underLock m completed db = completed { db with held := held } := by
  unfold Manager.locked underLock
  cases m.lockTimeout with
  | none => exact .inr ⟨db.held, id, fun x => ⟨x.held, x.warnings, rfl⟩, fun _ => rfl, fun _ => rfl⟩
  | some seconds =>
    obtain ⟨held, ⟨e, hrun, he⟩ | hrun⟩ := acquireLock_cases db (lockName m.ledgerTable) seconds
    · refine .inl ⟨e, { db with held := held }, .held db held, he, ?_, ?_⟩
      · exact fun act => withLock_of_error hrun act
      · intro completed
        dsimp only
        rw [hrun]
    · refine .inr ⟨held, releaseLock (lockName m.ledgerTable),
        releaseLock_onlyLocks (lockName m.ledgerTable), ?_, ?_⟩
      · exact fun act => withLock_of_ok hrun act
      · intro completed
        dsimp only
        rw [hrun]

/-- Locked work that fails either has called no script, or has stopped at a migration and
left the ledger to the chain in front of it. -/
theorem locked_failed {m : Manager} (hm : OfGateway m) {direction : Direction}
    {choice : Task Memory (Int × List String)} {db db' : Memory} {e : Error}
    (htable : m.ledgerTable = db.ledgerTable) (hnamed : Named db)
    (hcommit : db.isBoundToFail commitSql = false)
    (hchoice : ∀ held, Chosen choice { db with held := held })
    (h : (m.locked (carryOut m direction choice)).run db = (.error e, db')) :
    (e.isOfMigration = false ∧ db'.ledger = db.ledger ∧ ∀ r, SameFiles m r →
        (m.locked (carryOut (m.withRegistry r) direction choice)).run db = (.error e, db')) ∨
      ∃ held batch files start mid done next rest,
        choice.run { db with held := held } = (.ok (batch, files), start) ∧ SameLedger db start ∧
        m.resolve files = .ok (done ++ next :: rest) ∧
        CompletedAll direction batch done start mid ∧ db'.ledger = mid.ledger ∧
        ((∃ cause, e = .executionFailed next.1 direction (done.map Prod.fst) cause) ∨
          direction = .up ∧ e = .alreadyApplied next.1) ∧
        ∀ r, SameFiles m r → (∀ p ∈ done ++ [next], r.get? p.1 = m.registry.get? p.1) →
          (m.locked (carryOut (m.withRegistry r) direction choice)).run db = (.error e, db') := by
  rcases locked_cases m db with ⟨e', db₁, hsame, he, hlock, -⟩ | ⟨held, after, hafter, hlock, -⟩
  · -- the lock is not to be had, whatever the scripts
    obtain ⟨he', rfl⟩ := Prod.mk.inj ((hlock _).symm.trans h)
    obtain rfl := Except.error.inj he'
    exact .inl ⟨he, hsame.ledger, fun r _ => hlock _⟩
  rw [hlock] at h
  obtain ⟨hresult, rfl⟩ := Prod.mk.inj h
  have hrelease : ∀ x, (after x).ledger = x.ledger := fun x => (hafter x).sameLedger.ledger
  have hheld := SameLedger.held db held
  have houtcome : Outcome m direction choice { db with held := held } :=
    carryOut_outcome hm direction htable hnamed (hchoice held)
  cases houtcome with
  | unable hrun hsame hcause _ hindependent =>
    rw [hrun] at hresult
    obtain rfl := Except.error.inj hresult
    refine .inl ⟨hcause, ?_, fun r hr => ?_⟩
    · rw [hrun, hrelease]
      exact hsame.ledger
    · rw [hlock, hindependent r hr, hrun]
  | @stopped batch files start mid db₁ done rest next e₁ hchosen hsame hresolved hchain hrun _ hstop
      hindependent =>
    rw [hrun] at hresult
    obtain rfl := Except.error.inj hresult
    obtain ⟨hmid, herror⟩ := hstop hcommit
    refine .inr ⟨held, batch, files, start, mid, done, next, rest, hchosen, ?_, hresolved, hchain,
      ?_, herror, fun r hr hscripts => ?_⟩
    · exact hheld.trans hsame
    · rw [hrun, hrelease]
      exact hmid.ledger
    · rw [hlock, hindependent r hr hscripts, hrun]
  | finished _ _ _ _ hrun _ =>
    rw [hrun] at hresult
    cases hresult

/-- Locked work that is finished has completed a chain over all chosen files. -/
theorem locked_finished {m : Manager} (hm : OfGateway m) {direction : Direction}
    {choice : Task Memory (Int × List String)} {db db' : Memory} {files : List String}
    (htable : m.ledgerTable = db.ledgerTable) (hnamed : Named db)
    (hchoice : ∀ held, Chosen choice { db with held := held })
    (h : (m.locked (carryOut m direction choice)).run db = (.ok files, db')) :
    ∃ held batch start l mid, choice.run { db with held := held } = (.ok (batch, files), start) ∧
      SameLedger db start ∧ m.resolve files = .ok l ∧ CompletedAll direction batch l start mid ∧
      OnlyLocks mid db' := by
  rcases locked_cases m db with ⟨e, db₁, -, -, hlock, -⟩ | ⟨held, after, hafter, hlock, -⟩
  · cases (hlock _).symm.trans h
  rw [hlock] at h
  obtain ⟨hresult, rfl⟩ := Prod.mk.inj h
  have houtcome : Outcome m direction choice { db with held := held } :=
    carryOut_outcome hm direction htable hnamed (hchoice held)
  cases houtcome with
  | unable hrun _ _ _ _ => cases (congrArg Prod.fst hrun).symm.trans hresult
  | stopped _ _ _ _ hrun _ _ _ => cases (congrArg Prod.fst hrun).symm.trans hresult
  | @finished batch files' start mid l hchosen hsame hresolved hchain hrun _ =>
    obtain rfl : files' = files := Except.ok.inj ((congrArg Prod.fst hrun).symm.trans hresult)
    refine ⟨held, batch, start, l, mid, hchosen, (SameLedger.held db held).trans hsame, hresolved,
      hchain, ?_⟩
    rw [hrun]
    exact hafter mid

/-! ## What a manager can be told -/

/-- What a manager can be told to do with the scripts of migrations. -/
inductive Work where
  | run (limit : Option Nat)
  | rollback (steps : Nat)
  | reset

namespace Work

/-- The work as a task of a manager. -/
def task (m : Manager) : Work → Task Memory (List String)
  | .run limit => m.run limit
  | .rollback steps => m.rollback steps
  | .reset => m.reset

/-- The direction in which the work takes migrations. -/
def direction : Work → Direction
  | .run _ => .up
  | .rollback _ | .reset => .down

/-- The files that the work is about, in order: what is pending, or what is applied from
the latest on. -/
def selected (m : Manager) (db : Memory) : Work → Except Error (List String)
  | .run limit => m.pending (db.ledger.map entryOf) limit
  | .rollback steps => .ok (Manager.reversed (ofLatest steps (db.ledger.map entryOf)))
  | .reset => .ok (Manager.reversed (db.ledger.map entryOf))

/-- The rows of the ledger once some files are completed: a run adds rows under the
next batch, and to revert takes rows away. -/
def ledgerAfter (db : Memory) (done : List String) : Work → List LedgerRow
  | .run _ =>
    db.ledger ++ newRows (lastBatch (db.ledger.map entryOf) + 1) db.nextId db.ticks done
  | .rollback _ | .reset => db.ledger.filter fun r => !done.contains r.migration

/-- Whether there is nothing to do, whatever the ledger. -/
def isIdle : Work → Bool
  | .run limit => limit == some 0
  | .rollback steps => steps == 0
  | .reset => false

/-- How the work chooses its files. -/
def choice (m : Manager) : Work → Task Memory (Int × List String)
  | .run limit => runChoice m limit
  | .rollback steps => revertChoice m (ofLatest steps)
  | .reset => revertChoice m id

/-- The files of which the work completes the migrations. -/
def completed (m : Manager) (w : Work) (db : Memory) : List String :=
  if w.isIdle then [] else underLock m (carriedOut m w.direction (w.choice m)) db

theorem task_eq (m : Manager) (w : Work) :
    w.task m =
      if w.isIdle then pure [] else m.locked (carryOut m w.direction (w.choice m)) := by
  cases w with
  | run limit =>
    have hidle : (limit == some 0) = true ↔ limit = some 0 := beq_iff_eq
    show m.run limit = if (limit == some 0) = true then _ else _
    rw [run_eq]
    simp only [hidle]
    rfl
  | rollback steps =>
    have hidle : (steps == 0) = true ↔ steps = 0 := beq_iff_eq
    show m.rollback steps = if (steps == 0) = true then _ else _
    rw [rollback_eq]
    simp only [hidle]
    rfl
  | reset => exact reset_eq m

section
variable {m : Manager} (hm : OfGateway m) (db : Memory) (htable : m.ledgerTable = db.ledgerTable)
  (hcanned : db.canned = ∅)
include hm htable hcanned

theorem chosen (hnamed : Named db) (w : Work) (held : List String) :
    Chosen (w.choice m) { db with held := held } := by
  have htable' : m.ledgerTable = ({ db with held := held } : Memory).ledgerTable := htable
  cases w with
  | run limit => exact runChoice_chosen hm htable' hcanned limit
  | rollback steps =>
    exact revertChoice_chosen htable' hcanned hnamed fun _ _ he => (List.mem_filter.1 he).1
  | reset => exact revertChoice_chosen htable' hcanned hnamed fun _ _ he => he

/-- The files that are chosen are the selected ones, and the batch of a run is the next. -/
theorem selected_of_choice {w : Work} {held : List String} {batch : Int} {files : List String}
    {start : Memory} (hfiles : files ≠ [])
    (hchoice : (w.choice m).run { db with held := held } = (.ok (batch, files), start)) :
    w.selected m db = .ok files ∧
      (w.direction = .up → batch = lastBatch (db.ledger.map entryOf) + 1) := by
  have htable' : m.ledgerTable = ({ db with held := held } : Memory).ledgerTable := htable
  -- What is to be reverted is read from the rows, which locks do not change.
  have hrevert : ∀ select,
      (revertChoice m select).run { db with held := held } = (.ok (batch, files), start) →
      Except.ok (Manager.reversed (select (db.ledger.map entryOf))) =
        (.ok files : Except Error (List String)) := by
    intro select hrun
    rcases revertChoice_cases htable' hcanned select with ⟨e, he⟩ | ⟨hnone, -⟩ | ⟨hsome, -⟩
    · cases he.symm.trans hrun
    · cases hnone.symm.trans hrun
      exact absurd rfl hfiles
    · cases hsome.symm.trans hrun
      rfl
  cases w with
  | run limit =>
    rcases runChoice_cases hm htable' hcanned limit with
      ⟨e, db', he, -⟩ | ⟨files', hpending, hrun, -⟩
    · cases he.symm.trans hchoice
    · cases hrun.symm.trans hchoice
      exact ⟨hpending, fun _ => rfl⟩
  | rollback steps => exact ⟨hrevert _ hchoice, nofun⟩
  | reset => exact ⟨hrevert id hchoice, nofun⟩

end

/-- The ledger at the end of a chain is what the work leaves after it. -/
theorem ledger_of_chain {w : Work} {db start mid : Memory} {batch : Int}
    {done : List (String × Scripts)} (hsame : SameLedger db start)
    (hbatch : w.direction = .up → batch = lastBatch (db.ledger.map entryOf) + 1)
    (hchain : CompletedAll w.direction batch done start mid) :
    mid.ledger = w.ledgerAfter db (done.map Prod.fst) := by
  cases w with
  | run limit =>
    rw [CompletedAll.ledger_up hchain, hbatch rfl, hsame.ledger, hsame.nextId, hsame.ticks]
    rfl
  | rollback steps =>
    rw [CompletedAll.ledger_down hchain, hsame.ledger]
    rfl
  | reset =>
    rw [CompletedAll.ledger_down hchain, hsame.ledger]
    rfl

/-- Whatever becomes of the work, its effect on the ledger is that of a chain over the
first of the selected files. -/
theorem chain_of_task {m : Manager} (hm : OfGateway m) {db : Memory}
    (htable : m.ledgerTable = db.ledgerTable) (hcanned : db.canned = ∅) (hnamed : Named db)
    (hcommit : db.isBoundToFail commitSql = false) (w : Work) :
    ∃ batch done start mid, SameLedger db start ∧ CompletedAll w.direction batch done start mid ∧
      SameLedger mid ((w.task m).run db).2 ∧ w.completed m db = done.map Prod.fst ∧
      (done ≠ [] → ∃ rest, w.selected m db = .ok (done.map Prod.fst ++ rest) ∧
        (w.direction = .up → batch = lastBatch (db.ledger.map entryOf) + 1)) := by
  -- On many ways out no file was completed: then the chain is empty.
  have hnothing : ∀ db', SameLedger db db' → ∃ batch done start mid, SameLedger db start ∧
      CompletedAll w.direction batch done start mid ∧ SameLedger mid db' ∧
      [] = done.map Prod.fst ∧ (done ≠ [] → ∃ rest,
        w.selected m db = .ok (done.map Prod.fst ++ rest) ∧
          (w.direction = .up → batch = lastBatch (db.ledger.map entryOf) + 1)) :=
    fun db' hsame => ⟨0, [], db, db, .refl db, .nil db, hsame, rfl, fun h => absurd rfl h⟩
  rw [task_eq, completed]
  by_cases hidle : w.isIdle = true
  · rw [if_pos hidle, if_pos hidle]
    exact hnothing db (.refl db)
  rw [if_neg hidle, if_neg hidle]
  rcases locked_cases m db with ⟨e, db₁, hsame, -, hlock, hunder⟩ | ⟨held, after, hafter, hlock, hunder⟩
  · rw [hlock, hunder]
    exact hnothing db₁ hsame
  rw [hlock, hunder]
  have hheld := SameLedger.held db held
  have hchoice := chosen hm db htable hcanned hnamed w held
  have hend : ∀ {a x}, SameLedger a x → SameLedger a (after x) := fun h =>
    h.trans (hafter _).sameLedger
  have houtcome : Outcome m w.direction (w.choice m) { db with held := held } :=
    carryOut_outcome hm w.direction htable hnamed hchoice
  -- Otherwise the chain is that of the outcome, and it began with the files that were chosen.
  cases houtcome with
  | unable hrun hsame _ hcompleted _ =>
    rw [hrun, hcompleted]
    exact hnothing _ (hend (hheld.trans hsame))
  | @stopped batch files start mid db₁ done rest next e hchosen hsame hresolved hchain hrun
      hcompleted hstop _ =>
    rw [hrun, hcompleted]
    obtain ⟨hfst, -⟩ := resolve_eq_ok hresolved
    refine ⟨batch, done, start, mid, hheld.trans hsame, hchain, hend (hstop hcommit).1, rfl, ?_⟩
    intro hdone
    have hfiles : files = done.map Prod.fst ++ (next :: rest).map Prod.fst := by
      rw [← hfst, List.map_append]
    have hne : files ≠ [] := by
      rw [hfiles]
      exact List.append_ne_nil_of_left_ne_nil (fun h => hdone (List.map_eq_nil_iff.1 h)) _
    refine ⟨(next :: rest).map Prod.fst, ?_⟩
    rw [← hfiles]
    exact selected_of_choice hm db htable hcanned hne hchosen
  | @finished batch files start db₁ l hchosen hsame hresolved hchain hrun hcompleted =>
    rw [hrun, hcompleted]
    obtain ⟨hfst, -⟩ := resolve_eq_ok hresolved
    refine ⟨batch, l, start, db₁, hheld.trans hsame, hchain, hend (.refl db₁), hfst.symm, ?_⟩
    intro hl
    refine ⟨[], ?_⟩
    rw [List.append_nil, hfst]
    refine selected_of_choice hm db htable hcanned ?_ hchosen
    rw [← hfst]
    exact fun h => hl (List.map_eq_nil_iff.1 h)

end Work

end SchemaMigration.Migration
