import SchemaMigration.Migration.Manager
import SchemaMigration.Proofs.LedgerStatements
import SchemaMigration.Proofs.ScriptEffects

/-
  One migration on a database in memory.

  Between the statement that opens the transaction and the one that closes it a
  script of gateway calls leaves the ledger alone, so the only change of the ledger is
  the one that the manager makes last. A migration that is completed has changed the
  ledger by its row, and one that fails has not changed it, wherever it fails: what a
  rollback restores is the ledger as it is, and to fail at rolling back is no loss.

  Main statement: `executeOne_cases`.
-/
namespace SchemaMigration.Migration

open Sql Database Schema
open Database.Memory

/-- The database once the ledger says that a migration was applied or reverted. -/
def entered (direction : Direction) (batch : Int) (db : Memory) (file : String) : Memory :=
  match direction with
  | .up => db.addRow file batch
  | .down => { db with ledger := db.ledger.filter (·.migration != file) }

/-- No migration of the ledger has an empty name. -/
def Named (db : Memory) : Prop := ∀ r ∈ db.ledger, r.migration ≠ ""

theorem Named.of_sameLedger {a b : Memory} (h : Named a) (hsame : SameLedger a b) : Named b := by
  rw [Named, hsame.ledger]
  exact h

/-- The migration has no row in the ledger. -/
def Fresh (db : Memory) (file : String) : Prop := ∀ r ∈ db.ledger, r.migration ≠ file

theorem entered_settings (direction : Direction) (batch : Int) (db : Memory) (file : String) :
    (entered direction batch db file).ledgerTable = db.ledgerTable ∧
      (entered direction batch db file).canned = db.canned ∧
      (entered direction batch db file).failures = db.failures := by
  cases direction with
  | up => exact ⟨rfl, rfl, rfl⟩
  | down => exact ⟨rfl, rfl, rfl⟩

theorem entered_sameLedger {a b : Memory} (h : SameLedger a b) (direction : Direction)
    (batch : Int) (file : String) :
    SameLedger (entered direction batch a file) (entered direction batch b file) := by
  cases direction with
  | up =>
    refine ⟨h.1, h.2, h.3, ?_, ?_, ?_⟩
    · show b.ledger ++ [_] = a.ledger ++ [_]
      rw [h.ledger, h.nextId, h.ticks]
    · show b.nextId + 1 = a.nextId + 1
      rw [h.nextId]
    · show b.ticks + 1 = a.ticks + 1
      rw [h.ticks]
  | down =>
    refine ⟨h.1, h.2, h.3, ?_, h.5, h.6⟩
    show b.ledger.filter _ = a.ledger.filter _
    rw [h.ledger]

/-! ## The row of the migration -/

/-- The statement that notes a direction in the ledger. -/
def ledgerSql (direction : Direction) (table : String) : String :=
  match direction with
  | .up => recordSql table
  | .down => removeSql table

/-- The parameters of the statement that notes a direction in the ledger. -/
def ledgerParams (direction : Direction) (file : String) (batch : Int) : List Value :=
  match direction with
  | .up => [.text file, .int batch]
  | .down => [.text file]

theorem writeLedger_eq {σ : Type} [Connection σ] (m : Manager) (direction : Direction)
    (file : String) (batch : Int) :
    m.writeLedger direction file batch =
      (do let _ ← Connection.execute (ledgerSql direction m.ledgerTable)
            (ledgerParams direction file batch) : Action σ Unit) := by
  cases direction <;> rfl

theorem run_writeLedger (m : Manager) (direction : Direction) (file : String) (batch : Int)
    (db : Memory) :
    (m.writeLedger direction file batch : Action Memory Unit).run db =
      ((db.execute (ledgerSql direction m.ledgerTable) (ledgerParams direction file batch)).1.map
          fun _ => (),
        (db.execute (ledgerSql direction m.ledgerTable) (ledgerParams direction file batch)).2) := by
  rw [writeLedger_eq]
  exact Action.run_discard _ _

theorem perform_record (db : Memory) (ifAbsent : Bool) (file : String) (batch : Int) :
    db.perform [.text file, .int batch] (.record ifAbsent) =
      if db.tables.contains db.ledgerTable then
        if db.ledger.any (·.migration == file) then
          if ifAbsent then (.ok 0, db)
          else
            (.error (.duplicate ("Duplicate entry '" ++ file ++ "' for key 'migration'")), db)
        else (.ok 1, db.addRow file batch)
      else (.error (missingTable db.ledgerTable), db) := rfl

theorem perform_remove (db : Memory) (file : String) :
    ∃ n, db.perform [.text file] .remove =
      if db.tables.contains db.ledgerTable then
        (.ok n, { db with ledger := db.ledger.filter (·.migration != file) })
      else (.error (missingTable db.ledgerTable), db) := ⟨_, rfl⟩

theorem fresh_of_any {db : Memory} {file : String}
    (h : ¬db.ledger.any (·.migration == file) = true) : Fresh db file :=
  fun r hr hfile => h (List.any_eq_true.2 ⟨r, hr, beq_iff_eq.2 hfile⟩)

/-- What becomes of a row that is to be added. -/
theorem run_writeLedger_up {m : Manager} {db : Memory} (htable : m.ledgerTable = db.ledgerTable)
    (hquoted : QuotedAsIs db.ledgerTable) (file : String) (batch : Int) :
    (m.writeLedger .up file batch).run db =
      if db.isBoundToFail (recordSql db.ledgerTable) then
        (.error (injected (recordSql db.ledgerTable)), db.noted (recordSql db.ledgerTable))
      else if db.tables.contains db.ledgerTable then
        if db.ledger.any (·.migration == file) then
          (.error (.duplicate ("Duplicate entry '" ++ file ++ "' for key 'migration'")),
            db.noted (recordSql db.ledgerTable))
        else (.ok (), (db.noted (recordSql db.ledgerTable)).addRow file batch)
      else (.error (missingTable db.ledgerTable), db.noted (recordSql db.ledgerTable)) := by
  -- The log is not looked at.
  have hnoted : (db.noted (recordSql db.ledgerTable)).tables = db.tables ∧
      (db.noted (recordSql db.ledgerTable)).ledgerTable = db.ledgerTable ∧
      (db.noted (recordSql db.ledgerTable)).ledger = db.ledger := ⟨rfl, rfl, rfl⟩
  rw [run_writeLedger, htable]
  dsimp only [ledgerSql, ledgerParams]
  rw [execute_eq, read_recordSql hquoted, perform_record, hnoted.1, hnoted.2.1, hnoted.2.2]
  by_cases hbound : db.isBoundToFail (recordSql db.ledgerTable) = true
  · rw [if_pos hbound, if_pos hbound]
    rfl
  rw [if_neg hbound, if_neg hbound]
  by_cases hthere : db.tables.contains db.ledgerTable = true
  · rw [if_pos hthere, if_pos hthere]
    split
    · rfl
    · rfl
  · rw [if_neg hthere, if_neg hthere]
    rfl

/-- To write the ledger fails and leaves it, or enters the migration; the one row
that cannot be entered is a second one. -/
theorem writeLedger_cases {m : Manager} {db : Memory} (htable : m.ledgerTable = db.ledgerTable)
    (hquoted : QuotedAsIs db.ledgerTable) (direction : Direction) (batch : Int) (file : String) :
    (∃ e, (m.writeLedger direction file batch).run db =
        (.error e, db.noted (ledgerSql direction db.ledgerTable)) ∧
        (direction = .down → ∀ detail, e ≠ .duplicate detail)) ∨
      (m.writeLedger direction file batch).run db =
        (.ok (), entered direction batch (db.noted (ledgerSql direction db.ledgerTable)) file) ∧
        (direction = .up → Fresh db file) ∧ db.tables.contains db.ledgerTable = true := by
  cases direction with
  | up =>
    rw [run_writeLedger_up htable hquoted]
    split
    · exact .inl ⟨_, rfl, fun h => nomatch h⟩
    split
    · rename_i hthere
      split
      · exact .inl ⟨_, rfl, fun h => nomatch h⟩
      · rename_i hrow
        exact .inr ⟨rfl, fun _ => fresh_of_any hrow, hthere⟩
    · exact .inl ⟨_, rfl, fun h => nomatch h⟩
  | down =>
    rw [run_writeLedger, htable]
    dsimp only [ledgerSql, ledgerParams]
    rw [execute_eq, read_removeSql hquoted]
    split
    · exact .inl ⟨_, rfl, fun _ _ h => nomatch h⟩
    · obtain ⟨n, hperform⟩ := perform_remove (db.noted (removeSql db.ledgerTable)) file
      rw [hperform]
      split
      · rename_i hthere
        exact .inr ⟨rfl, nofun, hthere⟩
      · exact .inl ⟨_, rfl, fun _ _ h => nomatch h⟩

theorem writeLedger_open {σ : Type} [Connection σ] (m : Manager) (direction : Direction)
    (batch : Int) (file : String) (s : σ) :
    (m.writeLedger direction file batch).run (Transaction.mk s false) =
      (((m.writeLedger direction file batch).run s).1,
        ⟨((m.writeLedger direction file batch).run s).2, false⟩) := by
  cases direction with
  | up => exact congrFun (discard_eq_whileOpen _ _) _
  | down => exact congrFun (discard_eq_whileOpen _ _) _

/-! ## The script and its row -/

theorem attempt_of_ok {σ : Type} [Connection σ] {m : Manager} {direction : Direction}
    {file : String} {scripts : Scripts} {batch : Int} {t u v : σ} {outcomes : List Outcome}
    (hscript : (runAll (scripts.toward direction)).run t = (.ok outcomes, u))
    (hrow : (m.writeLedger direction file batch).run u = (.ok (), v))
    (failed : Database.Error → Error) :
    m.attempt direction file scripts batch failed t = (.ok (), v) := by
  rw [Manager.attempt, hscript]
  dsimp only
  rw [hrow]

theorem attempt_eq_ok {σ : Type} [Connection σ] {m : Manager} {direction : Direction}
    {file : String} {scripts : Scripts} {batch : Int} {failed : Database.Error → Error} {t v : σ}
    (h : m.attempt direction file scripts batch failed t = (.ok (), v)) :
    ∃ outcomes u, (runAll (scripts.toward direction)).run t = (.ok outcomes, u) ∧
      (m.writeLedger direction file batch).run u = (.ok (), v) := by
  rw [Manager.attempt] at h
  split at h
  · cases h
  · rename_i outcomes u hscript
    split at h
    · rename_i hrow
      obtain rfl := (Prod.mk.inj h).2
      exact ⟨outcomes, u, hscript, hrow⟩
    · cases h
    · cases h

theorem attempt_cases {m : Manager} {db start : Memory} (htable : m.ledgerTable = db.ledgerTable)
    (hquoted : QuotedAsIs db.ledgerTable) (hnamed : Named db) {direction : Direction}
    {scripts : Scripts} (hscript : allGateway (scripts.toward direction) = true)
    (hstart : Undisturbed db start) (batch : Int) (file : String)
    (failed : Database.Error → Error) :
    (∃ e finish, m.attempt direction file scripts batch failed (Transaction.mk start false) =
        (.error e, ⟨finish, false⟩) ∧ Undisturbed db finish ∧
        ((∃ cause, e = failed cause) ∨ direction = .up ∧ e = .alreadyApplied file)) ∨
      ∃ outcomes finish, (runAll (scripts.toward direction)).run (Transaction.mk start false) =
          (.ok outcomes, ⟨finish, false⟩) ∧
        m.attempt direction file scripts batch failed (Transaction.mk start false) =
          (.ok (), ⟨entered direction batch
            (finish.noted (ledgerSql direction finish.ledgerTable)) file, false⟩) ∧
        Undisturbed db finish ∧ (direction = .up → Fresh db file) ∧
        finish.tables.contains finish.ledgerTable = true := by
  -- The script first: whatever its result, the ledger is what it was.
  have hran := script_undisturbed hnamed hscript ⟨start, false⟩ ⟨rfl, hstart⟩
  rw [Manager.attempt]
  generalize (runAll (scripts.toward direction)).run (Transaction.mk start false) = ran at hran
  obtain ⟨r, finish, closed⟩ := ran
  obtain ⟨rfl, hfinish⟩ := hran
  cases r with
  | error e => exact .inl ⟨failed e, finish, rfl, hfinish, .inl ⟨e, rfl⟩⟩
  | ok outcomes =>
    have htable' : m.ledgerTable = finish.ledgerTable := htable.trans hfinish.1.ledgerTable.symm
    have hquoted' : QuotedAsIs finish.ledgerTable := by
      rw [hfinish.1.ledgerTable]
      exact hquoted
    have hnoted : Undisturbed db (finish.noted (ledgerSql direction finish.ledgerTable)) :=
      ⟨hfinish.1.noted _, hfinish.2⟩
    dsimp only
    rw [writeLedger_open]
    rcases writeLedger_cases htable' hquoted' direction batch file with
      ⟨e, he, hdown⟩ | ⟨hok, hup, hthere⟩
    · rw [he]
      left
      cases direction with
      | up =>
        cases e with
        | duplicate detail => exact ⟨_, _, rfl, hnoted, .inr ⟨rfl, rfl⟩⟩
        | _ => exact ⟨_, _, rfl, hnoted, .inl ⟨_, rfl⟩⟩
      | down =>
        cases e with
        | duplicate detail => exact absurd rfl (hdown rfl detail)
        | _ => exact ⟨_, _, rfl, hnoted, .inl ⟨_, rfl⟩⟩
    · rw [hok]
      refine .inr ⟨outcomes, finish, rfl, rfl, hfinish, fun h r hr => ?_, hthere⟩
      exact hup h r (hfinish.1.ledger ▸ hr)

/-! ## How a migration ends -/

section
variable {σ : Type} [Connection σ] (m : Manager) {direction : Direction} (batch : Int)
variable {completed : List String} {file : String} {scripts : Scripts} {s s' : σ}

theorem executeOne_unopened {e : Database.Error}
    (h : (Connection.begin : Action σ Unit).run s = (.error e, s')) :
    (m.executeOne direction batch completed file scripts).run s =
      (.error (.executionFailed file direction completed e), s') := by
  show m.executeOne direction batch completed file scripts s = _
  rw [Manager.executeOne, h]

/-- The connection of a migration that failed, once it was rolled back. -/
def undone (direction : Direction) (file : String) (t : Transaction σ) : σ :=
  match (Connection.rollback : Action σ Unit).run t.inner with
  | (.ok _, u) => u
  | (.error e, u) =>
    Connection.warn ("rollback after failed " ++ direction.word ++ " of " ++ file ++
      " failed: " ++ e.message) u

variable (hbegin : (Connection.begin : Action σ Unit).run s = (.ok (), s'))
include hbegin

theorem executeOne_failed {e : Error} {t : Transaction σ}
    (h : m.attempt direction file scripts batch (.executionFailed file direction completed)
      (Transaction.mk s' false) = (.error e, t)) :
    (m.executeOne direction batch completed file scripts).run s =
      (.error e, undone direction file t) := by
  show m.executeOne direction batch completed file scripts s = _
  rw [Manager.executeOne, hbegin]
  dsimp only
  rw [h, undone]
  dsimp only [Transaction.finish]
  rcases (Connection.rollback : Action σ Unit).run t.inner with ⟨_ | _, u⟩ <;> rfl

theorem executeOne_closed {t : Transaction σ}
    (h : m.attempt direction file scripts batch (.executionFailed file direction completed)
      (Transaction.mk s' false) = (.ok (), t)) :
    (m.executeOne direction batch completed file scripts).run s =
      (((Connection.commit : Action σ Unit).run t.inner).1.mapError
          (.executionFailed file direction completed),
        ((Connection.commit : Action σ Unit).run t.inner).2) := by
  show m.executeOne direction batch completed file scripts s = _
  rw [Manager.executeOne, hbegin]
  dsimp only
  rw [h]
  rfl

end

/-! ## The whole transaction -/

/-- A migration was completed: it had no row if it was applied, the ledger has
changed by its row, and the schema is what its script made of the one before; the
ledger table is still in it. -/
structure Completed (direction : Direction) (batch : Int) (file : String)
    (script : List Operation) (db db' : Memory) : Prop where
  fresh : direction = .up → Fresh db file
  ledger : SameLedger (entered direction batch db file) db'
  schema : ∃ start outcomes finish, (runAll script).run (Transaction.mk start false) =
      (.ok outcomes, finish) ∧ SameLedger db start ∧
    (start.tables, start.catalog) = (db.tables, db.catalog) ∧
    (db'.tables, db'.catalog) = (finish.inner.tables, finish.inner.catalog)
  present : db'.tables.contains db'.ledgerTable = true

theorem run_begin (db : Memory) :
    (Connection.begin : Action Memory Unit).run db =
      if db.isBoundToFail beginSql then (.error (injected beginSql), db.noted beginSql)
      else (.ok (), { db.noted beginSql with saved := some (db.ledger, db.nextId) }) := by
  show ((db.execute beginSql []).1.map fun _ => (), (db.execute beginSql []).2) = _
  rw [execute_eq, read_beginSql]
  split
  · rfl
  · rfl

theorem run_commit (db : Memory) :
    (Connection.commit : Action Memory Unit).run db =
      if db.isBoundToFail commitSql then (.error (injected commitSql), db.noted commitSql)
      else (.ok (), { db.noted commitSql with saved := none }) := by
  show ((db.execute commitSql []).1.map fun _ => (), (db.execute commitSql []).2) = _
  rw [execute_eq, read_commitSql]
  split
  · rfl
  · rfl

/-- The database once a transaction is open. -/
def begun (db : Memory) : Memory :=
  { db.noted beginSql with saved := some (db.ledger, db.nextId) }

/-- What is left of a failed migration is what its rollback left, but for a warning. -/
theorem undone_eq (direction : Direction) (file : String) (t : Transaction Memory) :
    ∃ warnings, undone direction file t =
      { ((Connection.rollback : Action Memory Unit).run t.inner).2 with warnings } := by
  rw [undone]
  rcases (Connection.rollback : Action Memory Unit).run t.inner with ⟨_ | _, u⟩
  · exact ⟨_, rfl⟩
  · exact ⟨_, rfl⟩

/-- How a migration comes to its end: its transaction is not opened, or is rolled back, or
is committed. -/
theorem executeOne_ends (m : Manager) (direction : Direction) (batch : Int)
    (completed : List String) (file : String) (scripts : Scripts) (db : Memory) :
    (db.isBoundToFail beginSql = true ∧
      (m.executeOne direction batch completed file scripts).run db =
        (.error (.executionFailed file direction completed (injected beginSql)),
          db.noted beginSql)) ∨
    db.isBoundToFail beginSql = false ∧
      ((∃ e t warnings, m.attempt direction file scripts batch
          (.executionFailed file direction completed) (Transaction.mk (begun db) false) =
            (.error e, t) ∧
        (m.executeOne direction batch completed file scripts).run db =
          (.error e, { ((Connection.rollback : Action Memory Unit).run t.inner).2 with warnings })) ∨
      ∃ t, m.attempt direction file scripts batch (.executionFailed file direction completed)
          (Transaction.mk (begun db) false) = (.ok (), t) ∧
        (m.executeOne direction batch completed file scripts).run db =
          (((Connection.commit : Action Memory Unit).run t.inner).1.mapError
              (.executionFailed file direction completed),
            ((Connection.commit : Action Memory Unit).run t.inner).2)) := by
  cases hbound : db.isBoundToFail beginSql with
  | true =>
    have hbegin : (Connection.begin : Action Memory Unit).run db =
        (.error (injected beginSql), db.noted beginSql) := by
      rw [run_begin, if_pos hbound]
    exact .inl ⟨rfl, executeOne_unopened m batch hbegin⟩
  | false =>
    have hbegin : (Connection.begin : Action Memory Unit).run db = (.ok (), begun db) := by
      rw [run_begin, hbound, if_neg Bool.false_ne_true, begun]
    refine .inr ⟨rfl, ?_⟩
    rcases hattempt : m.attempt direction file scripts batch
      (.executionFailed file direction completed) (Transaction.mk (begun db) false) with ⟨e | _, t⟩
    · obtain ⟨warnings, hundone⟩ := undone_eq direction file t
      refine .inl ⟨e, t, warnings, rfl, ?_⟩
      rw [executeOne_failed m batch hbegin hattempt, hundone]
    · exact .inr ⟨t, rfl, executeOne_closed m batch hbegin hattempt⟩

/-- A migration is completed if its transaction can be opened and committed and what is
inside succeeds. -/
theorem executeOne_eq_ok_iff {m : Manager} {direction : Direction} {batch : Int}
    {completed : List String} {file : String} {scripts : Scripts} {db db' : Memory} :
    (m.executeOne direction batch completed file scripts).run db = (.ok (), db') ↔
      db.isBoundToFail beginSql = false ∧
        ∃ t, m.attempt direction file scripts batch (.executionFailed file direction completed)
            (Transaction.mk (begun db) false) = (.ok (), t) ∧
          t.inner.isBoundToFail commitSql = false ∧
          db' = { t.inner.noted commitSql with saved := none } := by
  rcases executeOne_ends m direction batch completed file scripts db with
    ⟨hbegin, hrun⟩ | ⟨hbegin, ⟨e, t, warnings, hattempt, hrun⟩ | ⟨t, hattempt, hrun⟩⟩
  · rw [hrun, hbegin]
    exact ⟨nofun, fun h => absurd h.1.symm Bool.false_ne_true⟩
  · rw [hrun, hattempt]
    exact ⟨nofun, fun ⟨_, _, h, _⟩ => nomatch h⟩
  · rw [hrun, run_commit]
    constructor
    · intro h
      split at h
      · cases h
      · rename_i hcommit
        exact ⟨hbegin, t, hattempt, Bool.eq_false_iff.2 hcommit, (Prod.mk.inj h).2.symm⟩
    · rintro ⟨-, t', hattempt', hcommit, rfl⟩
      obtain rfl := (Prod.mk.inj (hattempt.symm.trans hattempt')).2
      rw [hcommit]
      rfl

/-- To roll back what left the ledger undisturbed changes nothing there. -/
theorem run_rollback {db finish : Memory} (hnamed : Named db) (h : Undisturbed db finish) :
    Undisturbed db ((Connection.rollback : Action Memory Unit).run finish).2 :=
  h.execute hnamed rollbackSql

/-- A migration fails, with the ledger as it was unless the commit failed, or is
completed. -/
theorem executeOne_cases {m : Manager} {db : Memory} (htable : m.ledgerTable = db.ledgerTable)
    (hquoted : QuotedAsIs db.ledgerTable) (hnamed : Named db) {direction : Direction}
    {scripts : Scripts} (hscript : allGateway (scripts.toward direction) = true) (batch : Int)
    (completed : List String) (file : String) :
    (∃ e db', (m.executeOne direction batch completed file scripts).run db = (.error e, db') ∧
        (db.isBoundToFail commitSql = false → SameLedger db db' ∧
          ((∃ cause, e = .executionFailed file direction completed cause) ∨
            direction = .up ∧ e = .alreadyApplied file))) ∨
      ∃ db', (m.executeOne direction batch completed file scripts).run db = (.ok (), db') ∧
        Completed direction batch file (scripts.toward direction) db db' := by
  have hstart : Undisturbed db (begun db) := ⟨⟨rfl, rfl, rfl, rfl, rfl, rfl⟩, .inr rfl⟩
  have hattempts := attempt_cases htable hquoted hnamed hscript hstart batch file
    (.executionFailed file direction completed)
  rcases executeOne_ends m direction batch completed file scripts db with
    ⟨-, hrun⟩ | ⟨-, ⟨e, t, warnings, hattempt, hrun⟩ | ⟨t, hattempt, hrun⟩⟩
  · -- no transaction was begun: no script was called
    exact .inl ⟨_, _, hrun, fun _ => ⟨⟨rfl, rfl, rfl, rfl, rfl, rfl⟩, .inl ⟨_, rfl⟩⟩⟩
  · -- the script failed, or its row
    rcases hattempts with ⟨e', finish, hfails, hfinish, he⟩ | ⟨_, _, -, hends, -⟩
    · obtain ⟨he', rfl⟩ := Prod.mk.inj (hattempt.symm.trans hfails)
      obtain rfl := Except.error.inj he'
      -- The saved ledger, if there still is one, is the ledger as it is.
      have hback := (run_rollback hnamed hfinish).1
      exact .inl ⟨e, _, hrun, fun _ =>
        ⟨⟨hback.1, hback.2, hback.3, hback.4, hback.5, hback.6⟩, he⟩⟩
    · cases hattempt.symm.trans hends
  · -- the script ran and the ledger says so
    rcases hattempts with ⟨e', finish, hfails, -⟩ |
      ⟨outcomes, finish, hran, hends, hfinish, hfresh, hthere⟩
    · cases hattempt.symm.trans hfails
    obtain ⟨-, rfl⟩ := Prod.mk.inj (hattempt.symm.trans hends)
    rw [run_commit] at hrun
    have hentered := entered_sameLedger
      (hfinish.1.noted (ledgerSql direction finish.ledgerTable)) direction batch file
    have hschema : ((entered direction batch (finish.noted (ledgerSql direction finish.ledgerTable))
        file).tables, (entered direction batch
          (finish.noted (ledgerSql direction finish.ledgerTable)) file).catalog) =
        (finish.tables, finish.catalog) := by
      cases direction with
      | up => rfl
      | down => rfl
    by_cases hcommit : (entered direction batch
        (finish.noted (ledgerSql direction finish.ledgerTable)) file).isBoundToFail commitSql = true
    · rw [if_pos hcommit] at hrun
      -- Nothing on the way changes what is bound to fail.
      refine .inl ⟨_, _, hrun, fun hfails => ?_⟩
      have hbound : (entered direction batch db file).isBoundToFail commitSql =
          db.isBoundToFail commitSql :=
        isBoundToFail_congr (entered_settings direction batch db file).2.2 commitSql
      rw [hentered.isBoundToFail, hbound, hfails] at hcommit
      exact absurd hcommit Bool.false_ne_true
    · rw [if_neg hcommit] at hrun
      refine .inr ⟨_, hrun, hfresh, ?_, ?_, ?_⟩
      · exact ⟨hentered.1, hentered.2, hentered.3, hentered.4, hentered.5, hentered.6⟩
      · exact ⟨_, outcomes, _, hran, hstart.1, rfl, hschema⟩
      · cases direction with
        | up => exact hthere
        | down => exact hthere

end SchemaMigration.Migration
