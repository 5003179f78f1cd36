import SchemaMigration.Proofs.LedgerHistory
import SchemaMigration.Proofs.RehearsedScript

/-
  Transactions that cannot be committed.

  A migration is noted in the ledger before its transaction is committed, and a transaction
  counts as closed once it is told to commit. When that fails nobody rolls back any more:
  the work fails, and the ledger says all the same that the migration was applied or
  reverted. A migration that fails earlier is rolled back, so ROLLBACK is the last thing it
  sends.

  Main statements: `executeOne_uncommitted`, one migration; `noted_of_failed_commit`, a run,
  a rollback or a reset.
-/
namespace SchemaMigration.Migration

open Sql Database Schema Calendar
open Database.Memory

theorem getLast?_noted (db : Memory) (sql : String) :
    (db.noted sql).statements.getLast? = some sql := by
  rw [noted, List.getLast?_append]
  rfl

/-- Where a commit is bound to fail no migration is completed. One that sends nothing after
its commit has been entered in the ledger. -/
theorem executeOne_uncommitted {m : Manager} {db : Memory}
    (htable : m.ledgerTable = db.ledgerTable) (hquoted : QuotedAsIs db.ledgerTable)
    (hnamed : Named db) (hcommit : db.isBoundToFail commitSql = true) {direction : Direction}
    {scripts : Scripts} (hscript : allGateway (scripts.toward direction) = true) (batch : Int)
    (completed : List String) (file : String) :
    ∃ e db', (m.executeOne direction batch completed file scripts).run db = (.error e, db') ∧
      (db'.statements.getLast? = some commitSql →
        e = .executionFailed file direction completed (injected commitSql) ∧
          SameLedger (entered direction batch db file) db') := by
  rcases executeOne_ends m direction batch completed file scripts db with
    ⟨-, hrun⟩ | ⟨-, ⟨e, t, warnings, -, hrun⟩ | ⟨t, hattempt, hrun⟩⟩
  · refine ⟨_, _, hrun, fun hlast => ?_⟩
    rw [getLast?_noted] at hlast
    exact absurd hlast (by decide)
  · refine ⟨e, _, hrun, fun hlast => ?_⟩
    -- What is rolled back sends a rollback last.
    have hrolled : ((Connection.rollback : Action Memory Unit).run t.inner).2.statements =
        t.inner.statements ++ [rollbackSql] := (execute_log t.inner rollbackSql []).1
    dsimp only at hlast
    rw [hrolled, List.getLast?_append] at hlast
    exact absurd (show some rollbackSql = some commitSql from hlast) (by decide)
  · have hstart : Undisturbed db (begun db) := ⟨⟨rfl, rfl, rfl, rfl, rfl, rfl⟩, .inr rfl⟩
    rcases attempt_cases htable hquoted hnamed hscript hstart batch file
      (.executionFailed file direction completed) with ⟨e, _, hfails, -⟩ | ⟨_, finish, -, hends, hfinish, -⟩
    · cases hattempt.symm.trans hfails
    obtain ⟨-, rfl⟩ := Prod.mk.inj (hattempt.symm.trans hends)
    have hentered := entered_sameLedger
      (hfinish.1.noted (ledgerSql direction finish.ledgerTable)) direction batch file
    -- Nothing on the way changes what is bound to fail.
    have hbound : (entered direction batch (finish.noted (ledgerSql direction finish.ledgerTable))
        file).isBoundToFail commitSql = true := by
      rw [hentered.isBoundToFail, isBoundToFail_congr (entered_settings direction batch db file).2.2]
      exact hcommit
    rw [run_commit, if_pos hbound] at hrun
    exact ⟨_, _, hrun, fun _ => ⟨rfl, hentered.noted commitSql⟩⟩

/-- To enter one migration is what the work leaves after it. -/
theorem Work.ledger_entered {w : Work} {db start : Memory} {batch : Int} {file : String}
    (hsame : SameLedger db start)
    (hbatch : w.direction = .up → batch = lastBatch (db.ledger.map entryOf) + 1) :
    (entered w.direction batch start file).ledger = w.ledgerAfter db [file] := by
  have hremoved : start.ledger.filter (·.migration != file) =
      db.ledger.filter fun r => !([file].contains r.migration) := by
    rw [hsame.ledger]
    congr 1
    funext r
    rw [List.contains_cons, List.contains_nil, Bool.or_false]
    rfl
  cases w with
  | run limit =>
    show start.ledger ++ [_] = _
    rw [hsame.ledger, hsame.nextId, hsame.ticks, hbatch rfl]
    rfl
  | rollback steps => exact hremoved
  | reset => exact hremoved

/-- Work that fails with a migration has begun to carry out what it chose. -/
theorem Work.begun_of_executionFailed {m : Manager} (hm : OfGateway m) {db : Memory}
    (htable : m.ledgerTable = db.ledgerTable) (hcanned : db.canned = ∅) (hnamed : Named db)
    (w : Work) {file : String} {direction : Direction} {completed : List String}
    {cause : Database.Error} {db' : Memory}
    (h : (w.task m).run db = (.error (.executionFailed file direction completed cause), db')) :
    ∃ held batch files start l mid,
      (w.choice m).run { db with held := held } = (.ok (batch, files), start) ∧
        SameLedger db start ∧ (files ≠ [] → QuotedAsIs start.ledgerTable) ∧
        m.resolve files = .ok l ∧
        (m.executeEach w.direction batch [] l).run start =
          (.error (.executionFailed file direction completed cause), mid) ∧
        OnlyLocks mid db' := by
  rw [Work.task_eq] at h
  by_cases hidle : w.isIdle = true
  · rw [if_pos hidle] at h
    cases h
  rw [if_neg hidle] at h
  -- Only a migration that was carried out fails like this.
  have hother : ∀ {e : Error}, e.isOfMigration = false →
      e ≠ .executionFailed file direction completed cause := by
    rintro _ he rfl
    cases he
  rcases locked_cases m db with ⟨e, db₁, -, he, hlock, -⟩ | ⟨held, after, hafter, hlock, -⟩
  · exact absurd (Except.error.inj (Prod.mk.inj ((hlock _).symm.trans h)).1) (hother he)
  rw [hlock] at h
  obtain ⟨hresult, rfl⟩ := Prod.mk.inj h
  cases Work.chosen hm db htable hcanned hnamed w held with
  | failed hrun _ he =>
    rw [carryOut, Task.run_bind_error hrun] at hresult
    exact absurd (Except.error.inj hresult) (hother he)
  | @answered batch files start hrun hsame hquoted hfiles =>
    cases hresolve : m.resolve files with
    | error e =>
      obtain ⟨_, _, _, -, -, -, rfl⟩ := resolve_eq_error hresolve
      rw [(run_carryOut_unresolved w.direction hrun hresolve).1] at hresult
      cases hresult
    | ok l =>
      obtain ⟨hcarry, -⟩ := run_carryOut w.direction hrun hresolve
      rw [hcarry] at hresult ⊢
      refine ⟨held, batch, files, start, l, _, hrun, (SameLedger.held db held).trans hsame, ?_,
        hresolve, Prod.ext hresult rfl, hafter _⟩
      rw [hsame.ledgerTable]
      exact hquoted

/-- Work that fails at a commit was about to take the first of the selected migrations, and
the ledger says that it did. -/
theorem noted_of_failed_commit {m : Manager} (hm : OfGateway m) {db : Memory}
    (htable : m.ledgerTable = db.ledgerTable) (hcanned : db.canned = ∅)
    (hnamed : ∀ r ∈ db.ledger, r.migration ≠ "") (hcommit : db.isBoundToFail commitSql = true)
    (w : Work) {file : String} {direction : Direction} {completed : List String}
    {cause : Database.Error} {db' : Memory}
    (h : (w.task m).run db = (.error (.executionFailed file direction completed cause), db'))
    (hlast : db'.statements.getLast? = some commitSql) :
    direction = w.direction ∧ completed = [] ∧ cause = injected commitSql ∧
      (∃ rest, w.selected m db = .ok (file :: rest)) ∧ db'.ledger = w.ledgerAfter db [file] := by
  obtain ⟨held, batch, files, start, l, mid, hchoice, hsame, hquoted, hresolve, heach, hlocks⟩ :=
    Work.begun_of_executionFailed hm htable hcanned hnamed w h
  obtain ⟨held', warnings, rfl⟩ := hlocks
  obtain ⟨hfst, -⟩ := resolve_eq_ok hresolve
  cases l with
  | nil => cases heach
  -- Already the first migration fails, so none comes before it.
  | cons p l =>
    obtain ⟨next, scripts⟩ := p
    have hscript : allGateway (scripts.toward w.direction) = true :=
      hm.registry.of_resolve hresolve w.direction _ List.mem_cons_self
    have hne : files ≠ [] := by
      rw [← hfst]
      exact List.cons_ne_nil _ _
    have hnamed' : Named start := Named.of_sameLedger hnamed hsame
    obtain ⟨e, db', hone, hnoted⟩ := executeOne_uncommitted
      (htable.trans hsame.ledgerTable.symm) (hquoted hne) hnamed'
      ((hsame.isBoundToFail commitSql).trans hcommit) hscript batch [] next
    obtain ⟨hfails, -⟩ := executeEach_error m w.direction batch l hone
    obtain ⟨hsent, rfl⟩ := Prod.mk.inj (hfails.symm.trans heach)
    obtain rfl := Except.error.inj hsent
    obtain ⟨herror, hledger⟩ := hnoted hlast
    obtain ⟨rfl, rfl, rfl, rfl⟩ := Error.executionFailed.inj herror
    obtain ⟨hselected, hbatch⟩ := Work.selected_of_choice hm db htable hcanned hne hchoice
    refine ⟨rfl, rfl, rfl, ⟨l.map Prod.fst, ?_⟩, ?_⟩
    · rw [hselected, ← hfst]
      rfl
    · exact hledger.ledger.trans (Work.ledger_entered hsame hbatch)

/-! ## A database that does not commit -/

/-- A database that refuses to commit. -/
def refusing (ledger : List LedgerRow) : Memory :=
  { ledgerTable := "t", tables := (∅ : NameMap (List (String × String))).insert "t" []
    failures := [commitSql], ledger, nextId := 2 }

/-- One in which that migration is applied. -/
def refusingApplied : Memory :=
  refusing [⟨1, "20240101000000_a.rs", 1, DateTime.ofUnix startOfTime⟩]

/-- What became of work that failed: why, the last statement, and the applied migrations. -/
def failure {α : Type} : Except Error α × Memory → Option (Error × Option String × List String)
  | (.error e, db) => some (e, db.statements.getLast?, db.ledger.map (·.migration))
  | (.ok _, _) => none

/-- A reset that fails takes the row away. -/
theorem reset_takes_row : ∃ db', (Work.reset.task single).run refusingApplied =
      (.error (.executionFailed "20240101000000_a.rs" .down [] (injected commitSql)), db') ∧
    db'.ledger = [] := by
  have hm : OfGateway single := ⟨gatewayRegistry_registryOf (by decide), .inl rfl⟩
  have hfails : failure ((Work.reset.task single).run refusingApplied) =
      some (.executionFailed "20240101000000_a.rs" .down [] (injected commitSql),
        some commitSql, []) := by
    decide +kernel
  rcases hrun : (Work.reset.task single).run refusingApplied with ⟨e | done, db'⟩
  · rw [hrun] at hfails
    obtain ⟨rfl, hlast⟩ := Prod.mk.inj (Option.some.inj hfails)
    obtain ⟨-, -, -, -, hledger⟩ := noted_of_failed_commit hm rfl rfl (by decide) (by decide)
      .reset hrun (Prod.mk.inj hlast).1
    exact ⟨db', rfl, hledger.trans (by decide)⟩
  · rw [hrun] at hfails
    cases hfails

/-- The run fails, and the migration has a row where there was none. -/
theorem failed_run_leaves_row :
    (refusing []).ledger = [] ∧ ∃ db', ((Work.run none).task single).run (refusing []) =
        (.error (.executionFailed "20240101000000_a.rs" .up [] (injected commitSql)), db') ∧
      db'.ledger.map (·.migration) = ["20240101000000_a.rs"] := by
  have hfails : failure (((Work.run none).task single).run (refusing [])) =
      some (.executionFailed "20240101000000_a.rs" .up [] (injected commitSql),
        some commitSql, ["20240101000000_a.rs"]) := by
    decide +kernel
  refine ⟨rfl, ?_⟩
  rcases hrun : ((Work.run none).task single).run (refusing []) with ⟨e | done, db'⟩
  · rw [hrun] at hfails
    obtain ⟨rfl, hrows⟩ := Prod.mk.inj (Option.some.inj hfails)
    exact ⟨db', rfl, (Prod.mk.inj hrows).2⟩
  · rw [hrun] at hfails
    cases hfails

end SchemaMigration.Migration
