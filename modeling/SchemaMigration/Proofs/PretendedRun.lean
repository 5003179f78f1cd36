import SchemaMigration.Proofs.CarriedWork
import SchemaMigration.Proofs.RehearsedScript
import SchemaMigration.Proofs.ReportingCalls

/-
  A run as it was pretended.

  To run and to pretend select migrations from the same rows, though a run first makes
  sure of the ledger and the other may find none. Each migration that is applied has sent
  what its rehearsal notes, so a run that succeeds has sent what was told.

  Two things are asked of the failures that are injected. Only to pretend asks whether
  there is a ledger, so that query may not fail. And where a script catches the failure of
  an alteration, the statements behind the one that failed are not sent, which a rehearsal
  does not notice (`widening_not_foretold`).

  Main statement: `pretend_foretells`.
-/
namespace SchemaMigration.Migration

open Sql Database Schema
open Database.Memory

/-- What a run sends for a planned migration. -/
def PlannedMigration.log (ledgerTable : String) (p : PlannedMigration) : List String :=
  beginSql :: (p.statements ++ [recordSql ledgerTable, commitSql])

/-- The script asks nothing, and no statement is bound to fail that is on the way of
operations of which the script catches the failures. -/
structure Predictable (db : Memory) (script : List Operation) : Prop where
  asksNothing : asksNothingAll script = true
  caught : ∀ sql ∈ caughtMidway script, db.isBoundToFail sql = false

theorem Predictable.of_failures {a b : Memory} {script : List Operation} (h : Predictable a script)
    (hfailures : b.failures = a.failures) : Predictable b script := by
  refine ⟨h.asksNothing, fun sql hsql => ?_⟩
  rw [isBoundToFail_congr hfailures]
  exact h.caught sql hsql

/-! ## One migration -/

theorem attempt_foretold {m : Manager} {file : String} {scripts : Scripts} {batch : Int}
    {failed : Database.Error → Error} {start : Memory} {t : Transaction Memory}
    (hscript : Predictable start scripts.up) (base : Memory)
    (h : m.attempt .up file scripts batch failed (Transaction.mk start false) = (.ok (), t)) :
    ∃ sqls, ((Manager.rehearse scripts.up).run base).1 = .ok sqls ∧
      t.inner.statements = start.statements ++ (sqls ++ [recordSql m.ledgerTable]) ∧
      t.inner.failures = start.failures := by
  rw [Manager.attempt] at h
  rcases hran : (runAll (scripts.toward .up)).run (Transaction.mk start false) with
    ⟨e | outcomes, finish, closed⟩
  · rw [hran] at h
    cases h
  rw [hran] at h
  obtain ⟨outcomes', r, hrehearsed, hopen, hlog, hfailures⟩ :=
    runAll_leads scripts.up hscript.asksNothing hscript.caught ⟨start, false⟩ ⟨base, []⟩
      ⟨rfl, (List.append_nil _).symm, rfl⟩ outcomes _ hran
  obtain rfl : closed = false := hopen
  have hwrite : (m.writeLedger .up file batch : Action Memory Unit).run finish =
      ((finish.execute (recordSql m.ledgerTable) [.text file, .int batch]).1.map fun _ => (),
        (finish.execute (recordSql m.ledgerTable) [.text file, .int batch]).2) :=
    run_writeLedger m .up file batch finish
  obtain ⟨hsent, hsame⟩ := execute_log finish (recordSql m.ledgerTable) [.text file, .int batch]
  dsimp only at h
  rw [writeLedger_open, hwrite] at h
  generalize finish.execute (recordSql m.ledgerTable) [.text file, .int batch] = written at *
  -- Had the row not been added, the attempt would not have succeeded.
  obtain ⟨e | n, entered⟩ := written
  · cases e <;> cases h
  obtain rfl := (Prod.mk.inj h).2
  refine ⟨r.captured, ?_, ?_, hsame.trans hfailures⟩
  · show (((runAll scripts.up).run (Rehearsal.mk base [])).1.map fun _ =>
      ((runAll scripts.up).run (Rehearsal.mk base [])).2.captured) = _
    rw [hrehearsed]
    rfl
  · rw [← List.append_assoc]
    exact hsent.trans (congrArg (· ++ _) hlog)

/-- A migration that is applied has sent what its rehearsal notes, behind the statement that
begins its transaction and in front of those that note and commit it. -/
theorem executeOne_foretold {m : Manager} {batch : Int} {completed : List String} {file : String}
    {scripts : Scripts} {db db' : Memory} (hscript : Predictable db scripts.up) (base : Memory)
    (h : (m.executeOne .up batch completed file scripts).run db = (.ok (), db')) :
    ∃ sqls, ((Manager.rehearse scripts.up).run base).1 = .ok sqls ∧
      db'.statements = db.statements ++ PlannedMigration.log m.ledgerTable ⟨file, sqls⟩ ∧
      db'.failures = db.failures := by
  obtain ⟨-, t, hattempt, -, rfl⟩ := executeOne_eq_ok_iff.1 h
  have hstart : Predictable (begun db) scripts.up := hscript.of_failures rfl
  obtain ⟨sqls, hrehearsed, hsent, hsame⟩ := attempt_foretold hstart base hattempt
  refine ⟨sqls, hrehearsed, ?_, hsame⟩
  show t.inner.statements ++ [commitSql] = _
  rw [hsent]
  show db.statements ++ [beginSql] ++ _ ++ _ = _
  simp only [PlannedMigration.log, List.append_assoc, List.cons_append, List.nil_append]

/-! ## Migrations one after the other -/

theorem run_rehearseEach {file : String} {scripts : Scripts} {sqls completed : List String}
    {l : List (String × Scripts)} {db db' : Memory}
    (h : (Manager.rehearse scripts.up).run db = (.ok sqls, db')) :
    (Manager.rehearseEach completed ((file, scripts) :: l)).run db =
      (Manager.rehearseEach (completed ++ [file]) l >>= fun plans =>
        pure (⟨file, sqls⟩ :: plans)).run db' := by
  rw [Manager.rehearseEach]
  refine Task.run_bind_ok ?_
  show (((Manager.rehearse scripts.up).run db).1.mapError (Error.executionFailed file .up completed),
    ((Manager.rehearse scripts.up).run db).2) = _
  rw [h]
  rfl

theorem executeEach_foretold {m : Manager} {batch : Int} {l : List (String × Scripts)}
    {completed names : List String} {db db' : Memory} (base : Memory)
    (hl : ∀ p ∈ l, allGateway p.2.up = true ∧ Predictable db p.2.up)
    (h : (m.executeEach .up batch completed l).run db = (.ok names, db')) :
    names = completed ++ l.map Prod.fst ∧
      ∃ plans, (∀ done, (Manager.rehearseEach done l).run base = (.ok plans, base)) ∧
        plans.map (·.filename) = l.map Prod.fst ∧
        db'.statements = db.statements ++ plans.flatMap (PlannedMigration.log m.ledgerTable) := by
  induction l generalizing completed db with
  | nil =>
    cases h
    exact ⟨(List.append_nil _).symm, [], fun _ => rfl, rfl, (List.append_nil _).symm⟩
  | cons p l ih =>
    obtain ⟨file, scripts⟩ := p
    obtain ⟨⟨hgateway, hscript⟩, hl⟩ := List.forall_mem_cons.1 hl
    rw [Manager.executeEach] at h
    obtain ⟨_, mid, hone, hrest⟩ := Task.of_run_bind h
    obtain ⟨sqls, hrehearsed, hsent, hsame⟩ := executeOne_foretold hscript base hone
    obtain ⟨rfl, plans, hplans, hnames, hlog⟩ :=
      ih (fun p hp => ⟨(hl p hp).1, (hl p hp).2.of_failures hsame⟩) hrest
    refine ⟨List.append_assoc _ [file] _, ⟨file, sqls⟩ :: plans, fun done => ?_, ?_, ?_⟩
    · have hrun : (Manager.rehearse scripts.up).run base = (.ok sqls, base) :=
        Prod.ext hrehearsed (rehearse_unchanging hgateway base)
      exact (run_rehearseEach hrun).trans (Task.run_bind_ok (hplans (done ++ [file])))
    · rw [List.map_cons, hnames, List.map_cons]
    · rw [hlog, hsent, List.flatMap_cons, List.append_assoc]

/-! ## The ledger before the run and in it -/

/-- A run chooses from the ledger as it was before, behind the statement that makes sure of
it. -/
theorem runChoice_foretold {m : Manager} {limit : Option Nat} {db start : Memory} {batch : Int}
    {files : List String} (hcanned : db.canned = ∅)
    (h : (runChoice m limit).run db = (.ok (batch, files), start)) :
    m.pending (db.ledger.map entryOf) limit = .ok files ∧
      start.statements = db.statements ++ [createLedgerSql m.ledgerTable] ∧
      start.failures = db.failures := by
  obtain ⟨hensure, hsame, -, hpending, -⟩ := runChoice_eq_ok hcanned h
  obtain ⟨hsent, -⟩ := execute_log db (createLedgerSql m.ledgerTable) []
  rw [Ledger.ensure, run_statement] at hensure
  obtain rfl := (Prod.mk.inj hensure).2
  exact ⟨hpending, hsent, hsame.failures⟩

/-! ## The whole run -/

/-- The script is one that a run takes from the registry. -/
def Manager.Selects (m : Manager) (limit : Option Nat) (db : Memory) (script : List Operation) :
    Prop :=
  ∃ files file scripts, m.pending (db.ledger.map entryOf) limit = .ok files ∧ file ∈ files ∧
    m.registry.get? file = some scripts ∧ script = scripts.up

/-- If the run succeeds, to pretend it tells its migrations and what they send: the run has
sent that, in transactions of their own, behind the statement that makes sure of the ledger. -/
def Foretells (m : Manager) (limit : Option Nat) (db : Memory) : Prop :=
  ∀ names db', (m.run limit).run db = (.ok names, db') →
    ∃ plans, (m.pretend limit).run db = (.ok plans, db) ∧ plans.map (·.filename) = names ∧
      db'.statements = db.statements ++
        createLedgerSql m.ledgerTable :: plans.flatMap (PlannedMigration.log m.ledgerTable)

theorem run_pretend {m : Manager} {limit : Option Nat} {db : Memory}
    {entries : Option (List LedgerEntry)} {files : List String} {l : List (String × Scripts)}
    {plans : List PlannedMigration} (hlimit : limit ≠ some 0)
    (hentries : m.appliedEntries.run db = (.ok entries, db))
    (hpending : m.pending (entries.getD []) limit = .ok files) (hresolve : m.resolve files = .ok l)
    (hplans : (Manager.rehearseEach [] l).run db = (.ok plans, db)) :
    (m.pretend limit).run db = (.ok plans, db) := by
  rw [Manager.pretend, if_neg hlimit, Task.run_bind_ok hentries, Task.run_bind, Task.run_ofExcept,
    hpending]
  dsimp only
  rw [Task.run_bind, Task.run_ofExcept, hresolve]
  exact hplans

/-- A run under the lock that succeeds. -/
theorem carryOut_foretold {m : Manager} (hm : GatewayRegistry m.registry) {limit : Option Nat}
    {db db' : Memory} {names : List String} (hcanned : db.canned = ∅)
    (hscripts : ∀ script, m.Selects limit db script → Predictable db script) (base : Memory)
    (h : (carryOut m .up (runChoice m limit)).run db = (.ok names, db')) :
    ∃ files l plans, m.pending (db.ledger.map entryOf) limit = .ok files ∧
      m.resolve files = .ok l ∧ (Manager.rehearseEach [] l).run base = (.ok plans, base) ∧
      plans.map (·.filename) = names ∧
      db'.statements = db.statements ++
        createLedgerSql m.ledgerTable :: plans.flatMap (PlannedMigration.log m.ledgerTable) ∧
      (db.hasTable m.ledgerTable = true →
        (Ledger.entries m.ledgerTable).run db = (.ok (db.ledger.map entryOf), db)) := by
  obtain ⟨batch, files, start, l, hchoice, hresolve, heach⟩ := carryOut_eq_ok h
  obtain ⟨hpending, hsent, hsame⟩ := runChoice_foretold hcanned hchoice
  have hentries := entries_of_runChoice hcanned hchoice
  have hfst : l.map Prod.fst = files := (resolve_eq_ok hresolve).1
  -- To choose the files changes nothing of what is bound to fail.
  have hl : ∀ p ∈ l, allGateway p.2.up = true ∧ Predictable start p.2.up := by
    intro p hp
    have hget := (resolve_eq_ok hresolve).2 p hp
    have hfile : p.1 ∈ files := hfst ▸ List.mem_map_of_mem hp
    refine ⟨hm.of_get? hget .up, Predictable.of_failures ?_ hsame⟩
    exact hscripts p.2.up ⟨files, p.1, p.2, hpending, hfile, hget, rfl⟩
  obtain ⟨rfl, plans, hplans, hnames, hlog⟩ := executeEach_foretold base hl heach
  refine ⟨files, l, plans, hpending, hresolve, hplans [], hnames, ?_, hentries⟩
  rw [hlog, hsent, List.append_assoc]
  rfl

/-- To pretend a run leaves the database as it is, whatever it answers, and foretells the run
if the ledger can be asked for and all scripts are predictable. -/
theorem pretend_foretells {m : Manager} (hm : GatewayRegistry m.registry) (limit : Option Nat)
    (db : Memory) :
    ((m.pretend limit).run db).2 = db ∧
      (db.canned = ∅ → (db.ledger ≠ [] → db.hasTable m.ledgerTable = true) → limit ≠ some 0 →
        db.isBoundToFail Catalog.hasTableSql = false →
        (∀ script, m.Selects limit db script → Predictable db script) →
        Foretells m limit db) := by
  refine ⟨pretend_unchanging hm limit db, ?_⟩
  intro hcanned hledger hlimit hask hscripts names db' hrun
  rw [run_eq, if_neg hlimit] at hrun
  rcases locked_cases m db with ⟨e, db₁, -, -, hlock, -⟩ | ⟨held, after, hafter, hlock, -⟩
  · cases (hlock _).symm.trans hrun
  rw [hlock] at hrun
  rcases hcarried : (carryOut m .up (runChoice m limit)).run { db with held := held } with ⟨r, mid⟩
  rw [hcarried] at hrun
  obtain ⟨hr, hmid⟩ := Prod.mk.inj hrun
  obtain rfl : r = .ok names := hr
  obtain rfl : after mid = db' := hmid
  -- Locks that are held are of no concern to what is selected and sent.
  have hscripts' : ∀ script, m.Selects limit { db with held := held } script →
      Predictable { db with held := held } script := fun script hscript =>
    (hscripts script hscript).of_failures rfl
  have hcanned' : ({ db with held := held } : Memory).canned = ∅ := hcanned
  obtain ⟨files, l, plans, hpending, hresolve, hplans, hnames, hlog, hread⟩ :=
    carryOut_foretold hm hcanned' hscripts' db hcarried
  have hentries : db.hasTable m.ledgerTable = true →
      (Ledger.entries m.ledgerTable).run db = (.ok (db.ledger.map entryOf), db) := by
    intro hthere
    have h := congrArg Prod.fst (hread hthere)
    rw [run_entries hcanned'] at h
    rw [run_entries hcanned]
    exact Prod.ext h rfl
  obtain ⟨entries, happlied, hrows⟩ := appliedEntries_of_entries hcanned hask hledger hentries
  refine ⟨plans, run_pretend hlimit happlied ?_ hresolve hplans, hnames, ?_⟩
  · rw [hrows]
    exact hpending
  · obtain ⟨locks, warnings, hlocks⟩ := hafter mid
    rw [hlocks]
    exact hlog

/-! ## Failures that are caught -/

/-- A script that adds two columns and catches the failure of that. -/
def widen : List Operation := [.attempt [.alter "a" [.column "x" .integer, .column "y" .integer]]]

/-- A manager of one migration with this script. -/
def widening : Manager :=
  { Manager.ofRegistry (registryOf [("20240101000000_a.rs", ⟨widen, []⟩)]) with ledgerTable := "t" }

/-- A database without tables, in which what contains a text is bound to fail. -/
def failing (fragment : String) : Memory := (Memory.empty "t").failOn fragment

theorem selects_widening {fragment : String} {script : List Operation}
    (h : widening.Selects none (failing fragment) script) : script = widen := by
  obtain ⟨files, file, scripts, hpending, hfile, hscripts, rfl⟩ := h
  have hfiles : widening.pending ((failing fragment).ledger.map entryOf) none =
      .ok ["20240101000000_a.rs"] := by rfl
  have hget : widening.registry.get? "20240101000000_a.rs" = some ⟨widen, []⟩ := by rfl
  obtain rfl := Except.ok.inj (hpending.symm.trans hfiles)
  obtain rfl := List.mem_singleton.1 hfile
  obtain rfl := Option.some.inj (hscripts.symm.trans hget)
  rfl

/-- The run succeeds whatever fails of these, and the rest of what is told of it. -/
theorem widening_runs :
    (failing "\x60y\x60").isBoundToFail Catalog.hasTableSql = false ∧
      (∀ fragment ∈ ["BASE TABLE", "\x60x\x60", "\x60y\x60"],
        ((widening.run none).run (failing fragment)).1.toOption = some ["20240101000000_a.rs"]) ∧
      ((widening.pretend none).run (failing "BASE TABLE")).1.toOption.isSome = false ∧
      ((widening.run none).run (failing "\x60x\x60")).2.statements.length = 5 ∧
      ((widening.pretend none).run (failing "\x60x\x60")).1.toOption.map
        (fun plans => (plans.flatMap (PlannedMigration.log "t")).length) = some 5 := by
  decide +kernel

theorem run_widening {fragment : String}
    (h : fragment ∈ ["BASE TABLE", "\x60x\x60", "\x60y\x60"]) :
    ∃ db', (widening.run none).run (failing fragment) = (.ok ["20240101000000_a.rs"], db') :=
  ⟨_, eq_ok_of_toOption (widening_runs.2.1 fragment h)⟩

/-- The second column fails, behind which nothing is left out. -/
theorem pretend_foretells_widening :
    ∃ plans db', (widening.run none).run (failing "\x60y\x60") =
        (.ok ["20240101000000_a.rs"], db') ∧
      (widening.pretend none).run (failing "\x60y\x60") = (.ok plans, failing "\x60y\x60") ∧
      plans.map (·.filename) = ["20240101000000_a.rs"] ∧
      db'.statements = createLedgerSql "t" :: plans.flatMap (PlannedMigration.log "t") := by
  have hgateway : GatewayRegistry widening.registry := gatewayRegistry_registryOf (by decide)
  have hforetells : Foretells widening none (failing "\x60y\x60") := by
    refine (pretend_foretells hgateway none (failing "\x60y\x60")).2 rfl
      (fun hrows => absurd rfl hrows) nofun widening_runs.1 fun script hscript => ?_
    obtain rfl := selects_widening hscript
    exact ⟨rfl, by decide⟩
  obtain ⟨db', hrun⟩ := run_widening (List.mem_cons_of_mem "BASE TABLE"
    (List.mem_cons_of_mem "\x60x\x60" (List.mem_singleton_self "\x60y\x60")))
  obtain ⟨plans, hplans, hnames, hlog⟩ := hforetells _ _ hrun
  exact ⟨plans, db', hrun, hplans, hnames, hlog⟩

/-- Without a look at the ledger nothing can be told, and of an alteration that fails at the
first column a run does not send the second. -/
theorem widening_not_foretold :
    GatewayRegistry widening.registry ∧ asksNothingAll widen = true ∧
      (∀ fragment, (failing fragment).canned = ∅ ∧ (failing fragment).ledger = [] ∧
        ∀ script, widening.Selects none (failing fragment) script → script = widen) ∧
      ¬Foretells widening none (failing "BASE TABLE") ∧
      ¬Foretells widening none (failing "\x60x\x60") := by
  obtain ⟨-, -, hunseen, hsent, hplanned⟩ := widening_runs
  refine ⟨gatewayRegistry_registryOf (by decide), rfl,
    fun fragment => ⟨rfl, rfl, fun script => selects_widening⟩, fun h => ?_, fun h => ?_⟩
  · obtain ⟨db', hrun⟩ := run_widening List.mem_cons_self
    obtain ⟨plans, hplans, -, -⟩ := h _ db' hrun
    rw [hplans] at hunseen
    cases hunseen
  · obtain ⟨db', hrun⟩ := run_widening (List.mem_cons_of_mem _ List.mem_cons_self)
    obtain ⟨plans, hplans, -, hlog⟩ := h _ db' hrun
    rw [hrun] at hsent
    rw [hplans] at hplanned
    have hplanned' : (plans.flatMap (PlannedMigration.log "t")).length = 5 :=
      Option.some.inj hplanned
    -- The run has sent one statement less than what was told, and the one for the ledger.
    have hlength : db'.statements.length =
        (plans.flatMap (PlannedMigration.log "t")).length + 1 := congrArg List.length hlog
    rw [hplanned'] at hlength
    exact absurd (hsent.symm.trans hlength) (by decide)

end SchemaMigration.Migration
