import SchemaMigration.Proofs.LedgerHistory
import SchemaMigration.Proofs.SuccessfulRuns

/-
  What is reported before a run and after it.

  The status asks whether there is a ledger and reads it; a run makes sure of the ledger and
  reads it. Both see the same rows where a ledger without a table has none, so a run applies
  what the status reports as not applied, and the status after it differs for these files
  alone: they are applied, in one batch that is greater than every batch before.

  The status fails where a run does not care: where the question for the table is bound to
  fail, and where a run of nothing does not look for files. A manager whose name for the
  ledger table contains the name that the database looks for can also drop the one table
  and write to the other (`unreported_runs`).

  Main statement: `reported_of_run`.
-/
namespace SchemaMigration.Migration

open Text Sql Database Schema Calendar
open Database.Memory

/-! ## The status of files -/

/-- The row of a file that counts. -/
def latestRow? (rows : List LedgerRow) (file : String) : Option LedgerRow :=
  rows.reverse.find? (·.migration == file)

theorem ofLedger_entries (rows : List LedgerRow) (file : String) :
    StatusEntry.ofLedger (rows.map entryOf) file = match latestRow? rows file with
      | some r => ⟨file, true, some r.batch, some r.appliedAt⟩
      | none => ⟨file, false, none, none⟩ := by
  have hfind : (rows.map entryOf).reverse.find? (·.migration == file) =
      (latestRow? rows file).map entryOf := by
    rw [← List.map_reverse, List.find?_map]
    rfl
  rw [StatusEntry.ofLedger, hfind]
  cases latestRow? rows file with
  | none => rfl
  | some r => rfl

theorem filename_ofLedger (entries : List LedgerEntry) (file : String) :
    (StatusEntry.ofLedger entries file).filename = file := by
  rw [StatusEntry.ofLedger]
  split
  · rfl
  · rfl

theorem applied_ofLedger (rows : List LedgerRow) (file : String) :
    (StatusEntry.ofLedger (rows.map entryOf) file).applied = rows.any (·.migration == file) := by
  rw [ofLedger_entries]
  cases hlatest : latestRow? rows file with
  | none =>
    refine (List.any_eq_false.2 fun r hr => ?_).symm
    exact List.find?_eq_none.1 hlatest r (List.mem_reverse.2 hr)
  | some r =>
    refine (List.any_eq_true.2 ⟨r, ?_, List.find?_some hlatest⟩).symm
    exact List.mem_reverse.1 (List.mem_of_find?_eq_some hlatest)

theorem latestRow?_append (x y : List LedgerRow) (file : String) :
    latestRow? (x ++ y) file = (latestRow? y file).or (latestRow? x file) := by
  rw [latestRow?, List.reverse_append, List.find?_append]
  rfl

theorem latestRow?_namedRows {file : String} (hfile : file ≠ "") (rows : List LedgerRow) :
    latestRow? (namedRows rows) file = latestRow? rows file := by
  rw [latestRow?, namedRows, ← List.filter_reverse, List.find?_filter]
  congr 1
  funext r
  by_cases hr : r.migration = file
  · simp [hr, hfile]
  · simp [hr]

theorem latestRow?_newRows (batch : Int) (id ticks : Nat) (files : List String) (file : String) :
    (file ∈ files → ∃ r, latestRow? (newRows batch id ticks files) file = some r ∧
      r.batch = batch) ∧
      (file ∉ files → latestRow? (newRows batch id ticks files) file = none) := by
  have hmem : ∀ r ∈ (newRows batch id ticks files).reverse, r.migration ∈ files := by
    intro r hr
    rw [← migrations_newRows batch id ticks files]
    exact List.mem_map_of_mem (List.mem_reverse.1 hr)
  cases hlatest : latestRow? (newRows batch id ticks files) file with
  | none =>
    refine ⟨fun hfile => ?_, fun _ => rfl⟩
    rw [← migrations_newRows batch id ticks files] at hfile
    obtain ⟨r, hr, hrfile⟩ := List.mem_map.1 hfile
    exact absurd (beq_iff_eq.2 hrfile) (List.find?_eq_none.1 hlatest r (List.mem_reverse.2 hr))
  | some r =>
    have hr := List.mem_of_find?_eq_some hlatest
    have hfound := List.find?_some hlatest
    refine ⟨fun _ => ⟨r, rfl, batch_of_mem_newRows (List.mem_reverse.1 hr)⟩, fun hfile => ?_⟩
    exact absurd (hmem r hr) (beq_iff_eq.1 hfound ▸ hfile)

/-- A run changes the status of what it applies, and of nothing else. -/
theorem ofLedger_after_run {rows rows' : List LedgerRow} {batch : Int} {id ticks : Nat}
    {files : List String}
    (h : namedRows rows' = namedRows rows ++ newRows batch id ticks files) :
    ∃ time : String → DateTime, ∀ file, file ≠ "" →
      StatusEntry.ofLedger (rows'.map entryOf) file =
        if file ∈ files then ⟨file, true, some batch, some (time file)⟩
        else StatusEntry.ofLedger (rows.map entryOf) file := by
  refine ⟨fun file => ((latestRow? rows' file).map (·.appliedAt)).getD (DateTime.ofUnix 0),
    fun file hfile => ?_⟩
  have hlatest : latestRow? rows' file =
      (latestRow? (newRows batch id ticks files) file).or (latestRow? rows file) := by
    rw [← latestRow?_namedRows hfile rows', h, latestRow?_append, latestRow?_namedRows hfile]
  obtain ⟨hnew, hold⟩ := latestRow?_newRows batch id ticks files file
  rw [ofLedger_entries, ofLedger_entries]
  by_cases hmem : file ∈ files
  · obtain ⟨r, hr, rfl⟩ := hnew hmem
    rw [hr, Option.some_or] at hlatest
    dsimp only
    rw [if_pos hmem, hlatest]
    rfl
  · rw [if_neg hmem, hlatest, hold hmem, Option.none_or]

/-- What is not reported as applied is waiting. -/
theorem not_applied_eq_waiting (available : List String) (rows : List LedgerRow) :
    ((available.map (StatusEntry.ofLedger (rows.map entryOf))).filter fun e => !e.applied).map
      (·.filename) = waiting available rows := by
  rw [List.filter_map, List.map_map]
  have hfilenames : (fun e : StatusEntry => e.filename) ∘ StatusEntry.ofLedger (rows.map entryOf) =
      id := funext fun file => filename_ofLedger _ file
  rw [hfilenames, List.map_id]
  refine List.filter_congr fun file _ => ?_
  exact congrArg (!·) (applied_ofLedger rows file)

/-! ## The ledger and the lock again -/

theorem OnlyLocks.conditions {a b : Memory} (h : OnlyLocks a b) : SameConditions a b := by
  obtain ⟨held, warnings, rfl⟩ := h
  exact ⟨rfl, rfl, rfl, rfl⟩

section
variable {m : Manager} {limit : Option Nat} {names : List String} {l : List (String × Scripts)}
  {db start db' x : Memory} (h : Applied m limit names l db start db') (hx : SameConditions db x)
include h hx

/-- What a run could read can be read wherever the ledger table is. -/
theorem Applied.read_again (hcanned : db.canned = ∅) (hthere : x.tables.contains x.ledgerTable = true) :
    (Ledger.entries m.ledgerTable).run x = (.ok (x.ledger.map entryOf), x) := by
  obtain ⟨-, -, hbound, hreads, -⟩ := entries_eq_ok (h.same.canned.trans hcanned) h.read
  have hreads' : x.readsLedger (ledgerEntriesSql m.ledgerTable) = true := by
    rw [readsLedger, hx.ledgerTable, ← h.same.ledgerTable]
    exact hreads
  rw [h.same.isBoundToFail] at hbound
  rw [run_entries (hx.canned.trans hcanned), hx.isBoundToFail, hbound, if_neg Bool.false_ne_true,
    if_pos hreads', if_pos hthere]

/-- A run can make sure of the ledger again, which changes neither rows nor tables. -/
theorem Applied.ensure_again (hthere : x.tables.contains x.ledgerTable = true) :
    ∃ x', (Ledger.ensure m.ledgerTable).run x = (.ok (), x') ∧ SameLedger x x' ∧
      SameConditions x x' ∧ x'.tables = x.tables := by
  obtain ⟨columns, hrun⟩ := run_ensure db m.ledgerTable
  have hbound : ¬db.isBoundToFail (createLedgerSql m.ledgerTable) = true := by
    intro hbound
    rw [if_pos hbound] at hrun
    cases hrun.symm.trans h.ensured
  obtain ⟨columns', hrun'⟩ := run_ensure x m.ledgerTable
  have htable : x.hasTable m.ledgerTable = true := by
    rw [Memory.hasTable, h.table, ← hx.ledgerTable, hthere, Bool.true_or]
  rw [hx.isBoundToFail, if_neg hbound, if_pos htable] at hrun'
  exact ⟨_, hrun', ⟨rfl, rfl, rfl, rfl, rfl, rfl⟩, ⟨rfl, rfl, rfl, rfl⟩, rfl⟩

end

/-- Whether a lock can be had depends on what fails and on what others hold. -/
theorem acquireLock_congr {a b : Memory} (h : SameConditions a b) (hcanned : a.canned = ∅)
    (name : String) (seconds : Nat) :
    ((acquireLock name seconds).run b).1 = ((acquireLock name seconds).run a).1 := by
  rw [run_acquireLock hcanned, run_acquireLock (h.canned.trans hcanned), h.isBoundToFail,
    h.heldElsewhere]
  split
  · rfl
  · split
    · rfl
    · rfl

/-- A lock that could be had can be had again. -/
theorem locked_again {m : Manager} {a b : Memory} (h : SameConditions a b) (hcanned : a.canned = ∅)
    {α : Type} {act : Task Memory α} {r : α} {a' : Memory}
    (hok : (m.locked act).run a = (.ok r, a')) :
    ∃ held, ∃ after : Memory → Memory, (∀ x, OnlyLocks x (after x)) ∧
      ∀ {β : Type} (act : Task Memory β), (m.locked act).run b =
        ((act.run { b with held := held }).1, after (act.run { b with held := held }).2) := by
  rcases locked_cases m b with ⟨e, b', -, -, hlock, -⟩ | ⟨held, after, hafter, hlock, -⟩
  · have hfails : (m.locked (pure () : Task Memory Unit)).run b = (.error e, b') := hlock _
    rw [Manager.locked] at hok hfails
    cases htimeout : m.lockTimeout with
    | none =>
      rw [htimeout] at hfails
      cases hfails
    | some seconds =>
      rw [htimeout] at hok hfails
      have hacquire := acquireLock_congr h hcanned (lockName m.ledgerTable) seconds
      rcases ha : (acquireLock (lockName m.ledgerTable) seconds).run a with ⟨e' | _, a₁⟩
      · cases (withLock_of_error ha act).symm.trans hok
      · rw [ha] at hacquire
        have hb : (acquireLock (lockName m.ledgerTable) seconds).run b =
          (.ok (), ((acquireLock (lockName m.ledgerTable) seconds).run b).2) := Prod.ext hacquire rfl
        cases (withLock_of_ok hb _).symm.trans hfails
  · exact ⟨held, after, hafter, hlock⟩

/-! ## Runs and reports -/

/-- The status before a run that succeeds lists the files that it applies as not applied, and
the one after it lists the same files: these as applied in one batch that is greater than every
batch before the run, and the others as before. -/
def ReportsRun (m : Manager) (limit : Option Nat) (db : Memory) : Prop :=
  ∀ names db', (m.run limit).run db = (.ok names, db') →
    ∃ before after, m.status.run db = (.ok before, db) ∧
      names = atMost limit ((before.filter fun e => !e.applied).map (·.filename)) ∧
      m.status.run db' = (.ok after, db') ∧
      ∃ batch : Int, (∀ r ∈ db.ledger, r.batch < batch) ∧ ∃ time : String → DateTime,
        after = before.map fun e =>
          if e.filename ∈ names then ⟨e.filename, true, some batch, some (time e.filename)⟩ else e

theorem run_status {m : Manager} {db : Memory} {entries : Option (List LedgerEntry)}
    {available : List String} (hentries : m.appliedEntries.run db = (.ok entries, db))
    (hrows : entries.getD [] = db.ledger.map entryOf) (havailable : m.available = .ok available) :
    m.status.run db = (.ok (available.map (StatusEntry.ofLedger (db.ledger.map entryOf))), db) := by
  rw [Manager.status, Task.run_bind_ok hentries, hrows, Task.run_bind, Task.run_ofExcept, havailable]
  rfl

section
variable {m : Manager} (hm : OfGateway m) {db db' : Memory}
  (htable : '\x60' ∈ m.ledgerTable.toList → m.ledgerTable = db.ledgerTable)
  (hcanned : db.canned = ∅)
include hm htable hcanned

theorem reportsRun {limit : Option Nat} (hlimit : limit ≠ some 0)
    (hledger : db.ledger ≠ [] → db.hasTable db.ledgerTable = true)
    (hask : db.isBoundToFail Catalog.hasTableSql = false) : ReportsRun m limit db := by
  intro names db' hrun
  obtain ⟨held, after, hafter, hlock, l, start, mid, happlied, rfl⟩ :=
    applied_of_run hm htable hcanned hlimit hrun
  obtain ⟨available, havailable, hnames⟩ := happlied.names_eq
  have hhere : SameConditions { db with held := held } db := ⟨rfl, rfl, rfl, rfl⟩
  have hthere := happlied.conditions.trans (hafter mid).conditions
  -- Before the run: there is a ledger to be read, or there are no rows.
  have hreadable : db.hasTable m.ledgerTable = true →
      (Ledger.entries m.ledgerTable).run db = (.ok (db.ledger.map entryOf), db) := by
    intro htable
    obtain ⟨-, -, -, -, hstart⟩ :=
      entries_eq_ok (happlied.same.canned.trans hcanned) happlied.read
    rw [(ensure_keeps_schema happlied.ensured).2 htable, happlied.same.ledgerTable] at hstart
    exact happlied.read_again hhere hcanned hstart
  have hledger' : db.ledger ≠ [] → db.hasTable m.ledgerTable = true := by
    rw [show m.ledgerTable = db.ledgerTable from happlied.table]
    exact hledger
  obtain ⟨entries, hentries, hrows⟩ := appliedEntries_of_entries hcanned hask hledger' hreadable
  -- After it the ledger is there.
  have hpresent := happlied.present_unlocked (hafter mid)
  have htable' : (after mid).hasTable m.ledgerTable = true := by
    rw [Memory.hasTable, happlied.table, ← hthere.ledgerTable, hpresent, Bool.true_or]
  obtain ⟨entries', hentries', hrows'⟩ := appliedEntries_of_entries (hthere.canned.trans hcanned)
    ((hthere.isBoundToFail _).trans hask) (fun _ => htable')
    fun _ => happlied.read_again hthere hcanned hpresent
  refine ⟨_, _, run_status hentries hrows havailable, ?_,
    run_status hentries' hrows' havailable, lastBatch (db.ledger.map entryOf) + 1, ?_, ?_⟩
  · rw [not_applied_eq_waiting]
    exact hnames.symm
  · exact fun r hr => Int.lt_add_one_of_le (le_lastBatch (List.mem_map_of_mem hr))
  · obtain ⟨time, htime⟩ := ofLedger_after_run happlied.rows
    refine ⟨time, ?_⟩
    rw [List.map_map, (hafter mid).sameLedger.ledger]
    refine List.map_congr_left fun file hfile => ?_
    rw [htime file (hm.parses havailable hfile).ne_empty, Function.comp_apply,
      filename_ofLedger]

/-- After all that was waiting is applied there is nothing to do. -/
theorem run_again {names : List String} (hrun : (m.run none).run db = (.ok names, db')) :
    ∃ db'', (m.run none).run db' = (.ok [], db'') ∧ db''.ledger = db'.ledger := by
  have hlimit : (none : Option Nat) ≠ some 0 := nofun
  obtain ⟨held, after, hafter, -, l, start, mid, happlied, rfl⟩ :=
    applied_of_run hm htable hcanned hlimit hrun
  have hconditions : SameConditions db (after mid) :=
    have h := happlied.conditions.trans (hafter mid).conditions
    ⟨h.1, h.2, h.3, h.4⟩
  rw [run_eq, if_neg hlimit] at hrun ⊢
  obtain ⟨held', after', hafter', hlock⟩ := locked_again hconditions hcanned hrun
  have hagain : SameConditions { db with held := held } { after mid with held := held' } :=
    ⟨hconditions.1, hconditions.2, hconditions.3, hconditions.4⟩
  have hthere := happlied.present_unlocked (hafter mid)
  obtain ⟨again, hensured, hsame, hstill, htables⟩ := happlied.ensure_again hagain hthere
  have hread := happlied.read_again (hagain.trans hstill) hcanned (by
    rw [htables, hsame.ledgerTable]
    exact hthere)
  -- The first run has applied all that was waiting, and its rows are still there.
  have hpending : m.pending (again.ledger.map entryOf) none = .ok [] := by
    obtain ⟨available, havailable, hnames⟩ := happlied.names_eq
    have hledger : again.ledger = mid.ledger :=
      hsame.ledger.trans (hafter mid).sameLedger.ledger
    have hnone : waiting available mid.ledger = [] := by
      rw [happlied.waiting_eq hm havailable, ← hnames]
      exact filter_not_contains_eq_nil fun _ => id
    rw [pending_of_available havailable, hledger, hnone]
    rfl
  have hnothing := (run_carryOut .up (runChoice_of_read hensured hread hpending)
    (show m.resolve [] = .ok [] from rfl)).1
  rw [hlock, hnothing]
  exact ⟨_, rfl, (hafter' again).sameLedger.ledger.trans hsame.ledger⟩

/-- A run of nothing does nothing. Any other run that succeeds is reported as such, before it
and after it, and behind one without a limit the next finds nothing to do. -/
theorem reported_of_run (hledger : db.ledger ≠ [] → db.hasTable db.ledgerTable = true)
    (hask : db.isBoundToFail Catalog.hasTableSql = false) (limit : Option Nat) :
    (limit = some 0 → (m.run limit).run db = (.ok [], db)) ∧
      (limit ≠ some 0 → ReportsRun m limit db) ∧
      ∀ names db', (m.run none).run db = (.ok names, db') →
        ∃ db'', (m.run none).run db' = (.ok [], db'') ∧ db''.ledger = db'.ledger := by
  refine ⟨fun hlimit => ?_, fun hlimit => ?_, fun names db' hrun => ?_⟩
  · rw [run_eq, if_pos hlimit]
    rfl
  · exact reportsRun hm htable hcanned hlimit hledger hask
  · exact run_again hm htable hcanned hrun

end

theorem single_reported :
    ReportsRun single none unmigrated ∧ ∃ db' db'',
      (single.run none).run unmigrated = (.ok ["20240101000000_a.rs"], db') ∧
        (single.run none).run db' = (.ok [], db'') ∧ db''.ledger = db'.ledger := by
  have hm : OfGateway single := ⟨gatewayRegistry_registryOf (by decide), .inl rfl⟩
  have htable : '\x60' ∈ single.ledgerTable.toList →
      single.ledgerTable = unmigrated.ledgerTable := fun _ => rfl
  have hledger : unmigrated.ledger ≠ [] → unmigrated.hasTable unmigrated.ledgerTable = true :=
    fun hrows => absurd rfl hrows
  have hask : unmigrated.isBoundToFail Catalog.hasTableSql = false := by decide
  obtain ⟨-, hreports, hagain⟩ := reported_of_run hm htable rfl hledger hask none
  have hruns : ((single.run none).run unmigrated).1.toOption = some ["20240101000000_a.rs"] := by
    decide +kernel
  have hrun := eq_ok_of_toOption hruns
  obtain ⟨db'', hrun', hledger⟩ := hagain _ _ hrun
  exact ⟨hreports nofun, _, db'', hrun, hrun', hledger⟩

/-! ## Runs that are not reported -/

/-- A manager whose name for the ledger table holds a backtick, behind which its migration drops
that table. -/
def misquoted : Manager :=
  { Manager.ofRegistry (registryOf [("20240101000000_a.rs", ⟨[.drop "t\x60s"], []⟩)]) with
    ledgerTable := "t\x60s" }

/-- The question for the ledger table fails, or the directory is missing, or the status asks for
one table and the run writes to another. -/
theorem unreported_runs :
    (OfGateway single ∧ OfGateway (single.inDirectory Files.Tree.empty "migrations") ∧
        OfGateway misquoted) ∧
      (∀ fragment, (unmigrated.failOn fragment).canned = ∅ ∧
        (unmigrated.failOn fragment).ledger = []) ∧
      unmigrated.canned = ∅ ∧ unmigrated.ledger = [] ∧
      ¬ReportsRun single none (unmigrated.failOn "BASE TABLE") ∧
      ¬ReportsRun (single.inDirectory Files.Tree.empty "migrations") (some 0) unmigrated ∧
      ¬ReportsRun misquoted none unmigrated := by
  have hsingle : GatewayRegistry single.registry := gatewayRegistry_registryOf (by decide)
  have hruns : ((single.run none).run (unmigrated.failOn "BASE TABLE")).1.toOption =
        some ["20240101000000_a.rs"] ∧
      (single.status.run (unmigrated.failOn "BASE TABLE")).1.toOption.isSome = false ∧
      ((single.inDirectory Files.Tree.empty "migrations").status.run
        unmigrated).1.toOption.isSome = false ∧
      ((misquoted.run none).run unmigrated).1.toOption = some ["20240101000000_a.rs"] ∧
      (misquoted.status.run ((misquoted.run none).run unmigrated).2).1.toOption.map
        (fun after => after.map (·.applied)) = some [false] := by
    decide +kernel
  obtain ⟨hran, hunseen, hmissing, hdropped, hlost⟩ := hruns
  refine ⟨⟨⟨hsingle, .inl rfl⟩, ⟨hsingle, .inr ⟨Files.Tree.empty, "migrations", rfl⟩⟩,
    ⟨gatewayRegistry_registryOf (by decide), .inl rfl⟩⟩, fun _ => ⟨rfl, rfl⟩, rfl, rfl,
    fun h => ?_, fun h => ?_, fun h => ?_⟩
  · obtain ⟨before, -, hstatus, -⟩ := h _ _ (eq_ok_of_toOption hran)
    rw [hstatus] at hunseen
    cases hunseen
  · obtain ⟨before, -, hstatus, -⟩ := h [] unmigrated rfl
    rw [hstatus] at hmissing
    cases hmissing
  · obtain ⟨before, after, -, hnames, hstatus, batch, -, time, hafter⟩ :=
      h _ _ (eq_ok_of_toOption hdropped)
    rw [hstatus] at hlost
    have happlied : after.map (·.applied) = [false] := Option.some.inj hlost
    -- The file was reported before, so it should be reported as applied now.
    have hfile : "20240101000000_a.rs" ∈ (before.filter fun e => !e.applied).map (·.filename) := by
      rw [show (before.filter fun e => !e.applied).map (·.filename) = _ from hnames.symm]
      exact List.mem_singleton_self _
    obtain ⟨e, he, hname⟩ := List.mem_map.1 hfile
    have htrue : true ∈ after.map (·.applied) := by
      rw [hafter, List.map_map]
      refine List.mem_map.2 ⟨e, (List.mem_filter.1 he).1, ?_⟩
      rw [Function.comp_apply, if_pos (hname ▸ List.mem_singleton_self _)]
    rw [happlied] at htrue
    exact absurd (List.mem_singleton.1 htrue) (by decide)

end SchemaMigration.Migration
