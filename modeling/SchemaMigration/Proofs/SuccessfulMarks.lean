import SchemaMigration.Proofs.LedgerCalls
import SchemaMigration.Proofs.ReportedRuns

/-
  Marks that succeed.

  Where nothing is made to fail and nobody holds the lock, a file without a row can be
  marked: its row is added under the batch that is given or the next one, and the status
  reports it. Two things about the ledger table have to be right. Its name has to read the
  same with its backticks doubled, and a description in the catalog does not stand for the
  table itself: with one, no table is made, and then there is none to write to.

  Main statements: `mark_of_unhindered` and `status_of_unhindered`.
-/
namespace SchemaMigration.Migration

open Text Sql Database Schema Calendar
open Database.Memory

/-- Nothing keeps a statement about the ledger from its effect. -/
structure Unhindered (db : Memory) : Prop where
  canned : db.canned = ∅
  failures : db.failures = []
  unlocked : db.heldElsewhere.contains (lockName db.ledgerTable) = false
  quoted : QuotedAsIs db.ledgerTable
  /-- The ledger table is not only described in the catalog. -/
  tracked : db.catalog.contains db.ledgerTable = true → db.tables.contains db.ledgerTable = true

section
variable {db : Memory} (h : Unhindered db)
include h

theorem Unhindered.isBoundToFail (sql : String) : db.isBoundToFail sql = false := by
  rw [Memory.isBoundToFail, h.failures]
  rfl

theorem Unhindered.again {db' : Memory} (hsame : SameConditions db db')
    (hthere : db'.tables.contains db'.ledgerTable = true) : Unhindered db' := by
  refine ⟨hsame.canned.trans h.canned, hsame.failures.trans h.failures, ?_, ?_, fun _ => hthere⟩
  · rw [hsame.heldElsewhere, hsame.ledgerTable]
    exact h.unlocked
  · rw [hsame.ledgerTable]
    exact h.quoted

theorem Unhindered.held (held : List String) : Unhindered { db with held := held } :=
  ⟨h.canned, h.failures, h.unlocked, h.quoted, h.tracked⟩

/-! ## The lock -/

theorem acquireLock_of_unhindered (seconds : Nat) :
    (acquireLock (lockName db.ledgerTable) seconds).run db =
      (.ok (), (db.acquire (lockName db.ledgerTable)).2) := by
  rw [run_acquireLock h.canned, h.isBoundToFail, h.unlocked, if_neg Bool.false_ne_true,
    if_neg Bool.false_ne_true]

theorem locked_of_unhindered {m : Manager} (htable : m.ledgerTable = db.ledgerTable) :
    ∃ held, ∃ after : Memory → Memory, (∀ x, OnlyLocks x (after x)) ∧
      ∀ {α : Type} (act : Task Memory α), (m.locked act).run db =
        ((act.run { db with held := held }).1, after (act.run { db with held := held }).2) := by
  rcases locked_cases m db with ⟨e, db', -, -, hlock, -⟩ | ⟨held, after, hafter, hlock, -⟩
  · have hfails : (m.locked (pure () : Task Memory Unit)).run db = (.error e, db') := hlock _
    rw [Manager.locked] at hfails
    cases htimeout : m.lockTimeout with
    | none =>
      rw [htimeout] at hfails
      cases hfails
    | some seconds =>
      have hacquire := acquireLock_of_unhindered h seconds
      rw [← htable] at hacquire
      rw [htimeout, withLock_of_ok hacquire] at hfails
      cases hfails
  · exact ⟨held, after, hafter, hlock⟩

/-! ## The ledger -/

theorem ensure_of_unhindered : ∃ start, (Ledger.ensure db.ledgerTable).run db = (.ok (), start) ∧
    SameLedger db start ∧ SameConditions db start ∧
    start.tables.contains start.ledgerTable = true := by
  obtain ⟨columns, hrun⟩ := run_ensure db db.ledgerTable
  rw [h.isBoundToFail, if_neg Bool.false_ne_true] at hrun
  refine ⟨_, hrun, ⟨rfl, rfl, rfl, rfl, rfl, rfl⟩, ⟨rfl, rfl, rfl, rfl⟩, ?_⟩
  show (if db.hasTable db.ledgerTable then db.tables
    else db.tables.insert db.ledgerTable columns).contains db.ledgerTable = true
  by_cases hthere : db.hasTable db.ledgerTable = true
  · rw [if_pos hthere]
    rw [Memory.hasTable, Bool.or_eq_true] at hthere
    exact hthere.elim id h.tracked
  · rw [if_neg hthere, NameMap.contains, NameMap.get?_insert, if_pos rfl]
    rfl

theorem entries_of_unhindered (hthere : db.tables.contains db.ledgerTable = true) :
    (Ledger.entries db.ledgerTable).run db = (.ok (db.ledger.map entryOf), db) := by
  rw [run_entries h.canned, h.isBoundToFail, if_neg Bool.false_ne_true,
    if_pos (readsLedger_of_quotedAsIs h.quoted), if_pos hthere]

theorem recordIfAbsent_of_unhindered (hthere : db.tables.contains db.ledgerTable = true)
    {file : String} (hfresh : Fresh db file) (batch : Int) :
    (Ledger.recordIfAbsent db.ledgerTable file batch).run db =
      (.ok true, (db.noted (recordIfAbsentSql db.ledgerTable)).addRow file batch) := by
  have hnone : (db.noted (recordIfAbsentSql db.ledgerTable)).ledger.any
      (·.migration == file) = false :=
    List.any_eq_false.2 fun r hr hfile => hfresh r hr (beq_iff_eq.1 hfile)
  have hthere' : (db.noted (recordIfAbsentSql db.ledgerTable)).tables.contains
      (db.noted (recordIfAbsentSql db.ledgerTable)).ledgerTable = true := hthere
  rw [Ledger.recordIfAbsent, Action.run_bind, run_execute, execute_eq, h.isBoundToFail,
    if_neg Bool.false_ne_true, read_recordIfAbsentSql_of_quoted h.quoted, perform_record,
    if_pos hthere', hnone, if_neg Bool.false_ne_true]
  rfl

end

/-! ## Marking a file -/

/-- The row of a file was added under a batch, in a ledger table that is there. -/
structure Marked (file : String) (batch : Int) (db db' : Memory) : Prop where
  ledger : SameLedger (db.addRow file batch) db'
  conditions : SameConditions db db'
  present : db'.tables.contains db'.ledgerTable = true

/-- The batch under which a file is marked. -/
def batchFor (db : Memory) : Option Nat → Int
  | some n => n
  | none => lastBatch (db.ledger.map entryOf) + 1

section
variable {m : Manager} {db : Memory} (h : Unhindered db) (htable : m.ledgerTable = db.ledgerTable)
include h htable

theorem markBatch_of_unhindered (hthere : db.tables.contains db.ledgerTable = true)
    (batch : Option Nat) : (markBatch m batch).run db = (.ok (batchFor db batch), db) := by
  cases batch with
  | some n => rfl
  | none =>
    show (Task.ofAction (Ledger.entries m.ledgerTable) >>= fun entries =>
      pure (lastBatch entries + 1)).run db = _
    rw [htable, Task.run_bind, Task.run_ofAction, entries_of_unhindered h hthere]
    rfl

theorem markHeld_of_unhindered {file : String} (hfresh : Fresh db file) (batch : Option Nat) :
    ∃ db', (markHeld m file batch).run db = (.ok true, db') ∧
      Marked file (batchFor db batch) db db' := by
  obtain ⟨start, hensure, hsame, hconditions, hthere⟩ := ensure_of_unhindered h
  have hstart := h.again hconditions hthere
  have htable' : m.ledgerTable = start.ledgerTable := htable.trans hsame.ledgerTable.symm
  have hbatch := markBatch_of_unhindered hstart htable' hthere batch
  have hfor : batchFor start batch = batchFor db batch := by
    cases batch with
    | some n => rfl
    | none => rw [batchFor, batchFor, hsame.ledger]
  have hfresh' : Fresh start file := fun r hr => hfresh r (hsame.ledger ▸ hr)
  have hrecord := recordIfAbsent_of_unhindered hstart hthere hfresh' (batchFor start batch)
  rw [← htable] at hensure
  rw [← htable'] at hrecord
  refine ⟨(start.noted (recordIfAbsentSql m.ledgerTable)).addRow file (batchFor start batch),
    ?_, ?_, ?_, hthere⟩
  · rw [markHeld, Task.run_bind, Task.run_ofAction, hensure]
    dsimp only [Except.mapError]
    rw [Task.run_bind_ok hbatch, Task.run_ofAction, hrecord]
    rfl
  · rw [hfor]
    exact entered_sameLedger (hsame.noted _) .up (batchFor db batch) file
  · exact hconditions.trans ⟨rfl, rfl, rfl, rfl⟩

/-- A file without a row is marked, under the batch that is given or the next one. -/
theorem mark_of_unhindered {file : String} (hfile : Parses file) (hfresh : Fresh db file)
    (batch : Option Nat) (hbatch : batch ≠ some 0) :
    ∃ db', (m.mark file batch).run db = (.ok true, db') ∧
      Marked file (batchFor db batch) db db' := by
  obtain ⟨f, hf⟩ := hfile
  obtain ⟨held, after, hafter, hlock⟩ := locked_of_unhindered h htable
  obtain ⟨mid, hmark, hmarked⟩ := markHeld_of_unhindered (h.held held) htable hfresh batch
  have hlocks := hafter mid
  refine ⟨after mid, ?_, ?_, ?_, ?_⟩
  · rw [mark_eq hf hbatch, hlock, hmark]
  · exact (entered_sameLedger (SameLedger.held db held) .up _ file).trans
      (hmarked.ledger.trans hlocks.sameLedger)
  · have hheld : SameConditions db { db with held := held } := ⟨rfl, rfl, rfl, rfl⟩
    exact hheld.trans (hmarked.conditions.trans hlocks.conditions)
  · rw [(Prod.mk.inj hlocks.schema).1, hlocks.sameLedger.ledgerTable]
    exact hmarked.present

/-- The status of all files that there are. -/
theorem status_of_unhindered (hthere : db.tables.contains db.ledgerTable = true)
    {available : List String} (havailable : m.available = .ok available) :
    m.status.run db = (.ok (available.map (StatusEntry.ofLedger (db.ledger.map entryOf))), db) := by
  have hpresent : db.hasTable m.ledgerTable = true := by
    rw [htable, Memory.hasTable, hthere, Bool.true_or]
  obtain ⟨entries, hentries, hrows⟩ := appliedEntries_of_entries (m := m) h.canned
    (h.isBoundToFail _) (fun _ => hpresent) fun _ => by
      rw [htable]
      exact entries_of_unhindered h hthere
  exact run_status hentries hrows havailable

end

/-- What to run can be chosen. -/
theorem choice_of_unhindered {m : Manager} {db : Memory} (h : Unhindered db)
    (htable : m.ledgerTable = db.ledgerTable) {available : List String}
    (havailable : m.available = .ok available) (limit : Option Nat) :
    ∃ start, (runChoice m limit).run db =
      (.ok (lastBatch (db.ledger.map entryOf) + 1, atMost limit (waiting available db.ledger)),
        start) := by
  obtain ⟨start, hensure, hsame, hconditions, hthere⟩ := ensure_of_unhindered h
  have hentries := entries_of_unhindered (h.again hconditions hthere) hthere
  rw [hsame.ledgerTable, ← htable, hsame.ledger] at hentries
  rw [← htable] at hensure
  refine ⟨start, ?_⟩
  rw [runChoice, Task.run_bind, Task.run_ofAction, hensure]
  dsimp only [Except.mapError]
  rw [Task.run_bind, Task.run_ofAction, hentries]
  dsimp only [Except.mapError]
  rw [pending_of_available havailable, Task.run_bind, Task.run_ofExcept]
  rfl

/-- The status has the batch of the row that was added last. -/
theorem batch_of_status {file : String} {available : List String} (hfile : file ∈ available)
    (rows : List LedgerRow) {r : LedgerRow} (hr : r.migration = file) :
    ((available.map (StatusEntry.ofLedger ((rows ++ [r]).map entryOf))).find?
      (·.filename == file)).bind (·.batch) = some r.batch := by
  have hlatest : latestRow? (rows ++ [r]) file = some r := by
    rw [latestRow?_append, latestRow?, List.reverse_singleton, List.find?_singleton, hr, beq_self_eq_true,
      if_pos rfl, Option.some_or]
  have hfind : (available.map (StatusEntry.ofLedger ((rows ++ [r]).map entryOf))).find?
      (·.filename == file) = some (StatusEntry.ofLedger ((rows ++ [r]).map entryOf) file) := by
    have hfilenames : (fun e : StatusEntry => e.filename == file) ∘
        StatusEntry.ofLedger ((rows ++ [r]).map entryOf) = fun x => x == file :=
      funext fun x => congrArg (· == file) (filename_ofLedger _ x)
    have hself : available.find? (fun x => x == file) = some file := by
      have hsome : (available.find? fun x => x == file).isSome = true :=
        List.find?_isSome.2 ⟨file, hfile, beq_self_eq_true file⟩
      obtain ⟨found, hfound⟩ := Option.isSome_iff_exists.1 hsome
      have hfound' := List.find?_some hfound
      rw [hfound, beq_iff_eq.1 hfound']
    rw [List.find?_map, hfilenames, hself]
    rfl
  rw [hfind, ofLedger_entries, hlatest]
  rfl

/-! ## Several files -/

/-- The rows of files were added in one batch, in a ledger table that is there. -/
structure MarkedAll (batch : Int) (files : List String) (db db' : Memory) : Prop where
  ledger : db'.ledger = db.ledger ++ newRows batch db.nextId db.ticks files
  conditions : SameConditions db db'
  present : db'.tables.contains db'.ledgerTable = true

theorem MarkedAll.cons {batch : Int} {file : String} {files : List String} {db mid db' : Memory}
    (first : Marked file batch db mid) (others : MarkedAll batch files mid db') :
    MarkedAll batch (file :: files) db db' := by
  refine ⟨?_, first.conditions.trans others.conditions, others.present⟩
  have hledger : mid.ledger = db.ledger ++
      [⟨db.nextId, file, batch, DateTime.ofUnix (startOfTime + (db.ticks + 1))⟩] :=
    first.ledger.ledger
  have hnext : mid.nextId = db.nextId + 1 := first.ledger.nextId
  have hticks : mid.ticks = db.ticks + 1 := first.ledger.ticks
  rw [others.ledger, hledger, hnext, hticks, List.append_assoc]
  rfl

/-- What has no row and is not marked has none afterwards. -/
theorem Marked.fresh {file other : String} {batch : Int} {db db' : Memory}
    (h : Marked file batch db db') (hfresh : Fresh db other) (hne : file ≠ other) :
    Fresh db' other := by
  intro r hr
  rw [h.ledger.ledger] at hr
  rcases List.mem_append.1 hr with hr | hr
  · exact hfresh r hr
  · rw [List.mem_singleton.1 hr]
    exact hne

/-! ## Where the ledger cannot be read -/

/-- The ledger cannot be read: its name does not read the same quoted, or a description
stands for a table that is not there. -/
def Unreadable (db : Memory) : Prop :=
  ¬QuotedAsIs db.ledgerTable ∨
    db.catalog.contains db.ledgerTable = true ∧ db.tables.contains db.ledgerTable = false

theorem entries_of_unreadable {db : Memory} (hcanned : db.canned = ∅)
    (h : ¬QuotedAsIs db.ledgerTable ∨ db.tables.contains db.ledgerTable = false) :
    ∃ e, (Ledger.entries db.ledgerTable).run db = (.error e, db) := by
  rw [run_entries hcanned]
  split
  · exact ⟨_, rfl⟩
  split
  · next hreads =>
    rw [h.resolve_left fun hquoted => hquoted (quotedAsIs_of_readsLedger hreads),
      if_neg Bool.false_ne_true]
    exact ⟨_, rfl⟩
  · exact ⟨_, rfl⟩

theorem markHeld_of_unreadable {m : Manager} {db : Memory} (hcanned : db.canned = ∅)
    (h : Unreadable db) (htable : m.ledgerTable = db.ledgerTable) (file : String) :
    ∃ e db', (markHeld m file none).run db = (.error e, db') := by
  obtain ⟨columns, hensure⟩ := run_ensure db db.ledgerTable
  rw [markHeld, htable, Task.run_bind, Task.run_ofAction]
  by_cases hbound : db.isBoundToFail (createLedgerSql db.ledgerTable) = true
  · rw [hensure, if_pos hbound]
    exact ⟨_, _, rfl⟩
  obtain ⟨start, hstart, htable', hcanned', htables⟩ : ∃ start : Memory,
      (Ledger.ensure db.ledgerTable : Action Memory Unit).run db = (.ok (), start) ∧
        start.ledgerTable = db.ledgerTable ∧ start.canned = ∅ ∧
        start.tables = if db.hasTable db.ledgerTable then db.tables
          else db.tables.insert db.ledgerTable columns := by
    rw [hensure, if_neg hbound]
    exact ⟨_, rfl, rfl, hcanned, rfl⟩
  -- what is described counts as there, so no table was made
  have hunreadable : ¬QuotedAsIs start.ledgerTable ∨
      start.tables.contains start.ledgerTable = false := by
    rw [htable', htables]
    refine h.imp_right ?_
    rintro ⟨hdescribed, hmissing⟩
    have hthere : db.hasTable db.ledgerTable = true := by
      rw [Memory.hasTable, hdescribed, Bool.or_true]
    rw [if_pos hthere]
    exact hmissing
  obtain ⟨e, hentries⟩ := entries_of_unreadable hcanned' hunreadable
  have hbatch : (markBatch m none).run start = (.error (.database e), start) := by
    show (Task.ofAction (Ledger.entries m.ledgerTable) >>= fun entries =>
      pure (lastBatch entries + 1)).run start = _
    rw [htable, ← htable', Task.run_bind, Task.run_ofAction, hentries]
    rfl
  rw [hstart]
  show ∃ e db', (markBatch m none >>= fun _ => _).run start = (.error e, db')
  rw [Task.run_bind_error hbatch]
  exact ⟨_, _, rfl⟩

/-- A ledger that cannot be read keeps a file from being marked in a new batch. -/
theorem mark_of_unreadable {m : Manager} {db : Memory} (hcanned : db.canned = ∅)
    (h : Unreadable db) (htable : m.ledgerTable = db.ledgerTable) {file : String}
    (hfile : Parses file) : ∃ e db', (m.mark file none).run db = (.error e, db') := by
  obtain ⟨f, hf⟩ := hfile
  rw [mark_eq hf (Option.some_ne_none 0).symm]
  rcases locked_cases m db with ⟨e, db₁, -, -, hlock, -⟩ | ⟨held, after, -, hlock, -⟩
  · exact ⟨e, db₁, hlock _⟩
  · have hcanned' : ({ db with held := held } : Memory).canned = ∅ := hcanned
    obtain ⟨e, mid, hheld⟩ := markHeld_of_unreadable hcanned' h htable file
    rw [hlock, hheld]
    exact ⟨e, _, rfl⟩

end SchemaMigration.Migration
