import SchemaMigration.Proofs.RelatedRuns

/-
  Runs that succeed.

  A run that succeeds has found the ledger of the database: to read a ledger takes a table
  of its name, so unless the name hides a backtick the manager means that table. It has
  applied what was waiting, up to its limit, in the order in which files are listed, and
  the rows with a name are those from before and then one for each file, in a batch that is
  greater than every batch before.

  Main statement: `applied_of_run`.
-/
namespace SchemaMigration.Migration

open Sql Database Schema
open Database.Memory

/-! ## What is waiting -/

/-- The files without a row. -/
def waiting (available : List String) (rows : List LedgerRow) : List String :=
  available.filter fun file => !rows.any (·.migration == file)

/-- The first elements of a list, up to a limit. -/
def atMost {α : Type} : Option Nat → List α → List α
  | some n, l => l.take n
  | none, l => l

theorem any_entryOf (rows : List LedgerRow) (file : String) :
    (rows.map entryOf).any (·.migration == file) = rows.any (·.migration == file) := by
  rw [List.any_map]
  rfl

theorem pending_entries (m : Manager) (rows : List LedgerRow) (limit : Option Nat) :
    m.pending (rows.map entryOf) limit =
      m.available.map fun available => atMost limit (waiting available rows) := by
  rw [Manager.pending]
  simp only [any_entryOf]
  cases limit with
  | none => rfl
  | some n => rfl

theorem pending_of_available {m : Manager} {available : List String}
    (h : m.available = .ok available) (rows : List LedgerRow) (limit : Option Nat) :
    m.pending (rows.map entryOf) limit = .ok (atMost limit (waiting available rows)) := by
  rw [pending_entries, h]
  rfl

/-- The files that have rows after a run had them before or were applied. -/
theorem any_after_run {rows rows' : List LedgerRow} {batch : Int} {id ticks : Nat}
    {files : List String}
    (h : namedRows rows' = namedRows rows ++ newRows batch id ticks files) {file : String}
    (hfile : file ≠ "") :
    rows'.any (·.migration == file) = (rows.any (·.migration == file) || files.contains file) := by
  have hnew : (newRows batch id ticks files).any (·.migration == file) = files.contains file := by
    rw [← migrations_newRows batch id ticks files, List.contains_eq_any_beq, List.any_map,
      migrations_newRows]
    congr 1
    funext r
    exact Bool.eq_iff_iff.2 ⟨fun hr => beq_iff_eq.2 (beq_iff_eq.1 hr).symm,
      fun hr => beq_iff_eq.2 (beq_iff_eq.1 hr).symm⟩
  rw [← any_namedRows hfile rows', h, List.any_append, any_namedRows hfile, hnew]

/-- What is waiting after a run was waiting before and was not applied. -/
theorem waiting_after_run {available : List String} (havailable : ∀ file ∈ available, file ≠ "")
    {rows rows' : List LedgerRow} {batch : Int} {id ticks : Nat} {files : List String}
    (h : namedRows rows' = namedRows rows ++ newRows batch id ticks files) :
    waiting available rows' = (waiting available rows).filter fun file => !files.contains file := by
  rw [waiting, waiting, List.filter_filter]
  refine List.filter_congr fun file hfile => ?_
  rw [any_after_run h (havailable file hfile), Bool.not_or, Bool.and_comm]

theorem filter_not_contains_eq_nil {l files : List String} (h : ∀ file ∈ l, file ∈ files) :
    (l.filter fun file => !files.contains file) = [] := by
  refine List.filter_eq_nil_iff.2 fun file hfile hleft => ?_
  rw [List.contains_iff_mem.2 (h file hfile)] at hleft
  exact Bool.false_ne_true hleft

/-- Where the ledger can be made sure of and read, a choice is made if the files can be listed. -/
theorem runChoice_of_read {m : Manager} {limit : Option Nat} {db start : Memory}
    {entries : List LedgerEntry} {files : List String}
    (hensured : (Ledger.ensure m.ledgerTable).run db = (.ok (), start))
    (hread : (Ledger.entries m.ledgerTable).run start = (.ok entries, start))
    (hpending : m.pending entries limit = .ok files) :
    (runChoice m limit).run db = (.ok (lastBatch entries + 1, files), start) := by
  have hensured' : (Task.ofAction (Ledger.ensure m.ledgerTable)).run db = (.ok (), start) := by
    rw [Task.run_ofAction, hensured]
    rfl
  have hread' : (Task.ofAction (Ledger.entries m.ledgerTable)).run start =
      (.ok entries, start) := by
    rw [Task.run_ofAction, hread]
    rfl
  rw [runChoice, Task.run_bind_ok hensured', Task.run_bind_ok hread', Task.run_bind,
    Task.run_ofExcept, hpending]
  rfl

/-! ## What a run has done -/

/-- A run from `db` that starts from `start` once the ledger is there, and ends in `db'`. -/
structure Applied (m : Manager) (limit : Option Nat) (names : List String)
    (l : List (String × Scripts)) (db start db' : Memory) : Prop where
  ensured : (Ledger.ensure m.ledgerTable).run db = (.ok (), start)
  same : SameLedger db start
  table : m.ledgerTable = db.ledgerTable
  quoted : QuotedAsIs db.ledgerTable
  read : (Ledger.entries m.ledgerTable).run start = (.ok (db.ledger.map entryOf), start)
  pending : m.pending (db.ledger.map entryOf) limit = .ok names
  resolved : m.resolve names = .ok l
  scripts : ∀ p ∈ l, p.1 ≠ "" ∧ allGateway (p.2.toward .up) = true
  executed : (m.executeEach .up (lastBatch (db.ledger.map entryOf) + 1) [] l).run start =
    (.ok names, db')
  rows : namedRows db'.ledger = namedRows db.ledger ++
    newRows (lastBatch (db.ledger.map entryOf) + 1) db.nextId db.ticks names
  present : db'.tables.contains db'.ledgerTable = true
  conditions : SameConditions db db'

section
variable {m : Manager} {limit : Option Nat} {names : List String} {l : List (String × Scripts)}
  {db start db' : Memory} (h : Applied m limit names l db start db')
include h

theorem Applied.files : l.map Prod.fst = names := (resolve_eq_ok h.resolved).1

/-- What was applied are the first of the files that were waiting. -/
theorem Applied.names_eq : ∃ available, m.available = .ok available ∧
    atMost limit (waiting available db.ledger) = names := by
  obtain ⟨available, havailable, -⟩ := pending_eq_ok h.pending
  exact ⟨available, havailable,
    Except.ok.inj ((pending_of_available havailable _ _).symm.trans h.pending)⟩

theorem Applied.waiting_eq (hm : OfGateway m) {available : List String}
    (havailable : m.available = .ok available) : waiting available db'.ledger =
      (waiting available db.ledger).filter fun file => !names.contains file :=
  waiting_after_run (fun _ hfile => (hm.parses havailable hfile).ne_empty) h.rows

/-- The ledger table is still there when the lock is given back. -/
theorem Applied.present_unlocked {x : Memory} (hlocks : OnlyLocks db' x) :
    x.tables.contains x.ledgerTable = true := by
  rw [(Prod.mk.inj hlocks.schema).1, hlocks.sameLedger.ledgerTable]
  exact h.present

end

theorem applied_of_carryOut {m : Manager} (hm : OfGateway m) {db db' : Memory}
    (htable : '\x60' ∈ m.ledgerTable.toList → m.ledgerTable = db.ledgerTable)
    (hcanned : db.canned = ∅) {limit : Option Nat} {names : List String}
    (h : (carryOut m .up (runChoice m limit)).run db = (.ok names, db')) :
    ∃ l start, Applied m limit names l db start db' := by
  obtain ⟨batch, files, start, l, hchoice, hresolve, heach⟩ := carryOut_eq_ok h
  obtain ⟨hensure, hsame, hread, hpending, rfl⟩ := runChoice_eq_ok hcanned hchoice
  obtain ⟨-, -, -, hreads, hthere⟩ := entries_eq_ok (hsame.canned.trans hcanned) hread
  have htable' : m.ledgerTable = start.ledgerTable := by
    by_cases hquote : '\x60' ∈ m.ledgerTable.toList
    · exact (htable hquote).trans hsame.ledgerTable.symm
    · exact ledgerTable_of_readsLedger hquote hreads
  have hquoted : QuotedAsIs start.ledgerTable := by
    rw [htable'] at hreads
    exact quotedAsIs_of_readsLedger hreads
  obtain ⟨hfst, -⟩ := resolve_eq_ok hresolve
  have hl : ∀ p ∈ l, p.1 ≠ "" ∧ allGateway (p.2.toward .up) = true := by
    intro p hp
    refine ⟨(hm.parses_of_pending hpending ?_).ne_empty, hm.registry.of_resolve hresolve .up p hp⟩
    rw [← hfst]
    exact List.mem_map_of_mem hp
  obtain ⟨hrows, hpresent⟩ :=
    rows_of_executeEach htable' hquoted (hsame.canned.trans hcanned) hl heach
  have hensured : SameConditions db start := by
    have hrun := SameConditions.ofExecute db (createLedgerSql m.ledgerTable) []
    rw [Ledger.ensure, run_statement] at hensure
    obtain rfl := (Prod.mk.inj hensure).2
    exact hrun
  have hconditions : SameConditions start db' :=
    SameConditions.ofExecuteEach (fun p hp => (hl p hp).2) heach
  have hnames : names = files := (names_of_executeEach m .up _ heach).trans hfst
  subst hnames
  refine ⟨l, start, hensure, hsame, htable'.trans hsame.ledgerTable, ?_, hread, hpending, hresolve,
    hl, heach, ?_, ?_, hensured.trans hconditions⟩
  · rw [← hsame.ledgerTable]
    exact hquoted
  · rw [hrows, hsame.ledger, hsame.nextId, hsame.ticks, hfst]
  · by_cases hnone : l = []
    · -- Without migrations the table is the one that was read.
      subst hnone
      obtain rfl := (Prod.mk.inj heach).2
      exact hthere
    · exact hpresent hnone

/-- A run that succeeds has taken the lock, if the manager takes it, and applied migrations. -/
theorem applied_of_run {m : Manager} (hm : OfGateway m) {db db' : Memory}
    (htable : '\x60' ∈ m.ledgerTable.toList → m.ledgerTable = db.ledgerTable)
    (hcanned : db.canned = ∅) {limit : Option Nat} (hlimit : limit ≠ some 0) {names : List String}
    (h : (m.run limit).run db = (.ok names, db')) :
    ∃ held, ∃ after : Memory → Memory, (∀ x, OnlyLocks x (after x)) ∧
      (∀ {α : Type} (act : Task Memory α), (m.locked act).run db =
        ((act.run { db with held := held }).1, after (act.run { db with held := held }).2)) ∧
      ∃ l start mid, Applied m limit names l { db with held := held } start mid ∧
        db' = after mid := by
  rw [run_eq, if_neg hlimit] at h
  rcases locked_cases m db with ⟨e, db₁, -, -, hlock, -⟩ | ⟨held, after, hafter, hlock, -⟩
  · cases (hlock _).symm.trans h
  rw [hlock] at h
  obtain ⟨hresult, rfl⟩ := Prod.mk.inj h
  have htable' : '\x60' ∈ m.ledgerTable.toList →
      m.ledgerTable = ({ db with held := held } : Memory).ledgerTable := htable
  obtain ⟨l, start, happlied⟩ := applied_of_carryOut hm htable' hcanned (Prod.ext hresult rfl)
  exact ⟨held, after, hafter, hlock, l, start, _, happlied, rfl⟩

end SchemaMigration.Migration
