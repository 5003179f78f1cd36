import SchemaMigration.Proofs.CarriedWork

/-
  What it does to the ledger to mark a file.

  Its row is added if it has none, under the batch that is given or the next one.

  Main statement: `mark_cases`.
-/
namespace SchemaMigration.Migration

open Sql Database Schema
open Database.Memory

theorem lastBatch_nonneg {entries : List LedgerEntry} (h : ∀ e ∈ entries, 1 ≤ e.batch) :
    0 ≤ lastBatch entries := by
  have hfold : ∀ (l : List LedgerEntry) (b : Int), 0 ≤ b →
      0 ≤ l.foldl (fun b e => max b e.batch) b := by
    intro l
    induction l with
    | nil => exact fun b hb => hb
    | cons e l ih => exact fun b hb => ih _ (Int.le_trans hb (Int.le_max_left b e.batch))
  cases entries with
  | nil => exact Int.le_refl 0
  | cons e rest =>
    have he := h e List.mem_cons_self
    exact hfold rest e.batch (by omega)

theorem lastBatch_entries_nonneg {rows : List LedgerRow} (h : ∀ r ∈ rows, 1 ≤ r.batch) :
    0 ≤ lastBatch (rows.map entryOf) := by
  apply lastBatch_nonneg
  intro e he
  obtain ⟨r, hr, rfl⟩ := List.mem_map.1 he
  exact h r hr

/-- A row is added or not; it is added exactly if the answer says so. -/
theorem recordIfAbsent_cases (db : Memory) (table file : String) (batch : Int) :
    (∃ r db', (Ledger.recordIfAbsent table file batch).run db = (r, db') ∧ r ≠ .ok true ∧
        SameLedger db db') ∨
      ∃ db', (Ledger.recordIfAbsent table file batch).run db = (.ok true, db') ∧ Fresh db file ∧
        SameLedger (db.addRow file batch) db' := by
  have hnoted : SameLedger db (db.noted (recordIfAbsentSql table)) := (SameLedger.refl db).noted _
  rw [Ledger.recordIfAbsent, Action.run_bind, run_execute, execute_eq]
  by_cases hbound : db.isBoundToFail (recordIfAbsentSql table) = true
  · rw [if_pos hbound]
    exact .inl ⟨_, _, rfl, nofun, hnoted⟩
  rw [if_neg hbound]
  -- A statement about another table is read as no statement about the ledger.
  rcases read_recordIfAbsentSql db.ledgerTable table with hread | hread
  · rw [hread, perform_record]
    by_cases hthere : (db.noted (recordIfAbsentSql table)).tables.contains
        (db.noted (recordIfAbsentSql table)).ledgerTable = true
    · rw [if_pos hthere]
      by_cases hrow : (db.noted (recordIfAbsentSql table)).ledger.any (·.migration == file) = true
      · rw [if_pos hrow]
        exact .inl ⟨.ok false, _, rfl, nofun, hnoted⟩
      · rw [if_neg hrow]
        exact .inr ⟨_, rfl, fresh_of_any hrow, ⟨rfl, rfl, rfl, rfl, rfl, rfl⟩⟩
    · rw [if_neg hthere]
      exact .inl ⟨_, _, rfl, nofun, hnoted⟩
  · rw [hread]
    exact .inl ⟨.ok false, _, rfl, nofun, hnoted⟩

/-- The number of the batch under which a file is marked. -/
def markBatch (m : Manager) (batch : Option Nat) : Task Memory Int :=
  match batch with
  | some n => pure (n : Int)
  | none => do
    let entries ← Task.ofAction (Ledger.entries m.ledgerTable)
    pure (lastBatch entries + 1)

theorem markBatch_cases {m : Manager} {db : Memory} (htable : m.ledgerTable = db.ledgerTable)
    (hcanned : db.canned = ∅) (hbatches : ∀ r ∈ db.ledger, 1 ≤ r.batch) {batch : Option Nat}
    (hbatch : batch ≠ some 0) :
    (∃ e, (markBatch m batch).run db = (.error e, db)) ∨
      ∃ b, (markBatch m batch).run db = (.ok b, db) ∧ 1 ≤ b := by
  cases batch with
  | some n =>
    refine .inr ⟨n, rfl, ?_⟩
    have : n ≠ 0 := fun hn => hbatch (congrArg some hn)
    omega
  | none =>
    show (∃ e, (Task.ofAction (Ledger.entries m.ledgerTable) >>= fun entries =>
      pure (lastBatch entries + 1)).run db = (.error e, db)) ∨ ∃ b,
        (Task.ofAction (Ledger.entries m.ledgerTable) >>= fun entries =>
          pure (lastBatch entries + 1)).run db = (.ok b, db) ∧ 1 ≤ b
    rw [Task.run_bind, Task.run_ofAction, htable]
    rcases entries_cases hcanned with ⟨e, he⟩ | ⟨hentries, -⟩
    · rw [he]
      exact .inl ⟨_, rfl⟩
    · rw [hentries]
      refine .inr ⟨_, rfl, ?_⟩
      have := lastBatch_entries_nonneg hbatches
      omega

/-- What marking does once the lock is taken. -/
def markHeld (m : Manager) (file : String) (batch : Option Nat) : Task Memory Bool := do
  Task.ofAction (Ledger.ensure m.ledgerTable)
  let b ← markBatch m batch
  Task.ofAction (Ledger.recordIfAbsent m.ledgerTable file b)

theorem markHeld_cases {m : Manager} (db : Memory) (htable : m.ledgerTable = db.ledgerTable)
    (hcanned : db.canned = ∅) (hbatches : ∀ r ∈ db.ledger, 1 ≤ r.batch) (file : String)
    {batch : Option Nat} (hbatch : batch ≠ some 0) :
    (∃ r db', (markHeld m file batch).run db = (r, db') ∧ r ≠ .ok true ∧ SameLedger db db') ∨
      ∃ b db', (markHeld m file batch).run db = (.ok true, db') ∧ 1 ≤ b ∧ Fresh db file ∧
        SameLedger (db.addRow file b) db' := by
  -- The table is made sure of, the batch is chosen, and the row is added if there is none.
  have hensure := ensure_sameLedger db m.ledgerTable
  rw [markHeld, Task.run_bind, Task.run_ofAction]
  generalize (Ledger.ensure m.ledgerTable : Action Memory Unit).run db = ensured at hensure
  obtain ⟨_ | _, db₁⟩ := ensured
  · exact .inl ⟨_, _, rfl, nofun, hensure⟩
  have hbatches₁ : ∀ r ∈ db₁.ledger, 1 ≤ r.batch := by
    rw [hensure.ledger]
    exact hbatches
  dsimp only [Except.mapError]
  rw [Task.run_bind]
  rcases markBatch_cases (htable.trans hensure.ledgerTable.symm) (hensure.canned.trans hcanned)
    hbatches₁ hbatch with ⟨e, he⟩ | ⟨b, hb, hpositive⟩
  · rw [he]
    exact .inl ⟨_, _, rfl, nofun, hensure⟩
  rw [hb]
  dsimp only
  rw [Task.run_ofAction]
  rcases recordIfAbsent_cases db₁ m.ledgerTable file b with
    ⟨r, db', hrun, hr, hsame⟩ | ⟨db', hrun, hfresh, hsame⟩
  · rw [hrun]
    refine .inl ⟨_, db', rfl, fun htrue => hr ?_, hensure.trans hsame⟩
    cases r with
    | error e => cases htrue
    | ok a => exact congrArg Except.ok (Except.ok.inj htrue)
  · rw [hrun]
    refine .inr ⟨b, db', rfl, hpositive, fun r hr => ?_, ?_⟩
    · refine hfresh r ?_
      rw [hensure.ledger]
      exact hr
    · exact (entered_sameLedger hensure .up b file).trans hsame

theorem mark_eq {m : Manager} {file : String} {f : MigrationFile} {batch : Option Nat}
    (hfile : MigrationFile.ofFilename file = .ok f) (hbatch : batch ≠ some 0) :
    m.mark file batch = m.locked (markHeld m file batch) := by
  rw [Manager.mark, hfile]
  dsimp only
  rw [if_neg hbatch]
  cases batch with
  | none => simp only [markHeld, markBatch, bind_assoc, pure_bind]
  | some n => rfl

/-- To mark a file answers that it did, and adds the row, or it leaves the ledger. -/
theorem mark_cases {m : Manager} {db : Memory} (htable : m.ledgerTable = db.ledgerTable)
    (hcanned : db.canned = ∅) (hbatches : ∀ r ∈ db.ledger, 1 ≤ r.batch) (file : String)
    (batch : Option Nat) :
    (∃ r db', (m.mark file batch).run db = (r, db') ∧ r ≠ .ok true ∧ SameLedger db db') ∨
      ∃ b db', (m.mark file batch).run db = (.ok true, db') ∧ Parses file ∧ 1 ≤ b ∧ Fresh db file ∧
        SameLedger (db.addRow file b) db' := by
  cases hfile : MigrationFile.ofFilename file with
  | error f =>
    rw [Manager.mark, hfile]
    exact .inl ⟨_, db, rfl, nofun, .refl db⟩
  | ok f =>
    -- Both refusals come before the lock is asked for.
    by_cases hbatch : batch = some 0
    · rw [Manager.mark, hfile]
      dsimp only
      rw [if_pos hbatch]
      exact .inl ⟨_, db, rfl, nofun, .refl db⟩
    rw [mark_eq hfile hbatch]
    rcases locked_cases m db with ⟨e, db', hsame, -, hlock, -⟩ | ⟨held, after, hafter, hlock, -⟩
    · rw [hlock]
      exact .inl ⟨_, db', rfl, nofun, hsame⟩
    rw [hlock]
    have hheld := SameLedger.held db held
    have hend : ∀ {a x}, SameLedger a x → SameLedger a (after x) := fun h =>
      h.trans (hafter _).sameLedger
    rcases markHeld_cases { db with held := held } htable hcanned hbatches file hbatch with
      ⟨r, db', hrun, hr, hsame⟩ | ⟨b, db', hrun, hpositive, hfresh, hsame⟩
    · rw [hrun]
      exact .inl ⟨r, _, rfl, hr, hend (hheld.trans hsame)⟩
    · rw [hrun]
      refine .inr ⟨b, _, rfl, ⟨f, hfile⟩, hpositive, hfresh, hend ?_⟩
      exact (entered_sameLedger hheld .up b file).trans hsame

end SchemaMigration.Migration
