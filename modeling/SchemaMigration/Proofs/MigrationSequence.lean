import SchemaMigration.Proofs.MigrationStep

/-
  Migrations one after the other.

  The first migration that fails ends a sequence, so a sequence is a chain of completed
  migrations that either covers the whole list or stops in front of the one that
  failed. What a chain does to the ledger follows from what one migration does: applied
  files append their rows, reverted files take theirs away.

  Main statements: `executeEach_cases`, `CompletedAll.ledger_up` and
  `CompletedAll.ledger_down`.
-/
namespace SchemaMigration.Migration

open Sql Database Schema Calendar
open Database.Memory

section
variable {σ : Type} [Connection σ]

/-- The files of which the migrations are completed, until the first fails. -/
def completions (m : Manager) (direction : Direction) (batch : Int) :
    List String → List (String × Scripts) → σ → List String
  | _, [], _ => []
  | completed, (file, scripts) :: rest, s =>
    match (m.executeOne direction batch completed file scripts).run s with
    | (.ok _, s') => file :: completions m direction batch (completed ++ [file]) rest s'
    | (.error _, _) => []

variable (m : Manager) (direction : Direction) (batch : Int)

theorem executeEach_ok {completed : List String} {file : String} {scripts : Scripts}
    (rest : List (String × Scripts)) {s s' : σ}
    (h : (m.executeOne direction batch completed file scripts).run s = (.ok (), s')) :
    (m.executeEach direction batch completed ((file, scripts) :: rest)).run s =
        (m.executeEach direction batch (completed ++ [file]) rest).run s' ∧
      completions m direction batch completed ((file, scripts) :: rest) s =
        file :: completions m direction batch (completed ++ [file]) rest s' := by
  rw [Manager.executeEach, Task.run_bind_ok h, completions, h]
  exact ⟨rfl, rfl⟩

theorem executeEach_error {completed : List String} {file : String} {scripts : Scripts}
    (rest : List (String × Scripts)) {s s' : σ} {e : Error}
    (h : (m.executeOne direction batch completed file scripts).run s = (.error e, s')) :
    (m.executeEach direction batch completed ((file, scripts) :: rest)).run s = (.error e, s') ∧
      completions m direction batch completed ((file, scripts) :: rest) s = [] := by
  rw [Manager.executeEach, Task.run_bind_error h, completions, h]
  exact ⟨rfl, rfl⟩

/-- A sequence that succeeds answers with all of its files. -/
theorem names_of_executeEach {completed names : List String} {l : List (String × Scripts)}
    {s s' : σ} (h : (m.executeEach direction batch completed l).run s = (.ok names, s')) :
    names = completed ++ l.map Prod.fst := by
  induction l generalizing completed s with
  | nil =>
    obtain rfl := Except.ok.inj (Prod.mk.inj h).1
    exact (List.append_nil _).symm
  | cons p l ih =>
    obtain ⟨file, scripts⟩ := p
    rw [Manager.executeEach] at h
    obtain ⟨⟨⟩, mid, -, hrest⟩ := Task.of_run_bind h
    rw [ih hrest, List.append_assoc]
    rfl

end

/-! ## Chains of completed migrations -/

/-- From one database to another, all migrations of a list are completed in order. -/
inductive CompletedAll (direction : Direction) (batch : Int) :
    List (String × Scripts) → Memory → Memory → Prop
  | nil (db : Memory) : CompletedAll direction batch [] db db
  | cons {file : String} {scripts : Scripts} {rest : List (String × Scripts)} {a b c : Memory}
      (first : Completed direction batch file (scripts.toward direction) a b)
      (others : CompletedAll direction batch rest b c) :
      CompletedAll direction batch ((file, scripts) :: rest) a c

section
variable {direction : Direction} {batch : Int} {a b : Memory}

theorem Completed.settings {file : String} {script : List Operation}
    (h : Completed direction batch file script a b) :
    b.ledgerTable = a.ledgerTable ∧ b.canned = a.canned ∧ b.failures = a.failures := by
  obtain ⟨htable, hcanned, hfailures⟩ := entered_settings direction batch a file
  exact ⟨h.ledger.ledgerTable.trans htable, h.ledger.canned.trans hcanned,
    h.ledger.failures.trans hfailures⟩

theorem Completed.named {file : String} {script : List Operation}
    (h : Completed direction batch file script a b) (hnamed : Named a) (hfile : file ≠ "") :
    Named b := by
  intro r hr
  rw [h.ledger.ledger] at hr
  cases direction with
  | up =>
    rcases List.mem_append.1 hr with hr | hr
    · exact hnamed r hr
    · obtain rfl := List.mem_singleton.1 hr
      exact hfile
  | down => exact hnamed r (List.mem_filter.1 hr).1

theorem CompletedAll.settings {l : List (String × Scripts)}
    (h : CompletedAll direction batch l a b) :
    b.ledgerTable = a.ledgerTable ∧ b.canned = a.canned ∧ b.failures = a.failures := by
  induction h with
  | nil db => exact ⟨rfl, rfl, rfl⟩
  | cons first _ ih =>
    obtain ⟨htable, hcanned, hfailures⟩ := first.settings
    exact ⟨ih.1.trans htable, ih.2.1.trans hcanned, ih.2.2.trans hfailures⟩

theorem CompletedAll.named {l : List (String × Scripts)} (h : CompletedAll direction batch l a b)
    (hnamed : Named a) (hl : ∀ p ∈ l, p.1 ≠ "") : Named b := by
  induction h with
  | nil db => exact hnamed
  | cons first _ ih =>
    obtain ⟨hfile, hl⟩ := List.forall_mem_cons.1 hl
    exact ih (first.named hnamed hfile) hl

/-- A chain in which something is completed leaves the ledger table in place. -/
theorem CompletedAll.present {l : List (String × Scripts)} (h : CompletedAll direction batch l a b)
    (hl : l ≠ []) : b.tables.contains b.ledgerTable = true := by
  induction h with
  | nil db => exact absurd rfl hl
  | @cons file scripts rest a b c first others ih =>
    cases others with
    | nil => exact first.present
    | cons _ _ => exact ih (List.cons_ne_nil _ _)

end

/-- A sequence stops at a migration that fails, or all of it is completed. -/
theorem executeEach_cases {m : Manager} {direction : Direction} (batch : Int)
    {l : List (String × Scripts)} (completed : List String) {db : Memory}
    (htable : m.ledgerTable = db.ledgerTable) (hquoted : QuotedAsIs db.ledgerTable)
    (hnamed : Named db)
    (hl : ∀ p ∈ l, p.1 ≠ "" ∧ allGateway (p.2.toward direction) = true) :
    (∃ done next rest mid e db', l = done ++ next :: rest ∧
        (m.executeEach direction batch completed l).run db = (.error e, db') ∧
        (m.executeEach direction batch completed (done ++ [next])).run db = (.error e, db') ∧
        completions m direction batch completed l db = done.map Prod.fst ∧
        CompletedAll direction batch done db mid ∧
        (db.isBoundToFail commitSql = false → SameLedger mid db' ∧
          ((∃ cause, e = .executionFailed next.1 direction (completed ++ done.map Prod.fst) cause) ∨
            direction = .up ∧ e = .alreadyApplied next.1))) ∨
      ∃ db', (m.executeEach direction batch completed l).run db =
          (.ok (completed ++ l.map Prod.fst), db') ∧
        completions m direction batch completed l db = l.map Prod.fst ∧
        CompletedAll direction batch l db db' := by
  -- What is completed so far is a part of the message, so it varies with the database.
  induction l generalizing completed db with
  | nil =>
    refine .inr ⟨db, ?_, rfl, .nil db⟩
    rw [List.map_nil, List.append_nil]
    rfl
  | cons p l ih =>
    obtain ⟨file, scripts⟩ := p
    obtain ⟨⟨hfile, hscript⟩, hl⟩ := List.forall_mem_cons.1 hl
    rcases executeOne_cases htable hquoted hnamed hscript batch completed file with
      ⟨e, db', hone, he⟩ | ⟨db₁, hone, hcompleted⟩
    · -- the first migration fails
      obtain ⟨hrun, hnone⟩ := executeEach_error m direction batch l hone
      obtain ⟨hrun', -⟩ := executeEach_error m direction batch [] hone
      refine .inl ⟨[], (file, scripts), l, db, e, db', rfl, hrun, hrun', hnone, .nil db, ?_⟩
      rw [List.map_nil, List.append_nil]
      exact he
    · -- the first migration is completed
      obtain ⟨hrun, hsome⟩ := executeEach_ok m direction batch l hone
      obtain ⟨htable₁, -, hfailures₁⟩ := hcompleted.settings
      have hquoted₁ : QuotedAsIs db₁.ledgerTable := by
        rw [htable₁]
        exact hquoted
      have hbound₁ : db₁.isBoundToFail commitSql = db.isBoundToFail commitSql :=
        isBoundToFail_congr hfailures₁ commitSql
      rcases ih (completed ++ [file]) (htable.trans htable₁.symm) hquoted₁
        (hcompleted.named hnamed hfile) hl with
        ⟨done, next, rest, mid, e, db', rfl, hrest, hshort, hdone, hchain, he⟩ |
          ⟨db', hrest, hdone, hchain⟩
      · obtain ⟨hrun', -⟩ := executeEach_ok m direction batch (done ++ [next]) hone
        refine .inl ⟨(file, scripts) :: done, next, rest, mid, e, db', rfl, hrun.trans hrest,
          hrun'.trans hshort, ?_, .cons hcompleted hchain, ?_⟩
        · rw [hsome, hdone, List.map_cons]
        · rw [hbound₁, List.append_assoc] at he
          exact he
      · refine .inr ⟨db', ?_, ?_, .cons hcompleted hchain⟩
        · rw [hrun, hrest, List.append_assoc]
          rfl
        · rw [hsome, hdone, List.map_cons]

/-! ## The ledger after a chain -/

/-- The rows that a batch adds, numbered and dated from the counters on. -/
def newRows (batch : Int) : Nat → Nat → List String → List LedgerRow
  | _, _, [] => []
  | id, ticks, file :: files =>
    ⟨id, file, batch, DateTime.ofUnix (startOfTime + (ticks + 1))⟩ ::
      newRows batch (id + 1) (ticks + 1) files

theorem migrations_newRows (batch : Int) (id ticks : Nat) (files : List String) :
    (newRows batch id ticks files).map (·.migration) = files := by
  induction files generalizing id ticks with
  | nil => rfl
  | cons file files ih => rw [newRows, List.map_cons, ih]

theorem batch_of_mem_newRows {batch : Int} {id ticks : Nat} {files : List String} {r : LedgerRow}
    (h : r ∈ newRows batch id ticks files) : r.batch = batch := by
  induction files generalizing id ticks with
  | nil => exact absurd h List.not_mem_nil
  | cons file files ih =>
    rw [newRows] at h
    rcases List.mem_cons.1 h with rfl | h
    · rfl
    · exact ih h

theorem le_id_of_mem_newRows {batch : Int} {id ticks : Nat} {files : List String} {r : LedgerRow}
    (h : r ∈ newRows batch id ticks files) : id ≤ r.id := by
  induction files generalizing id ticks with
  | nil => exact absurd h List.not_mem_nil
  | cons file files ih =>
    rw [newRows] at h
    rcases List.mem_cons.1 h with rfl | h
    · exact Nat.le_refl _
    · have := ih h
      omega

theorem pairwise_id_newRows (batch : Int) (id ticks : Nat) (files : List String) :
    (newRows batch id ticks files).Pairwise fun a b => a.id < b.id := by
  induction files generalizing id ticks with
  | nil => exact List.Pairwise.nil
  | cons file files ih =>
    rw [newRows]
    refine List.pairwise_cons.2 ⟨fun r hr => ?_, ih (id + 1) (ticks + 1)⟩
    exact le_id_of_mem_newRows hr

theorem CompletedAll.ledger_up {batch : Int} {l : List (String × Scripts)} {a b : Memory}
    (h : CompletedAll .up batch l a b) :
    b.ledger = a.ledger ++ newRows batch a.nextId a.ticks (l.map Prod.fst) := by
  induction h with
  | nil db => exact (List.append_nil _).symm
  | cons first _ ih =>
    rw [ih, first.ledger.ledger, first.ledger.nextId, first.ledger.ticks]
    exact List.append_assoc _ [_] _

/-- Applied files had no rows, and no file is applied twice. -/
theorem CompletedAll.fresh {batch : Int} {l : List (String × Scripts)} {a b : Memory}
    (h : CompletedAll .up batch l a b) :
    (∀ file ∈ l.map Prod.fst, Fresh a file) ∧ (l.map Prod.fst).Nodup := by
  induction h with
  | nil db => exact ⟨fun _ hfile => absurd hfile List.not_mem_nil, List.nodup_nil⟩
  | @cons file scripts rest a b c first _ ih =>
    have hledger : b.ledger = a.ledger ++
        [⟨a.nextId, file, batch, DateTime.ofUnix (startOfTime + (a.ticks + 1))⟩] :=
      first.ledger.ledger
    obtain ⟨hfresh, hnodup⟩ := ih
    refine ⟨fun f hf => ?_, List.nodup_cons.2 ⟨fun hmem => ?_, hnodup⟩⟩
    · rcases List.mem_cons.1 hf with rfl | hf
      · exact first.fresh rfl
      · intro r hr
        refine hfresh f hf r ?_
        rw [hledger]
        exact List.mem_append_left _ hr
    -- Applied again in the rest, the file would find its own row.
    · have hrow := List.mem_append_right a.ledger (List.mem_singleton_self
        (⟨a.nextId, file, batch, DateTime.ofUnix (startOfTime + (a.ticks + 1))⟩ : LedgerRow))
      rw [← hledger] at hrow
      exact hfresh file hmem _ hrow rfl

theorem CompletedAll.ledger_down {batch : Int} {l : List (String × Scripts)} {a b : Memory}
    (h : CompletedAll .down batch l a b) :
    b.ledger = a.ledger.filter fun r => !(l.map Prod.fst).contains r.migration := by
  induction h with
  | nil db => exact (List.filter_eq_self.2 fun _ _ => rfl).symm
  | @cons file scripts rest a b c first _ ih =>
    have hledger : b.ledger = a.ledger.filter (·.migration != file) := first.ledger.ledger
    rw [ih, hledger, List.filter_filter]
    congr 1
    funext r
    rw [List.map_cons, List.contains_cons, Bool.not_or, Bool.and_comm]
    rfl

end SchemaMigration.Migration
