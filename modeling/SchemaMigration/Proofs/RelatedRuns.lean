import SchemaMigration.Proofs.CarriedWork

/-
  Runs that follow each other.

  What a script does to the schema does not depend on the rows of the ledger, and of the
  rows a run asks only whether a file has one. So from two databases that differ in rows
  alone the same migrations succeed and leave databases that differ in rows alone, if the
  rows are related in a way that lasts: it survives that the nameless rows are taken away,
  which a script can do, and that both get a row for the same file.

  Two such relations are used. Rows that are the same but for their batches let a run be
  continued under another batch. Rows of which those with a name are the same let a run
  from any ledger be compared with one from a ledger without nameless rows.

  Main statements: `executeEach_follows`; `rows_of_executeEach`, the rows that a run adds.
-/
namespace SchemaMigration.Migration

open Sql Database Schema Calendar
open Database.Memory

/-! ## What stays the same -/

/-- What decides which statements fail and where the ledger is. -/
structure SameConditions (a b : Memory) : Prop where
  ledgerTable : b.ledgerTable = a.ledgerTable
  canned : b.canned = a.canned
  failures : b.failures = a.failures
  heldElsewhere : b.heldElsewhere = a.heldElsewhere

namespace SameConditions
variable {a b c : Memory}

protected theorem refl (a : Memory) : SameConditions a a := ⟨rfl, rfl, rfl, rfl⟩

protected theorem trans (h : SameConditions a b) (h' : SameConditions b c) : SameConditions a c :=
  ⟨h'.1.trans h.1, h'.2.trans h.2, h'.3.trans h.3, h'.4.trans h.4⟩

theorem isBoundToFail (h : SameConditions a b) (sql : String) :
    b.isBoundToFail sql = a.isBoundToFail sql :=
  isBoundToFail_congr h.failures sql

theorem ofExecute (db : Memory) (sql : String) (params : List Value) :
    SameConditions db (db.execute sql params).2 := by
  obtain ⟨tables, catalog, ledger, nextId, ticks, saved, h⟩ := execute_frame db sql params
  rw [h]
  exact ⟨rfl, rfl, rfl, rfl⟩

theorem ofQuery (db : Memory) (sql : String) (params : List Value) :
    SameConditions db (db.query sql params).2 := by
  obtain ⟨held, h⟩ := query_frame db sql params
  rw [h]
  exact ⟨rfl, rfl, rfl, rfl⟩

theorem ofScript (db : Memory) {script : List Operation} (hscript : allGateway script = true) :
    Preserves (fun t : Transaction Memory => t.closed = false ∧ SameConditions db t.inner)
      (runAll script) := by
  refine runAll_preserves_open (fun sql a ha => ?_) (fun sql params a ha => ?_) hscript
  · rw [run_statement]
    exact ha.trans (ofExecute a sql [])
  · exact ha.trans (ofQuery a sql params)

theorem ofWriteLedger (m : Manager) (db : Memory) (direction : Direction) (file : String)
    (batch : Int) : SameConditions db ((m.writeLedger direction file batch).run db).2 := by
  rw [run_writeLedger]
  exact ofExecute db _ _

/-- A migration that is completed changes none of this. -/
theorem ofExecuteOne {m : Manager} {direction : Direction} {batch : Int} {completed : List String}
    {file : String} {scripts : Scripts} {db db' : Memory}
    (hscript : allGateway (scripts.toward direction) = true)
    (h : (m.executeOne direction batch completed file scripts).run db = (.ok (), db')) :
    SameConditions db db' := by
  obtain ⟨-, t, hattempt, -, rfl⟩ := executeOne_eq_ok_iff.1 h
  obtain ⟨outcomes, ⟨u, closed⟩, hran, hrow⟩ := attempt_eq_ok hattempt
  have hscripted := ofScript db hscript ⟨begun db, false⟩ ⟨rfl, rfl, rfl, rfl, rfl⟩
  rw [show (runAll (scripts.toward direction)).run _ = _ from hran] at hscripted
  obtain ⟨rfl, hu⟩ := hscripted
  rw [writeLedger_open] at hrow
  obtain rfl := (Prod.mk.inj hrow).2
  have hwritten := hu.trans (ofWriteLedger m u direction file batch)
  exact ⟨hwritten.1, hwritten.2, hwritten.3, hwritten.4⟩

theorem ofExecuteEach {m : Manager} {direction : Direction} {batch : Int}
    {completed names : List String} {l : List (String × Scripts)} {db db' : Memory}
    (hl : ∀ p ∈ l, allGateway (p.2.toward direction) = true)
    (h : (m.executeEach direction batch completed l).run db = (.ok names, db')) :
    SameConditions db db' := by
  induction l generalizing completed db with
  | nil =>
    obtain rfl := (Prod.mk.inj h).2
    exact .refl db
  | cons p l ih =>
    obtain ⟨file, scripts⟩ := p
    obtain ⟨hscript, hl⟩ := List.forall_mem_cons.1 hl
    rw [Manager.executeEach] at h
    obtain ⟨⟨⟩, mid, hone, hrest⟩ := Task.of_run_bind h
    exact (ofExecuteOne hscript hone).trans (ih hl hrest)

end SameConditions

/-! ## Related databases -/

/-- The rows that have a name. -/
def namedRows (rows : List LedgerRow) : List LedgerRow := rows.filter (·.migration != "")

/-- The relation of rows lasts while one run adds rows in `batch` and another in `batch'`. -/
structure Lasting (Rows : List LedgerRow → List LedgerRow → Prop) (batch batch' : Int) : Prop where
  named : ∀ {x y}, Rows x y → Rows (namedRows x) (namedRows y)
  any_eq : ∀ {x y file}, Rows x y → file ≠ "" →
    x.any (·.migration == file) = y.any (·.migration == file)
  append : ∀ {x y} id {file} time, Rows x y → file ≠ "" →
    Rows (x ++ [⟨id, file, batch, time⟩]) (y ++ [⟨id, file, batch', time⟩])

/-- The databases look alike and count alike, and their rows are related. -/
structure Related (Rows : List LedgerRow → List LedgerRow → Prop) (a b : Memory) : Prop where
  alike : Alike a b
  nextId : b.nextId = a.nextId
  ticks : b.ticks = a.ticks
  rows : Rows a.ledger b.ledger

/-- What a rollback would restore is related as well. -/
structure RelatedInside (Rows : List LedgerRow → List LedgerRow → Prop) (a b : Memory) : Prop
    extends Related Rows a b where
  saved : Option.Rel (fun p q => Rows p.1 q.1 ∧ q.2 = p.2) a.saved b.saved

section
variable {Rows : List LedgerRow → List LedgerRow → Prop} {batch batch' : Int}
  {a b : Memory}

theorem Related.noted (h : Related Rows a b) (sql : String) :
    Related Rows (a.noted sql) (b.noted sql) :=
  ⟨⟨h.alike.1, h.alike.2, h.alike.3, h.alike.4, h.alike.5⟩, h.nextId, h.ticks, h.rows⟩

theorem Related.begun (h : Related Rows a b) : RelatedInside Rows (begun a) (begun b) :=
  ⟨⟨⟨h.alike.1, h.alike.2, h.alike.3, h.alike.4, h.alike.5⟩, h.nextId, h.ticks, h.rows⟩,
    .some ⟨h.rows, h.nextId⟩⟩

/-! ## Scripts -/

theorem perform_record_nothing (db : Memory) (ifAbsent : Bool) :
    (db.perform [] (.record ifAbsent)).2 = db := by
  rw [Memory.perform, withLedger]
  split
  · rfl
  · rfl

theorem perform_remove_nameless (db : Memory) :
    (db.perform [] .remove).2 =
      if db.tables.contains db.ledgerTable then { db with ledger := namedRows db.ledger } else db := by
  rw [Memory.perform, withLedger]
  split
  · rfl
  · rfl

theorem RelatedInside.perform (hrows : Lasting Rows batch batch') (h : RelatedInside Rows a b)
    (c : Command) :
    ((a.perform [] c).1.map fun _ => ()) = ((b.perform [] c).1.map fun _ => ()) ∧
      RelatedInside Rows (a.perform [] c).2 (b.perform [] c).2 := by
  obtain ⟨hresult, halike⟩ := h.alike.perform c
  refine ⟨hresult, ?_⟩
  cases c with
  | begin => exact ⟨⟨halike, h.nextId, h.ticks, h.rows⟩, .some ⟨h.rows, h.nextId⟩⟩
  | commit => exact ⟨⟨halike, h.nextId, h.ticks, h.rows⟩, .none⟩
  | rollback =>
    have hsaved := h.saved
    rw [Memory.perform, Memory.perform] at halike ⊢
    generalize a.saved = saved, b.saved = saved' at hsaved halike ⊢
    cases hsaved with
    | none => exact h
    | some hpair => exact ⟨⟨halike, hpair.2, h.ticks, hpair.1⟩, .none⟩
  -- Without parameters nothing is added, and only nameless rows are removed.
  | record ifAbsent =>
    rw [perform_record_nothing, perform_record_nothing]
    exact h
  | remove =>
    rw [perform_remove_nameless, perform_remove_nameless] at halike ⊢
    rw [h.alike.tables, h.alike.ledgerTable] at halike ⊢
    split at halike
    · rename_i hthere
      rw [if_pos hthere, if_pos hthere]
      exact ⟨⟨halike, h.nextId, h.ticks, hrows.named h.rows⟩, h.saved⟩
    · rename_i hthere
      rw [if_neg hthere, if_neg hthere]
      exact h
  | change c =>
    obtain ⟨ha, hsaved⟩ := perform_change a [] c
    obtain ⟨hb, hsaved'⟩ := perform_change b [] c
    refine ⟨⟨halike, ?_, ?_, ?_⟩, ?_⟩
    · rw [ha.nextId, hb.nextId, h.nextId]
    · rw [ha.ticks, hb.ticks, h.ticks]
    · rw [ha.ledger, hb.ledger]
      exact h.rows
    · rw [hsaved, hsaved']
      exact .none
  | other => exact h

/-- Queries change nothing but locks. -/
theorem RelatedInside.query (h : RelatedInside Rows a b) {sql : String} {params : List Value}
    (hquery : (a.query sql params).1 = (b.query sql params).1 ∧
      Alike (a.query sql params).2 (b.query sql params).2) :
    (a.query sql params).1 = (b.query sql params).1 ∧
      RelatedInside Rows (a.query sql params).2 (b.query sql params).2 := by
  obtain ⟨held, ha⟩ := query_frame a sql params
  obtain ⟨held', hb⟩ := query_frame b sql params
  obtain ⟨hresult, halike⟩ := hquery
  rw [ha, hb] at halike ⊢
  exact ⟨hresult, ⟨halike, h.nextId, h.ticks, h.rows⟩, h.saved⟩

theorem keepsGateway_relatedInside (hrows : Lasting Rows batch batch') :
    KeepsGateway (RelatedInside Rows) where
  statement sql a b h := by
    have hnoted : RelatedInside Rows (a.noted sql) (b.noted sql) :=
      ⟨h.toRelated.noted sql, h.saved⟩
    rw [run_statement, run_statement, execute_eq, execute_eq, h.alike.isBoundToFail,
      h.alike.ledgerTable]
    split
    · exact ⟨rfl, hnoted⟩
    · exact hnoted.perform hrows _
  askTable table a b h := h.query (script_alike.askTable table a b h.alike)
  askColumn table column a b h := h.query (script_alike.askColumn table column a b h.alike)
  askTables a b h := h.query (script_alike.askTables a b h.alike)
  askColumns table a b h := h.query (script_alike.askColumns table a b h.alike)

/-! ## Migrations -/

section
variable (hrows : Lasting Rows batch batch') {m : Manager} {a' : Memory}
include hrows

/-- A row that can be added here can be added there. -/
theorem writeLedger_follows (h : Related Rows a b) (htable : m.ledgerTable = a.ledgerTable)
    (hquoted : QuotedAsIs a.ledgerTable) {file : String} (hfile : file ≠ "")
    (hrun : (m.writeLedger .up file batch).run a = (.ok (), a')) :
    ∃ b', (m.writeLedger .up file batch').run b = (.ok (), b') ∧ Related Rows a' b' := by
  have hquoted' : QuotedAsIs b.ledgerTable := by
    rw [h.alike.ledgerTable]
    exact hquoted
  rw [run_writeLedger_up htable hquoted] at hrun
  rw [run_writeLedger_up (htable.trans h.alike.ledgerTable.symm) hquoted', h.alike.isBoundToFail,
    h.alike.tables, h.alike.ledgerTable, ← hrows.any_eq h.rows hfile]
  split at hrun
  · cases hrun
  rename_i hbound
  split at hrun
  · rename_i hthere
    split at hrun
    · cases hrun
    · rename_i hrow
      obtain rfl := (Prod.mk.inj hrun).2
      refine ⟨(b.noted (recordSql a.ledgerTable)).addRow file batch', ?_, ?_⟩
      · rw [if_neg hbound, if_pos hthere, if_neg hrow]
      · refine ⟨⟨h.alike.1, h.alike.2, h.alike.3, h.alike.4, h.alike.5⟩, ?_, ?_, ?_⟩
        · exact congrArg (· + 1) h.nextId
        · exact congrArg (· + 1) h.ticks
        -- Both rows get the same number and the same time, and differ in the batch at most.
        · show Rows (a.ledger ++ [_]) (b.ledger ++ [⟨b.nextId, file, batch',
            DateTime.ofUnix (startOfTime + (b.ticks + 1))⟩])
          rw [h.nextId, h.ticks]
          exact hrows.append _ _ h.rows hfile
  · cases hrun

/-- What succeeds here inside a transaction succeeds there. -/
theorem attempt_follows (h : RelatedInside Rows a b) (htable : m.ledgerTable = a.ledgerTable)
    (hquoted : QuotedAsIs a.ledgerTable) {file : String} (hfile : file ≠ "") {scripts : Scripts}
    (hscript : allGateway (scripts.toward .up) = true) {failed : Database.Error → Error}
    (failed' : Database.Error → Error) {t : Transaction Memory}
    (hattempt : m.attempt .up file scripts batch failed (Transaction.mk a false) = (.ok (), t)) :
    ∃ b', m.attempt .up file scripts batch' failed' (Transaction.mk b false) =
        (.ok (), ⟨b', false⟩) ∧ Related Rows t.inner b' := by
  obtain ⟨outcomes, ⟨u, uclosed⟩, hran, hrow⟩ := attempt_eq_ok hattempt
  -- The scripts give the same result, and they leave the transactions open.
  have hsim := runAll_simulates (keepsGateway_relatedInside hrows).onOpen _ hscript
    ⟨a, false⟩ ⟨b, false⟩ ⟨rfl, rfl, h⟩
  have hu := (SameConditions.ofScript a hscript ⟨a, false⟩ ⟨rfl, .refl a⟩).2
  rw [hran] at hsim hu
  rcases hran' : (runAll (scripts.toward .up)).run (Transaction.mk b false) with ⟨r, v, vclosed⟩
  rw [hran'] at hsim
  obtain ⟨hresult, huclosed, hvclosed, hinside⟩ := hsim
  obtain rfl : uclosed = false := huclosed
  obtain rfl : vclosed = false := hvclosed
  obtain rfl : Except.ok outcomes = r := hresult
  rw [writeLedger_open] at hrow
  obtain ⟨hwritten, rfl⟩ := Prod.mk.inj hrow
  have hquotedu : QuotedAsIs u.ledgerTable := by
    rw [hu.ledgerTable]
    exact hquoted
  obtain ⟨b', hwrite, hrelated⟩ := writeLedger_follows hrows hinside.toRelated
    (htable.trans hu.ledgerTable.symm) hquotedu hfile (Prod.ext hwritten rfl)
  have hrow' : (m.writeLedger .up file batch').run (Transaction.mk v false) =
      (.ok (), ⟨b', false⟩) := by
    rw [writeLedger_open, hwrite]
  exact ⟨b', attempt_of_ok hran' hrow' failed', hrelated⟩

/-- A migration that is applied here is applied there. -/
theorem executeOne_follows (h : Related Rows a b) (htable : m.ledgerTable = a.ledgerTable)
    (hquoted : QuotedAsIs a.ledgerTable) {file : String} (hfile : file ≠ "") {scripts : Scripts}
    (hscript : allGateway (scripts.toward .up) = true) {completed : List String}
    (completed' : List String)
    (hrun : (m.executeOne .up batch completed file scripts).run a = (.ok (), a')) :
    ∃ b', (m.executeOne .up batch' completed' file scripts).run b = (.ok (), b') ∧
      Related Rows a' b' := by
  obtain ⟨hbegin, t, hattempt, hcommit, rfl⟩ := executeOne_eq_ok_iff.1 hrun
  obtain ⟨b', hattempt', hrelated⟩ := attempt_follows hrows h.begun htable hquoted hfile hscript
    (.executionFailed file .up completed') hattempt
  refine ⟨{ b'.noted commitSql with saved := none }, executeOne_eq_ok_iff.2
    ⟨(h.alike.isBoundToFail beginSql).trans hbegin, ⟨b', false⟩, hattempt',
      (hrelated.alike.isBoundToFail commitSql).trans hcommit, rfl⟩, ?_⟩
  have hnoted := hrelated.noted commitSql
  exact ⟨⟨hnoted.alike.1, hnoted.alike.2, hnoted.alike.3, hnoted.alike.4, hnoted.alike.5⟩,
    hnoted.nextId, hnoted.ticks, hnoted.rows⟩

/-- Migrations that are applied here are applied there, under another batch and behind
others. -/
theorem executeEach_follows (h : Related Rows a b) (htable : m.ledgerTable = a.ledgerTable)
    (hquoted : QuotedAsIs a.ledgerTable) {l : List (String × Scripts)}
    (hl : ∀ p ∈ l, p.1 ≠ "" ∧ allGateway (p.2.toward .up) = true)
    {completed names : List String} (completed' : List String)
    (hrun : (m.executeEach .up batch completed l).run a = (.ok names, a')) :
    ∃ b', (m.executeEach .up batch' completed' l).run b =
        (.ok (completed' ++ l.map Prod.fst), b') ∧ Related Rows a' b' := by
  -- With each migration the lists of completed ones grow, and the databases change.
  induction l generalizing completed completed' a b with
  | nil =>
    obtain rfl := (Prod.mk.inj hrun).2
    rw [List.map_nil, List.append_nil]
    exact ⟨b, rfl, h⟩
  | cons p l ih =>
    obtain ⟨file, scripts⟩ := p
    obtain ⟨⟨hfile, hscript⟩, hl⟩ := List.forall_mem_cons.1 hl
    rw [Manager.executeEach] at hrun
    obtain ⟨⟨⟩, a₁, hone, hrest⟩ := Task.of_run_bind hrun
    obtain ⟨b₁, hone', h₁⟩ := executeOne_follows hrows h htable hquoted hfile hscript completed' hone
    have hsame := SameConditions.ofExecuteOne hscript hone
    have hquoted₁ : QuotedAsIs a₁.ledgerTable := by
      rw [hsame.ledgerTable]
      exact hquoted
    obtain ⟨b', hrest', hb'⟩ := ih h₁ (htable.trans hsame.ledgerTable.symm) hquoted₁ hl
      (completed' ++ [file]) hrest
    refine ⟨b', ?_, hb'⟩
    rw [Manager.executeEach, Task.run_bind_ok hone', hrest', List.append_assoc]
    rfl

end

end

/-! ## Rows without their batches -/

/-- What a row says besides its batch. -/
def withoutBatch (r : LedgerRow) : Nat × String × DateTime := (r.id, r.migration, r.appliedAt)

theorem lasting_withoutBatch (batch batch' : Int) :
    Lasting (fun x y => x.map withoutBatch = y.map withoutBatch) batch batch' where
  named {x y} h := by
    have hnamed : ∀ rows, (namedRows rows).map withoutBatch =
        (rows.map withoutBatch).filter (·.2.1 != "") := fun rows => by
      rw [List.filter_map]
      rfl
    rw [hnamed, hnamed, h]
  any_eq {x y file} h _ := by
    have hany : ∀ rows : List LedgerRow, rows.any (·.migration == file) =
        (rows.map withoutBatch).any (·.2.1 == file) := fun rows => by
      rw [List.any_map]
      rfl
    rw [hany, hany, h]
  append {x y} id {file} time h _ := by
    rw [List.map_append, List.map_append, h]
    rfl

/-! ## Rows with names -/

theorem namedRows_append (x y : List LedgerRow) :
    namedRows (x ++ y) = namedRows x ++ namedRows y := List.filter_append ..

theorem namedRows_namedRows (rows : List LedgerRow) : namedRows (namedRows rows) = namedRows rows :=
  List.filter_eq_self.2 fun _ hr => (List.mem_filter.1 hr).2

theorem any_namedRows {file : String} (hfile : file ≠ "") (rows : List LedgerRow) :
    (namedRows rows).any (·.migration == file) = rows.any (·.migration == file) := by
  rw [namedRows, List.any_filter]
  congr 1
  funext r
  by_cases hr : r.migration = file
  · rw [hr, bne_iff_ne.2 hfile, Bool.true_and]
  · rw [beq_false_of_ne hr, Bool.and_false]

theorem lasting_namedRows (batch : Int) :
    Lasting (fun x y => namedRows x = namedRows y) batch batch where
  named h := by
    rw [namedRows_namedRows, namedRows_namedRows]
    exact h
  any_eq {x y _} h hfile := by
    rw [← any_namedRows hfile x, ← any_namedRows hfile y, h]
  append _ _ _ h _ := by
    rw [namedRows_append, namedRows_append, h]

theorem namedRows_newRows {batch : Int} {id ticks : Nat} {files : List String}
    (hfiles : ∀ file ∈ files, file ≠ "") :
    namedRows (newRows batch id ticks files) = newRows batch id ticks files := by
  apply List.filter_eq_self.2
  intro r hr
  refine bne_iff_ne.2 (hfiles r.migration ?_)
  rw [← migrations_newRows batch id ticks files]
  exact List.mem_map_of_mem hr

/-- Whatever its scripts do to nameless rows, a run adds its rows to those with a name, and the
ledger table is there if it added any. -/
theorem rows_of_executeEach {m : Manager} {batch : Int} {a a' : Memory}
    (htable : m.ledgerTable = a.ledgerTable) (hquoted : QuotedAsIs a.ledgerTable)
    (hcanned : a.canned = ∅) {l : List (String × Scripts)}
    (hl : ∀ p ∈ l, p.1 ≠ "" ∧ allGateway (p.2.toward .up) = true) {names : List String}
    (hrun : (m.executeEach .up batch [] l).run a = (.ok names, a')) :
    namedRows a'.ledger =
        namedRows a.ledger ++ newRows batch a.nextId a.ticks (l.map Prod.fst) ∧
      (l ≠ [] → a'.tables.contains a'.ledgerTable = true) := by
  -- The run is compared with one that starts without nameless rows.
  have hstart : Related (fun x y => namedRows x = namedRows y) a
      { a with ledger := namedRows a.ledger } :=
    ⟨⟨rfl, rfl, rfl, rfl, hcanned, hcanned⟩, rfl, rfl, (namedRows_namedRows a.ledger).symm⟩
  have hnamed : Named { a with ledger := namedRows a.ledger } := fun r hr =>
    bne_iff_ne.1 (List.mem_filter.1 hr).2
  obtain ⟨b', hrun', hend⟩ :=
    executeEach_follows (lasting_namedRows batch) hstart htable hquoted hl [] hrun
  have htable' : m.ledgerTable = ({ a with ledger := namedRows a.ledger } : Memory).ledgerTable :=
    htable
  rcases executeEach_cases batch [] htable' hquoted hnamed hl with
    ⟨_, _, _, _, _, _, _, hfails, -⟩ | ⟨b'', hok, -, hchain⟩
  · cases hfails.symm.trans hrun'
  obtain rfl := (Prod.mk.inj (hok.symm.trans hrun')).2
  refine ⟨?_, fun hne => ?_⟩
  · have hfiles : ∀ file ∈ l.map Prod.fst, file ≠ "" := by
      intro file hfile
      obtain ⟨p, hp, rfl⟩ := List.mem_map.1 hfile
      exact (hl p hp).1
    rw [hend.rows, hchain.ledger_up, namedRows_append, namedRows_namedRows,
      namedRows_newRows hfiles]
  · rw [← hend.alike.tables, ← hend.alike.ledgerTable]
    exact hchain.present hne

end SchemaMigration.Migration
