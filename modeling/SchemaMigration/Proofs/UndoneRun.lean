import SchemaMigration.Proofs.FailureAtomicity
import SchemaMigration.Proofs.LatestBatches

/-
  A run that is rolled back.

  The batch of a run is greater than every batch before it, whatever numbers files were
  marked with, so the rows of the latest batch are the rows of the run, and their numbers
  ascend in the order in which the migrations were applied. To roll back one batch
  reverts these migrations, the last first, and leaves the rows from before the run.

  If each migration takes back what it does to the schema, the schema is brought back
  too: of a chain up and a chain down the innermost two scripts cancel, then the next.

  As for work that fails, no row may have an empty name: a script can take such a row
  away, and nothing brings it back (`clearing_loses_nameless`).

  Main statements: `undone_of_rollback`; `takesBack_create`, a migration to which its last
  part applies.
-/
namespace SchemaMigration.Migration

open Sql Database Schema Calendar
open Database.Memory

/-! ## The rows of a run -/

/-- New rows are reverted against the order in which they were added. -/
theorem reversed_newRows (batch : Int) (id ticks : Nat) (files : List String) :
    Manager.reversed ((newRows batch id ticks files).map entryOf) = files.reverse := by
  have hsorted : ((newRows batch id ticks files).map entryOf).Pairwise
      fun a b => decide (a.id ≤ b.id) = true := by
    refine List.pairwise_map.2 ((pairwise_id_newRows batch id ticks files).imp fun hab => ?_)
    exact decide_eq_true (Int.ofNat_le.2 (Nat.le_of_lt hab))
  have hfiles : ((newRows batch id ticks files).map entryOf).map (·.migration) = files := by
    rw [List.map_map]
    exact migrations_newRows batch id ticks files
  rw [Manager.reversed, List.mergeSort_of_pairwise hsorted, List.map_reverse, hfiles]

/-- After a run the latest batch is that of the run. -/
theorem reversed_ofLatest_run (ledger : List LedgerRow) (id ticks : Nat) {files : List String}
    (hfiles : files ≠ []) :
    Manager.reversed (ofLatest 1 ((ledger ++
      newRows (lastBatch (ledger.map entryOf) + 1) id ticks files).map entryOf)) =
      files.reverse := by
  have hnew : (newRows (lastBatch (ledger.map entryOf) + 1) id ticks files).map entryOf ≠ [] := by
    intro hnil
    have hmigrations := migrations_newRows (lastBatch (ledger.map entryOf) + 1) id ticks files
    rw [List.map_eq_nil_iff.1 hnil] at hmigrations
    exact hfiles hmigrations.symm
  rw [List.map_append, ofLatest_one_append hnew, reversed_newRows]
  intro e he
  obtain ⟨r, hr, rfl⟩ := List.mem_map.1 he
  exact batch_of_mem_newRows hr

/-- Without the rows of the run the rows from before are left. -/
theorem filter_append_newRows {rows : List LedgerRow} {batch : Int} {id ticks : Nat}
    {files : List String} (hfresh : ∀ file ∈ files, ∀ r ∈ rows, r.migration ≠ file) :
    ((rows ++ newRows batch id ticks files).filter fun r =>
      !files.reverse.contains r.migration) = rows := by
  have hrows : (rows.filter fun r => !files.reverse.contains r.migration) = rows := by
    apply List.filter_eq_self.2
    intro r hr
    rw [Bool.not_eq_true', Bool.eq_false_iff]
    intro hfile
    exact hfresh _ (List.mem_reverse.1 (List.contains_iff_mem.1 hfile)) r hr rfl
  have hnew : ((newRows batch id ticks files).filter fun r =>
      !files.reverse.contains r.migration) = [] := by
    apply List.filter_eq_nil_iff.2
    intro r hr hgone
    have hfile : r.migration ∈ files := by
      rw [← migrations_newRows batch id ticks files]
      exact List.mem_map_of_mem hr
    rw [Bool.not_eq_true', Bool.eq_false_iff] at hgone
    exact hgone (List.contains_iff_mem.2 (List.mem_reverse.2 hfile))
  rw [List.filter_append, hrows, hnew, List.append_nil]

/-! ## The schema -/

/-- The part of a database that scripts are about. -/
abbrev TablesAndCatalog := NameMap (List (String × String)) × NameMap CatalogTable

/-- The database with other tables. -/
def withSchema (db : Memory) (schema : TablesAndCatalog) : Memory :=
  { db with tables := schema.1, catalog := schema.2 }

/-- What a script makes of tables and a catalog; nothing if it fails. Of the database
only the name of the ledger table and what is bound to fail play a part. -/
def schemaAfter (db : Memory) (script : List Operation) (schema : TablesAndCatalog) :
    Option TablesAndCatalog :=
  match (runAll script).run (Transaction.mk (withSchema db schema) false) with
  | (.ok _, t) => some (t.inner.tables, t.inner.catalog)
  | (.error _, _) => none

/-- To revert the migration brings back every schema that it can be applied to. -/
def TakesBack (db : Memory) (scripts : Scripts) : Prop :=
  ∀ before after, schemaAfter db scripts.up before = some after →
    schemaAfter db scripts.down after = some before

/-- What the scripts of several migrations make of a schema, one after the other. -/
def schemaAfterAll (db : Memory) (direction : Direction) (l : List (String × Scripts))
    (schema : TablesAndCatalog) : Option TablesAndCatalog :=
  l.foldlM (fun s p => schemaAfter db (p.2.toward direction) s) schema

/-- The same tables can be made and the same statements fail, whatever the rows and
the schema. -/
def SameSettings (db db' : Memory) : Prop :=
  db'.ledgerTable = db.ledgerTable ∧ db'.canned = db.canned ∧ db'.failures = db.failures

theorem SameSettings.trans {a b c : Memory} (h : SameSettings a b) (h' : SameSettings b c) :
    SameSettings a c :=
  ⟨h'.1.trans h.1, h'.2.1.trans h.2.1, h'.2.2.trans h.2.2⟩

theorem sameSettings_of_sameLedger {a b : Memory} (h : SameLedger a b) : SameSettings a b :=
  ⟨h.ledgerTable, h.canned, h.failures⟩

theorem schemaAfter_of_completed {direction : Direction} {batch : Int} {file : String}
    {script : List Operation} {db a b : Memory} (h : Completed direction batch file script a b)
    (hscript : allGateway script = true) (ha : SameSettings db a) (hcanned : db.canned = ∅) :
    schemaAfter db script (a.tables, a.catalog) = some (b.tables, b.catalog) := by
  obtain ⟨start, outcomes, finish, hrun, hsame, hstart, hfinish⟩ := h.schema
  obtain ⟨htable, hcanned', hfailures⟩ := ha.trans (sameSettings_of_sameLedger hsame)
  -- The script ran on other rows, in an open transaction; it sees nothing of either.
  have hset : Alike start (withSchema db (a.tables, a.catalog)) :=
    ⟨htable.symm, (congrArg Prod.fst hstart).symm, (congrArg Prod.snd hstart).symm,
      hfailures.symm, hcanned'.trans hcanned, hcanned⟩
  have hsim := runAll_simulates script_alike.onOpen script hscript ⟨start, false⟩
    ⟨withSchema db (a.tables, a.catalog), false⟩ ⟨rfl, rfl, hset⟩
  rw [hrun] at hsim
  obtain ⟨hresult, -, -, hend⟩ := hsim
  rw [schemaAfter]
  generalize (runAll script).run (Transaction.mk (withSchema db (a.tables, a.catalog)) false) =
    ran at hresult hend
  obtain ⟨r, t⟩ := ran
  obtain rfl : Except.ok outcomes = r := hresult
  show some (t.inner.tables, t.inner.catalog) = _
  rw [hend.tables, hend.catalog, ← hfinish]

theorem schemaAfterAll_of_chain {direction : Direction} {batch : Int}
    {l : List (String × Scripts)} {db a b : Memory} (h : CompletedAll direction batch l a b)
    (hl : ∀ p ∈ l, allGateway (p.2.toward direction) = true) (ha : SameSettings db a)
    (hcanned : db.canned = ∅) :
    schemaAfterAll db direction l (a.tables, a.catalog) = some (b.tables, b.catalog) := by
  induction h with
  | nil a => rfl
  | @cons file scripts rest a b c first _ ih =>
    obtain ⟨hscript, hrest⟩ := List.forall_mem_cons.1 hl
    rw [schemaAfterAll, List.foldlM_cons, schemaAfter_of_completed first hscript ha hcanned]
    exact ih hrest (ha.trans first.settings)

/-- Scripts that take back each other's work, nested: what the ups did the downs undo
in the opposite order. -/
theorem schemaAfterAll_reverse {db : Memory} {l : List (String × Scripts)}
    (hl : ∀ p ∈ l, TakesBack db p.2) {before after : TablesAndCatalog}
    (h : schemaAfterAll db .up l before = some after) :
    schemaAfterAll db .down l.reverse after = some before := by
  -- The first to be applied is the last to be taken back, so the induction is on the ups.
  induction l generalizing before with
  | nil =>
    obtain rfl : before = after := Option.some.inj h
    rfl
  | cons p l ih =>
    obtain ⟨hp, hl⟩ := List.forall_mem_cons.1 hl
    rw [schemaAfterAll, List.foldlM_cons] at h
    obtain ⟨between, hbetween, hrest⟩ := Option.bind_eq_some_iff.1 h
    have hback : List.foldlM (fun s p => schemaAfter db (p.2.toward .down) s) after l.reverse =
        some between := ih hl hrest
    rw [schemaAfterAll, List.reverse_cons, List.foldlM_append, hback]
    show (schemaAfter db p.2.down between >>= pure) = some before
    rw [bind_pure]
    exact hp before between hbetween

/-! ## A table that is made and dropped -/

theorem schemaAfter_statement (db : Memory) (sql : String) (schema : TablesAndCatalog) :
    schemaAfter db [.statement sql] schema =
      match (withSchema db schema).execute sql [] with
      | (.ok _, db') => some (db'.tables, db'.catalog)
      | (.error _, _) => none := by
  have hopen : (statement sql : Action (Transaction Memory) Unit).run
      (Transaction.mk (withSchema db schema) false) =
      (((statement sql).run (withSchema db schema)).1,
        ⟨((statement sql).run (withSchema db schema)).2, false⟩) := by
    rw [statement_eq_whileOpen]
    rfl
  rw [run_statement] at hopen
  rw [schemaAfter, runAll, runAll, Operation.run, done, Action.run_bind, Action.run_bind, hopen]
  rcases (withSchema db schema).execute sql [] with ⟨_ | _, _⟩
  · rfl
  · rfl

theorem execute_change (db : Memory) {sql : String} {c : SchemaChange}
    (hread : Command.read db.ledgerTable sql = .change (.ok c)) :
    db.execute sql [] = if db.isBoundToFail sql then (.error (injected sql), db.noted sql)
      else ((({ db.noted sql with saved := none } : Memory).changeSchema c).1.map fun _ => 0,
        (({ db.noted sql with saved := none } : Memory).changeSchema c).2) := by
  rw [execute_eq, hread]
  rfl

theorem schemaAfter_create {db : Memory} {sql : String} {table : List Char}
    {columns : List (List Char × List Char)}
    (hread : Command.read db.ledgerTable sql = .change (.ok (.create false table columns)))
    {before after : TablesAndCatalog}
    (h : schemaAfter db [.statement sql] before = some after) :
    before.1.get? (String.ofList table) = none ∧ before.2.get? (String.ofList table) = none ∧
      ∃ columns, after = (before.1.insert (String.ofList table) columns, before.2) := by
  rw [schemaAfter_statement, execute_change (withSchema db before) hread] at h
  split at h
  · rename_i hok
    split at hok
    · cases hok
    · rw [changeSchema] at hok
      split at hok
      · cases hok
      · rename_i hnew
        cases hok
        cases h
        rw [Memory.hasTable, NameMap.contains, NameMap.contains, Bool.or_eq_true, not_or,
          Option.not_isSome_iff_eq_none, Option.not_isSome_iff_eq_none] at hnew
        exact ⟨hnew.1, hnew.2, _, rfl⟩
  · cases h

theorem schemaAfter_drop {db : Memory} {sql : String} {table : List Char}
    (hread : Command.read db.ledgerTable sql = .change (.ok (.drop false table)))
    (hfails : db.isBoundToFail sql = false) (before : TablesAndCatalog)
    (hthere : before.1.contains (String.ofList table) = true) :
    schemaAfter db [.statement sql] before =
      some (before.1.erase (String.ofList table), before.2.erase (String.ofList table)) := by
  have hruns : ¬(withSchema db before).isBoundToFail sql = true := Bool.eq_false_iff.1 hfails
  have hknown : ¬(!(before.1.contains (String.ofList table) ||
      before.2.contains (String.ofList table)) && !false) = true := by
    rw [hthere]
    exact Bool.false_ne_true
  have hdropped : (withSchema db before).execute sql [] = (.ok 0, { db.noted sql with
        tables := before.1.erase (String.ofList table)
        catalog := before.2.erase (String.ofList table), saved := none }) := by
    rw [execute_change (withSchema db before) hread, if_neg hruns, changeSchema]
    exact congrArg (fun r : Except Database.Error Unit × Memory => (r.1.map fun _ => 0, r.2))
      (if_neg hknown)
  rw [schemaAfter_statement, hdropped]

/-- A table that was not there is gone once it was made and dropped. -/
theorem takesBack_create {db : Memory} {create drop : String} {table : List Char}
    {columns : List (List Char × List Char)}
    (hcreate : Command.read db.ledgerTable create = .change (.ok (.create false table columns)))
    (hdrop : Command.read db.ledgerTable drop = .change (.ok (.drop false table)))
    (hfails : db.isBoundToFail drop = false) :
    TakesBack db ⟨[.statement create], [.statement drop]⟩ := by
  intro before after h
  obtain ⟨htables, hcatalog, made, rfl⟩ := schemaAfter_create hcreate h
  have hthere : (before.1.insert (String.ofList table) made).contains (String.ofList table) =
      true := by
    rw [NameMap.contains, NameMap.get?_insert, if_pos rfl, Option.isSome_some]
  have hback := schemaAfter_drop hdrop hfails
    (before.1.insert (String.ofList table) made, before.2) hthere
  rw [NameMap.erase_insert htables, NameMap.erase_eq_self hcatalog] at hback
  exact hback

/-! ## Running and rolling back -/

/-- The schema once the ledger table is there. -/
def ensuredSchema (m : Manager) (db : Memory) : TablesAndCatalog :=
  let ensured := ((Ledger.ensure m.ledgerTable : Action Memory Unit).run db).2
  (ensured.tables, ensured.catalog)

theorem ensuredSchema_held (m : Manager) {db : Memory} (hcanned : db.canned = ∅)
    (held : List String) : ensuredSchema m { db with held := held } = ensuredSchema m db := by
  have hset : Alike db { db with held := held } := ⟨rfl, rfl, rfl, rfl, hcanned, hcanned⟩
  obtain ⟨-, hend⟩ := script_alike.statement (createLedgerSql m.ledgerTable) db _ hset
  exact Prod.ext hend.tables hend.catalog

/-- A run has applied some migrations as the next batch. -/
structure Ran (m : Manager) (l : List (String × Scripts)) (db db' : Memory) : Prop where
  resolved : m.resolve (l.map Prod.fst) = .ok l
  fresh : ∀ file ∈ l.map Prod.fst, Fresh db file
  settings : SameSettings db db'
  ledger : db'.ledger = db.ledger ++
    newRows (lastBatch (db.ledger.map entryOf) + 1) db.nextId db.ticks (l.map Prod.fst)
  named : Named db'
  present : l ≠ [] → db'.hasTable db'.ledgerTable = true
  schema : schemaAfterAll db .up l (ensuredSchema m db) = some (db'.tables, db'.catalog)

/-- A rollback has reverted some migrations; `origin` is any database in which the same
statements fail. -/
structure RolledBack (m : Manager) (l : List (String × Scripts)) (origin db db' : Memory) : Prop where
  resolved : m.resolve (l.map Prod.fst) = .ok l
  ledger : db'.ledger = db.ledger.filter fun r => !(l.map Prod.fst).contains r.migration
  schema : schemaAfterAll origin .down l (db.tables, db.catalog) = some (db'.tables, db'.catalog)

section
variable {m : Manager} (hm : OfGateway m) {db db' : Memory}
  (htable : m.ledgerTable = db.ledgerTable) (hcanned : db.canned = ∅) (hnamed : Named db)
include hm htable hcanned hnamed

theorem ran_of_ok {limit : Option Nat} {names : List String}
    (h : (m.run limit).run db = (.ok names, db')) (hnames : names ≠ []) :
    ∃ l, l.map Prod.fst = names ∧ Ran m l db db' := by
  rw [run_eq] at h
  by_cases hlimit : limit = some 0
  · rw [if_pos hlimit] at h
    cases h
    exact absurd rfl hnames
  rw [if_neg hlimit] at h
  obtain ⟨held, batch, start, l, mid, hchoice, hstart, hresolved, hchain, hlocks⟩ :=
    locked_finished hm htable hnamed (Work.chosen hm db htable hcanned hnamed (.run limit)) h
  have htable' : m.ledgerTable = ({ db with held := held } : Memory).ledgerTable := htable
  rcases runChoice_cases hm htable' hcanned limit with
    ⟨e, db₁, he, -⟩ | ⟨files, hpending, hok, -⟩
  · cases he.symm.trans hchoice
  obtain ⟨hanswer, hensure⟩ := Prod.mk.inj (hok.symm.trans hchoice)
  obtain ⟨rfl, rfl⟩ := Prod.mk.inj (Except.ok.inj hanswer)
  obtain ⟨hfst, hget⟩ := resolve_eq_ok hresolved
  -- The run started from the schema with a ledger table in it, whether it was there or not.
  have hensured : (start.tables, start.catalog) = ensuredSchema m db := by
    rw [← hensure]
    exact ensuredSchema_held m hcanned held
  have hnamed' : Named start := Named.of_sameLedger hnamed hstart
  have hfile : ∀ p ∈ l, p.1 ≠ "" := by
    intro p hp
    refine (hm.parses_of_pending hpending ?_).ne_empty
    rw [← hfst]
    exact List.mem_map_of_mem hp
  have hmid := hlocks.sameLedger
  refine ⟨l, hfst, resolve_of_get? hget, fun file hf r hr => ?_, ?_, ?_, ?_, fun hl => ?_, ?_⟩
  · refine hchain.fresh.1 file hf r ?_
    rw [hstart.ledger]
    exact hr
  · exact ((sameSettings_of_sameLedger hstart).trans hchain.settings).trans
      (sameSettings_of_sameLedger hmid)
  · rw [hmid.ledger, hchain.ledger_up, hstart.ledger, hstart.nextId, hstart.ticks]
  · exact (hchain.named hnamed' hfile).of_sameLedger hmid
  · rw [Memory.hasTable, hmid.ledgerTable, (Prod.mk.inj hlocks.schema).1, hchain.present hl,
      Bool.true_or]
  · rw [hlocks.schema, ← hensured]
    exact schemaAfterAll_of_chain hchain (hm.registry.of_resolve hresolved .up)
      (sameSettings_of_sameLedger hstart) hcanned

/-- To roll back one batch, with a ledger table in place, reverts all of it. -/
theorem rolledBack_of_ok {origin : Memory} (horigin : SameSettings origin db)
    (hthere : db.hasTable db.ledgerTable = true) {reverted : List String}
    (h : (m.rollback 1).run db = (.ok reverted, db')) :
    reverted = Manager.reversed (ofLatest 1 (db.ledger.map entryOf)) ∧
      ∃ l, l.map Prod.fst = reverted ∧ RolledBack m l origin db db' := by
  rw [rollback_eq, if_neg Nat.one_ne_zero] at h
  obtain ⟨held, batch, start, l, mid, hchoice, -, hresolved, hchain, hlocks⟩ :=
    locked_finished hm htable hnamed (Work.chosen hm db htable hcanned hnamed (.rollback 1)) h
  have htable' : m.ledgerTable = ({ db with held := held } : Memory).ledgerTable := htable
  rcases revertChoice_cases htable' hcanned (ofLatest 1) with
    ⟨e, he⟩ | ⟨-, habsent⟩ | ⟨hok, -⟩
  · cases he.symm.trans hchoice
  · cases habsent.symm.trans hthere
  cases hok.symm.trans hchoice
  obtain ⟨hfst, hget⟩ := resolve_eq_ok hresolved
  refine ⟨rfl, l, hfst, resolve_of_get? hget, ?_, ?_⟩
  · rw [hlocks.sameLedger.ledger, hchain.ledger_down]
  · rw [hlocks.schema]
    exact schemaAfterAll_of_chain (a := { db with held := held }) hchain
      (hm.registry.of_resolve hresolved .down) horigin (horigin.2.1.symm.trans hcanned)

end

/-- The database is as it was before a run of some files. -/
structure Undone (m : Manager) (names reverted : List String) (db db' : Memory) : Prop where
  /-- What was applied last was reverted first. -/
  reverted : reverted = names.reverse
  /-- Numbers, names, batches and times of the rows are those from before. -/
  ledger : db'.ledger = db.ledger
  /-- If each migration takes back what it did, the schema is what it was once the run had
  made sure of its ledger table. -/
  schema : (∀ file ∈ names, ∀ scripts, m.registry.get? file = some scripts → TakesBack db scripts) →
    (db'.tables, db'.catalog) = ensuredSchema m db

/-- To roll back one batch right after a run undoes the run. -/
theorem undone_of_rollback {m : Manager} (hm : OfGateway m) {db db₁ db₂ : Memory}
    (htable : m.ledgerTable = db.ledgerTable) (hcanned : db.canned = ∅)
    (hnamed : ∀ r ∈ db.ledger, r.migration ≠ "") {limit : Option Nat} {names reverted : List String}
    (hrun : (m.run limit).run db = (.ok names, db₁)) (hnames : names ≠ [])
    (hback : (m.rollback 1).run db₁ = (.ok reverted, db₂)) : Undone m names reverted db db₂ := by
  obtain ⟨l, rfl, hran⟩ := ran_of_ok hm htable hcanned hnamed hrun hnames
  have hl : l ≠ [] := fun hnil => hnames (List.map_eq_nil_iff.2 hnil)
  obtain ⟨hreverted, l', hfst, hrolled⟩ :=
    rolledBack_of_ok hm (htable.trans hran.settings.1.symm) (hran.settings.2.1.trans hcanned)
      hran.named hran.settings (hran.present hl) hback
  have hreverse : reverted = (l.map Prod.fst).reverse := by
    rw [hreverted, hran.ledger]
    exact reversed_ofLatest_run db.ledger db.nextId db.ticks hnames
  -- A name has one migration in the registry: those reverted are those applied.
  have hget := (resolve_eq_ok hran.resolved).2
  obtain rfl : l' = l.reverse := by
    have hresolved := resolve_of_get? fun p hp => hget p (List.mem_reverse.1 hp)
    rw [List.map_reverse, ← hreverse, ← hfst] at hresolved
    exact Except.ok.inj (hrolled.resolved.symm.trans hresolved)
  refine ⟨hreverse, ?_, fun hback => ?_⟩
  · -- the rows of the run are gone, and no file of the run had one before
    rw [hrolled.ledger, hran.ledger, List.map_reverse]
    exact filter_append_newRows hran.fresh
  · have htakesBack : ∀ p ∈ l, TakesBack db p.2 := fun p hp =>
      hback p.1 (List.mem_map_of_mem hp) p.2 (hget p hp)
    have hschema := schemaAfterAll_reverse htakesBack hran.schema
    exact Option.some.inj (hrolled.schema.symm.trans hschema)

/-- A manager of one migration, which makes a table. -/
def tabling : Manager :=
  { Manager.ofRegistry (registryOf [("20240101000000_a.rs",
      ⟨[.statement "CREATE TABLE `a` (`id` int)"], [.statement "DROP TABLE `a`"]⟩)]) with
    ledgerTable := "t" }

theorem undone_tabling : ∃ db₁ db₂,
    (tabling.run none).run (Memory.empty "t") = (.ok ["20240101000000_a.rs"], db₁) ∧
    (tabling.rollback 1).run db₁ = (.ok ["20240101000000_a.rs"], db₂) ∧
    Undone tabling ["20240101000000_a.rs"] ["20240101000000_a.rs"] (Memory.empty "t") db₂ ∧
    (db₂.tables, db₂.catalog) = ensuredSchema tabling (Memory.empty "t") := by
  have hm : OfGateway tabling := ⟨gatewayRegistry_registryOf (by decide), .inl rfl⟩
  have hruns : ((tabling.run none).run (Memory.empty "t")).1.toOption =
        some ["20240101000000_a.rs"] ∧
      ((tabling.rollback 1).run ((tabling.run none).run (Memory.empty "t")).2).1.toOption =
        some ["20240101000000_a.rs"] := by decide +kernel
  obtain ⟨hrun, hback⟩ := hruns
  have hget : tabling.registry.get? "20240101000000_a.rs" =
      some ⟨[.statement "CREATE TABLE `a` (`id` int)"], [.statement "DROP TABLE `a`"]⟩ := by
    rfl
  have hran := eq_ok_of_toOption hrun
  have hrolled := eq_ok_of_toOption hback
  have hundone := undone_of_rollback hm rfl rfl (fun r hr => absurd hr List.not_mem_nil) hran
    (List.cons_ne_nil _ _) hrolled
  refine ⟨_, _, hran, hrolled, hundone, hundone.schema fun file hfile scripts hscripts => ?_⟩
  obtain rfl := List.mem_singleton.1 hfile
  obtain rfl := Option.some.inj (hscripts.symm.trans hget)
  exact takesBack_create rfl rfl rfl

/-! ## A row without a name -/

/-- A script that deletes from the ledger without parameters. -/
def clearing : Manager :=
  { Manager.ofRegistry (registryOf [("20240101000000_a.rs", ⟨[.statement "DELETE FROM `t`"], []⟩)])
    with ledgerTable := "t" }

/-- The run and the rollback succeed, and the row is gone. -/
theorem clearing_loses_nameless :
    OfGateway clearing ∧ clearing.ledgerTable = nameless.ledgerTable ∧ nameless.canned = ∅ ∧
      (nameless.ledger.map (·.migration)).Nodup ∧ (nameless.ledger.map (·.id)).Nodup ∧
      (∀ r ∈ nameless.ledger, r.batch < 4611686018427387904) ∧
      ∃ names reverted db₁ db₂, (clearing.run none).run nameless = (.ok names, db₁) ∧ names ≠ [] ∧
        (clearing.rollback 1).run db₁ = (.ok reverted, db₂) ∧
        ¬Undone clearing names reverted nameless db₂ := by
  refine ⟨⟨gatewayRegistry_registryOf (by decide), .inl rfl⟩, rfl, rfl, by decide, by decide,
    by decide, ?_⟩
  have hruns : ((clearing.run none).run nameless).1.toOption = some ["20240101000000_a.rs"] ∧
      ((clearing.rollback 1).run ((clearing.run none).run nameless).2).1.toOption =
        some ["20240101000000_a.rs"] ∧
      ((clearing.rollback 1).run ((clearing.run none).run nameless).2).2.ledger = [] := by
    decide +kernel
  obtain ⟨hrun, hback, hgone⟩ := hruns
  refine ⟨_, _, _, _, eq_ok_of_toOption hrun, List.cons_ne_nil _ _, eq_ok_of_toOption hback,
    fun h => ?_⟩
  exact List.cons_ne_nil _ _ (h.ledger.symm.trans hgone)

end SchemaMigration.Migration
