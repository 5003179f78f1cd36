import Mathlib
import SchemaMigration.CommandLine.Execution
import SchemaMigration.Proofs.ListedArtifacts
import SchemaMigration.Proofs.SuccessfulMarks

/-
  Artifacts that are marked as they are generated.

  The command to generate for all tables and to mark what was generated marks the first
  artifact in a new batch, asks the status for the number of that batch, and marks the other
  artifacts in it. So three things have to line up: the directory lists what was written,
  the status reports the row that was added last, and the number of the batch fits into
  32 bits.

  The first does not hold of the empty path. Then the status knows of no batch, and each
  artifact is marked in a new one.

  Main statements: `markEach_given`, marking in a batch, by induction on the files;
  `markEach_new`, marking in a new one; `markEach_apart`, marking what is not listed;
  `generateAll_marks`.
-/
namespace SchemaMigration.CommandLine

open Text Sql Table Catalog Database Schema Migration Generation Calendar Config
open Database.Memory Generation.Generator

/-! ## Commands in turn -/

/-- The console with another connection. -/
def Console.connected {σ : Type} (c : Console σ) (connection : σ) : Console σ :=
  { c with workspace := { c.workspace with connection } }

section
variable {σ α β : Type}

theorem run_bind_ok {x : Run σ α} {f : α → Run σ β} {c c' : Console σ} {a : α}
    (h : x.run c = (.ok a, c')) : (x >>= f).run c = (f a).run c' := by
  show ExceptT.bindCont f (x.run c).1 (x.run c).2 = _
  rw [h]
  rfl

theorem run_bind_error {x : Run σ α} {f : α → Run σ β} {c c' : Console σ} {e : Failure}
    (h : x.run c = (.error e, c')) : (x >>= f).run c = (.error e, c') := by
  show ExceptT.bindCont f (x.run c).1 (x.run c).2 = _
  rw [h]
  rfl

theorem run_inWorkspace {act : Work σ α} {c : Console σ} {w : Workspace σ}
    {r : Except Migration.Error α} (h : act.run c.workspace = (r, w)) :
    (inWorkspace act).run c = (r.mapError .migration, { c with workspace := w }) := by
  show ((act.run c.workspace).1.mapError Failure.migration,
    { c with workspace := (act.run c.workspace).2 }) = _
  rw [h]

theorem run_doing {act : Task σ α} {c : Console σ} {s : σ} {r : Except Migration.Error α}
    (h : act.run c.workspace.connection = (r, s)) :
    (doing act).run c = (r.mapError .migration, c.connected s) := by
  refine run_inWorkspace ?_
  rw [run_onConnection, h]

/-- Telling of artifacts prints lines only. -/
theorem run_reportCreated (files : List MigrationFile) (c : Console σ) :
    ∃ lines, (files.forM reportCreated : Run σ Unit).run c = (.ok (), { c with lines }) := by
  induction files generalizing c with
  | nil => exact ⟨c.lines, rfl⟩
  | cons f files ih =>
    obtain ⟨lines, hrest⟩ := ih { c with lines := c.lines ++ ["Created " ++ f.path.getD f.filename] }
    refine ⟨lines, ?_⟩
    show (reportCreated f >>= fun _ => files.forM reportCreated : Run σ Unit).run c = _
    exact hrest

end

/-! ## The files of a batch -/

section
variable {m : Manager} {c : Console Memory} {files : List MigrationFile}
  (h : Unhindered c.workspace.connection)
  (htable : m.ledgerTable = c.workspace.connection.ledgerTable)
include h htable

/-- To mark one of several files leaves the others to be marked. -/
theorem mark_first {f : MigrationFile} (hparses : Parses f.filename)
    (hfresh : ∀ g ∈ f :: files, Fresh c.workspace.connection g.filename)
    (hnodup : ((f :: files).map (·.filename)).Nodup) {batch : Option Nat} (hbatch : batch ≠ some 0) :
    ∃ mid, (doing (m.mark f.filename batch)).run c = (.ok true, c.connected mid) ∧
      Marked f.filename (batchFor c.workspace.connection batch) c.workspace.connection mid ∧
      Unhindered mid ∧ m.ledgerTable = mid.ledgerTable ∧
      ∀ g ∈ files, Fresh mid g.filename := by
  obtain ⟨hfirst, hfresh⟩ := List.forall_mem_cons.1 hfresh
  obtain ⟨mid, hmark, hmarked⟩ := mark_of_unhindered h htable hparses hfirst batch hbatch
  refine ⟨mid, run_doing hmark, hmarked, h.again hmarked.conditions hmarked.present,
    htable.trans hmarked.conditions.ledgerTable.symm, fun g hg => ?_⟩
  refine hmarked.fresh (hfresh g hg) fun heq => (List.nodup_cons.1 hnodup).1 ?_
  exact List.mem_map.2 ⟨g, hg, heq.symm⟩

/-- In a batch that is given, all files are marked. -/
theorem markEach_given (hthere : c.workspace.connection.tables.contains
      c.workspace.connection.ledgerTable = true)
    (hparses : ∀ f ∈ files, Parses f.filename)
    (hfresh : ∀ f ∈ files, Fresh c.workspace.connection f.filename)
    (hnodup : (files.map (·.filename)).Nodup) {batch : Nat} (hbatch : batch ≠ 0) :
    ∃ db', (markEach m (some batch) files).run c = (.ok (), c.connected db') ∧
      MarkedAll batch (files.map (·.filename)) c.workspace.connection db' := by
  -- By induction on the files: the rows of the first one are none of the others'.
  induction files generalizing c with
  | nil => exact ⟨_, rfl, (List.append_nil _).symm, .refl _, hthere⟩
  | cons f files ih =>
    obtain ⟨hf, hparses⟩ := List.forall_mem_cons.1 hparses
    obtain ⟨mid, hmark, hmarked, hmid, htable', hothers⟩ := mark_first h htable hf hfresh hnodup
      (mt Option.some.inj hbatch)
    obtain ⟨db', hrest, hrests⟩ := ih (c := c.connected mid) hmid htable' hmarked.present hparses
      hothers (List.nodup_cons.1 hnodup).2
    refine ⟨db', ?_, hrests.cons hmarked⟩
    rw [markEach, run_bind_ok hmark]
    exact hrest

end

/-! ## A new batch -/

/-- Batches that fit are told. -/
theorem batchOf_of_status {m : Manager} {c : Console Memory} {entries : List StatusEntry}
    (hstatus : m.status.run c.workspace.connection = (.ok entries, c.workspace.connection))
    {file : String} {batch : Nat}
    (hentry : (entries.find? (·.filename == file)).bind (·.batch) = some (batch : Int))
    (hbatch : batch < UInt32.size) : (batchOf m file).run c = (.ok (some batch), c) := by
  rw [batchOf, run_bind_ok (run_doing hstatus), hentry]
  have hfits : 0 ≤ (batch : Int) ∧ (batch : Int) < UInt32.size := by omega
  dsimp only
  rw [if_pos hfits]
  rfl

/-- Batches that fit leave room for another one. -/
theorem lastBatch_fits {rows : List LedgerRow}
    (h : ∀ r ∈ rows, 1 ≤ r.batch ∧ r.batch ≤ 2 ^ 32 - 2) :
    ∃ batch : Nat, (batch : Int) = lastBatch (rows.map entryOf) + 1 ∧ batch ≠ 0 ∧
      batch < UInt32.size := by
  have hnonneg := lastBatch_entries_nonneg fun r hr => (h r hr).1
  have hle : lastBatch (rows.map entryOf) ≤ 2 ^ 32 - 2 := by
    by_cases hnone : rows.map entryOf = []
    · rw [hnone]
      decide
    · obtain ⟨e, he, hbatch⟩ := exists_lastBatch hnone
      obtain ⟨r, hr, rfl⟩ := List.mem_map.1 he
      rw [← hbatch]
      exact (h r hr).2
  refine ⟨(lastBatch (rows.map entryOf) + 1).toNat, Int.toNat_of_nonneg (by omega), by omega, ?_⟩
  rw [UInt32.size]
  omega

/-- In a new batch, all files are marked, as the status tells its number. -/
theorem markEach_new {m : Manager} {c : Console Memory} {files : List MigrationFile}
    (h : Unhindered c.workspace.connection)
    (htable : m.ledgerTable = c.workspace.connection.ledgerTable)
    {available : List String} (havailable : m.available = .ok available)
    (hlisted : ∀ f ∈ files, f.filename ∈ available) (hfiles : files ≠ [])
    (hparses : ∀ f ∈ files, Parses f.filename)
    (hfresh : ∀ f ∈ files, Fresh c.workspace.connection f.filename)
    (hnodup : (files.map (·.filename)).Nodup)
    (hbatches : ∀ r ∈ c.workspace.connection.ledger, 1 ≤ r.batch ∧ r.batch ≤ 2 ^ 32 - 2) :
    ∃ db', (markEach m none files).run c = (.ok (), c.connected db') ∧
      MarkedAll (lastBatch (c.workspace.connection.ledger.map entryOf) + 1)
        (files.map (·.filename)) c.workspace.connection db' := by
  cases files with
  | nil => exact absurd rfl hfiles
  | cons f files =>
    obtain ⟨hf, hparses⟩ := List.forall_mem_cons.1 hparses
    obtain ⟨batch, hnew, hzero, hfits⟩ := lastBatch_fits hbatches
    obtain ⟨mid, hmark, hmarked, hmid, htable', hothers⟩ := mark_first h htable hf hfresh hnodup
      (Option.some_ne_none 0).symm
    rw [batchFor, ← hnew] at hmarked
    -- the row of the first file is the last one, so its status has the batch
    have hstatus : m.status.run (c.connected mid).workspace.connection = _ :=
      status_of_unhindered hmid htable' hmarked.present havailable
    have hbatch := batch_of_status (hlisted f List.mem_cons_self) c.workspace.connection.ledger
      (r := ⟨c.workspace.connection.nextId, f.filename, batch,
        DateTime.ofUnix (startOfTime + (c.workspace.connection.ticks + 1))⟩) rfl
    have hledger : mid.ledger = _ := hmarked.ledger.ledger
    rw [hledger] at hstatus
    obtain ⟨db', hrest, hrests⟩ := markEach_given (c := c.connected mid) hmid htable'
      hmarked.present hparses hothers (List.nodup_cons.1 hnodup).2 hzero
    rw [← hnew]
    refine ⟨db', ?_, hrests.cons hmarked⟩
    rw [markEach, run_bind_ok hmark]
    show (batchOf m f.filename >>= fun batch => markEach m batch files).run _ = _
    rw [run_bind_ok (batchOf_of_status hstatus hbatch hfits)]
    exact hrest

/-- The status has no batch of what is not listed. -/
theorem batchOf_of_unlisted {m : Manager} {c : Console Memory} (h : Unhindered c.workspace.connection)
    (htable : m.ledgerTable = c.workspace.connection.ledgerTable)
    (hthere : c.workspace.connection.tables.contains
      c.workspace.connection.ledgerTable = true)
    {available : List String} (havailable : m.available = .ok available) {file : String}
    (hunlisted : file ∉ available) : (batchOf m file).run c = (.ok none, c) := by
  have hstatus := status_of_unhindered h htable hthere havailable
  have hnone : (available.map (StatusEntry.ofLedger
      (c.workspace.connection.ledger.map entryOf))).find? (·.filename == file) = none := by
    refine List.find?_eq_none.2 fun e he hfile => hunlisted ?_
    obtain ⟨name, hname, rfl⟩ := List.mem_map.1 he
    rw [filename_ofLedger] at hfile
    exact beq_iff_eq.1 hfile ▸ hname
  rw [batchOf, run_bind_ok (run_doing hstatus), hnone]
  rfl

/-- Files that are not listed are marked as well, each in a batch after all others. -/
theorem markEach_apart {m : Manager} {c : Console Memory} {files : List MigrationFile}
    (h : Unhindered c.workspace.connection)
    (htable : m.ledgerTable = c.workspace.connection.ledgerTable)
    {available : List String} (havailable : m.available = .ok available)
    (hunlisted : ∀ f ∈ files, f.filename ∉ available)
    (hparses : ∀ f ∈ files, Parses f.filename)
    (hfresh : ∀ f ∈ files, Fresh c.workspace.connection f.filename)
    (hnodup : (files.map (·.filename)).Nodup) :
    ∃ db' rows, (markEach m none files).run c = (.ok (), c.connected db') ∧
      db'.ledger = c.workspace.connection.ledger ++ rows ∧
      rows.map (·.migration) = files.map (·.filename) ∧
      rows.Pairwise (fun a b => a.batch < b.batch) ∧
      ∀ r ∈ rows, ∀ old ∈ c.workspace.connection.ledger, old.batch < r.batch := by
  -- By induction on the files: the row of the first one is among those that the batches of
  -- the others come after.
  induction files generalizing c with
  | nil =>
    exact ⟨_, [], rfl, (List.append_nil _).symm, rfl, .nil, fun r hr => absurd hr List.not_mem_nil⟩
  | cons f files ih =>
    obtain ⟨hf, hparses⟩ := List.forall_mem_cons.1 hparses
    obtain ⟨hnot, hunlisted⟩ := List.forall_mem_cons.1 hunlisted
    obtain ⟨mid, hmark, hmarked, hmid, htable', hothers⟩ := mark_first h htable hf hfresh hnodup
      (Option.some_ne_none 0).symm
    have hbatch := batchOf_of_unlisted (c := c.connected mid) hmid htable' hmarked.present
      havailable hnot
    obtain ⟨db', rows, hrest, hrows, hnames, hascending, hafter⟩ := ih (c := c.connected mid) hmid
      htable' hunlisted hparses hothers (List.nodup_cons.1 hnodup).2
    obtain ⟨row, hname, hnew, hledger⟩ : ∃ row : LedgerRow, row.migration = f.filename ∧
        row.batch = lastBatch (c.workspace.connection.ledger.map entryOf) + 1 ∧
        (c.connected mid).workspace.connection.ledger = c.workspace.connection.ledger ++ [row] :=
      ⟨_, rfl, rfl, hmarked.ledger.ledger⟩
    rw [hledger] at hrows hafter
    refine ⟨db', row :: rows, ?_, ?_, ?_, List.pairwise_cons.2 ⟨fun r hr => ?_, hascending⟩,
      List.forall_mem_cons.2 ⟨fun old hold => ?_, fun r hr old hold => ?_⟩⟩
    · rw [markEach, run_bind_ok hmark]
      show (batchOf m f.filename >>= fun batch => markEach m batch files).run _ = _
      rw [run_bind_ok hbatch]
      exact hrest
    · rw [hrows, List.append_assoc]
      rfl
    · rw [List.map_cons, List.map_cons, hname, hnames]
    · exact hafter r hr row (List.mem_append_right _ (List.mem_singleton_self row))
    · rw [hnew]
      exact Int.lt_add_one_of_le (le_lastBatch (List.mem_map_of_mem (f := entryOf) hold))
    · exact hafter r hr old (List.mem_append_left _ hold)

/-! ## Generating and marking -/

/-- Warnings do not hinder a mark, and leave the ledger. -/
theorem unhindered_of_warned {db db' : Memory} (h : Unhindered db) (hwarned : Warned db db') :
    Unhindered db' ∧ db'.ledgerTable = db.ledgerTable ∧ db'.ledger = db.ledger := by
  obtain ⟨warnings, rfl⟩ := hwarned
  exact ⟨⟨h.canned, h.failures, h.unlocked, h.quoted, h.tracked⟩, rfl, rfl⟩

theorem structures_onlyWarns (g : Generator) (excluded : List String) :
    OnlyWarns (g.structures excluded) := by
  have heach : ∀ l, OnlyWarns (inspectEach l) := by
    intro l
    induction l with
    | nil => exact .pure _
    | cons table l ih => exact (inspect_onlyWarns table).bind fun _ => ih.bind fun _ => .pure _
  have horder : ∀ snapshots, OnlyWarns (inDependencyOrder snapshots : Action Memory _) := by
    intro snapshots
    rw [inDependencyOrder]
    dsimp only
    split
    · exact (OnlyWarns.warning _).bind fun _ => .pure _
    · exact .pure _
  exact (tables_onlyWarns.bind fun names => heach _).bind horder

/-- A generation that succeeds warns and writes artifacts, and the directory lists them if its
path leads somewhere. -/
theorem generateAll_eq_ok {g : Generator} {clock : Nat → Int} {excluded : List String}
    {w w' : Workspace Memory} {files : List MigrationFile}
    (h : (g.generateAll clock excluded).run w = (.ok files, w')) :
    Warned w.connection w'.connection ∧ (∀ f ∈ files, Parses f.filename) ∧
      (files.map (·.filename)).Nodup ∧
      (g.directory ≠ "" → files ≠ [] →
        ∃ found, discover w'.files g.directory = .ok found ∧ ∀ f ∈ files, f ∈ found) := by
  obtain ⟨-, hwarned⟩ := (structures_onlyWarns g excluded).run (Warned.refl w.connection)
  rcases hstructures : (g.structures excluded).run w.connection with ⟨e | l, db'⟩
  · have herror := generateAll_of_error clock (congrArg Prod.fst hstructures)
    rw [h] at herror
    cases herror.1
  · rw [generateAll_of_ok hstructures] at h
    have hconnection := g.writeEach_connection clock l { w with connection := db' }
    rw [h] at hconnection
    rw [hstructures] at hwarned
    obtain ⟨hartifacts, hnodup⟩ := artifacts_of_writeEach h
    refine ⟨?_, fun f hf => ⟨_, (hartifacts f hf).1⟩, hnodup, fun hne => listed_of_writeEach hne h⟩
    rw [hconnection]
    exact hwarned

/-- Migrations are found in a directory that is there. -/
theorem available_ofSettings {s : Settings} {files : Files.Tree} {found : List MigrationFile}
    (h : discover files s.migrationsDir = .ok found) (registry : Registry) :
    (Manager.ofSettings s files registry).available = .ok (found.map (·.filename)) := by
  have hdirectory : files.isDirectory s.migrationsDir = true := by
    rw [Files.Tree.isDirectory, (discover_eq_ok h).1]
    rfl
  rw [Manager.ofSettings]
  dsimp only
  rw [if_pos hdirectory, Manager.inDirectory, h]
  rfl

/-- The empty path is no directory, so the registry alone has the migrations. -/
theorem available_of_empty {s : Settings} (h : s.migrationsDir = "") (files : Files.Tree)
    (registry : Registry) : (Manager.ofSettings s files registry).available =
      .ok registry.filenames := by
  have hnowhere : files.isDirectory "" = false := rfl
  rw [Manager.ofSettings, h, hnowhere]
  rfl

theorem ledgerTable_ofSettings (s : Settings) (files : Files.Tree) (registry : Registry) :
    (Manager.ofSettings s files registry).ledgerTable = s.ledgerTable := by
  rw [Manager.ofSettings]
  dsimp only
  split
  · rfl
  · rfl

/-- The command generates, tells of the artifacts, marks them and tells so. -/
theorem execute_generateAll {s : Settings} {clock : Nat → Int} {exclude : List String}
    {c : Console Memory} {files : List MigrationFile} {w : Workspace Memory}
    (hgenerate : ((Generator.ofSettings s).generateAll clock exclude).run c.workspace =
      (.ok files, w)) (hfiles : files ≠ []) (registry : Registry) :
    ∃ lines, (execute (.generateAll exclude true) s registry clock).run c =
      (markEach (Manager.ofSettings s w.files registry) none files >>= fun _ =>
        print ["Marked applied " ++ natText files.length ++ " migration(s)"]).run ⟨w, lines⟩ := by
  obtain ⟨lines, hreport⟩ := run_reportCreated files { c with workspace := w }
  have hsome : files.isEmpty = false := List.isEmpty_eq_false_iff.2 hfiles
  have hmanager : (managerNow s registry : Run Memory Manager).run ⟨w, lines⟩ =
      (.ok (Manager.ofSettings s w.files registry), ⟨w, lines⟩) := rfl
  refine ⟨lines, ?_⟩
  rw [execute, run_bind_ok (run_inWorkspace hgenerate)]
  dsimp only
  rw [hsome, if_neg Bool.false_ne_true, run_bind_ok hreport, Bool.not_false, Bool.and_true,
    if_pos rfl, run_bind_ok hmanager]

/-- A batch comes right after those of some rows. -/
structure ComesAfter (rows : List LedgerRow) (batch : Int) : Prop where
  greater : ∀ r ∈ rows, r.batch < batch
  next : rows ≠ [] → ∃ r ∈ rows, r.batch + 1 = batch
  first : rows = [] → batch = 1

theorem comesAfter_lastBatch (rows : List LedgerRow) :
    ComesAfter rows (lastBatch (rows.map entryOf) + 1) := by
  refine ⟨fun r hr => Int.lt_add_one_of_le (le_lastBatch (List.mem_map_of_mem hr)), fun hrows => ?_,
    fun hnone => by rw [hnone]; rfl⟩
  have hentries : rows.map entryOf ≠ [] := mt List.map_eq_nil_iff.1 hrows
  obtain ⟨e, he, hbatch⟩ := exists_lastBatch hentries
  obtain ⟨r, hr, rfl⟩ := List.mem_map.1 he
  exact ⟨r, hr, congrArg (· + 1) hbatch⟩

/-- A run of all migrations leaves a file out: the file is not chosen, and it is not among
those that are applied. -/
structure LeavesOut (m : Manager) (db : Memory) (file : String) : Prop where
  chosen : ∃ batch files start, (runChoice m none).run db = (.ok (batch, files), start) ∧
    file ∉ files
  applied : ∀ files db', (m.run none).run db = (.ok files, db') → file ∉ files

theorem not_mem_waiting {available : List String} {rows : List LedgerRow} {file : String}
    (h : file ∈ rows.map (·.migration)) : file ∉ waiting available rows := by
  obtain ⟨r, hr, hfile⟩ := List.mem_map.1 h
  intro hwaiting
  have hany : rows.any (·.migration == file) = true :=
    List.any_eq_true.2 ⟨r, hr, beq_iff_eq.2 hfile⟩
  have hnone := (List.mem_filter.1 hwaiting).2
  rw [hany] at hnone
  cases hnone

/-- What is in the ledger is left out. -/
theorem leavesOut_of_unhindered {m : Manager} {db : Memory} (h : Unhindered db)
    (htable : m.ledgerTable = db.ledgerTable) {available : List String}
    (havailable : m.available = .ok available) {file : String}
    (hfile : file ∈ db.ledger.map (·.migration)) : LeavesOut m db file := by
  constructor
  · obtain ⟨start, hchoice⟩ := choice_of_unhindered h htable havailable none
    exact ⟨_, _, start, hchoice, not_mem_waiting hfile⟩
  · intro files db' hrun
    obtain ⟨held, after, -, hlock⟩ := locked_of_unhindered h htable
    rw [run_eq, if_neg (Option.some_ne_none 0).symm, hlock] at hrun
    rcases hcarry : (carryOut m .up (runChoice m none)).run { db with held := held } with ⟨r, mid⟩
    rw [hcarry] at hrun
    obtain ⟨rfl, -⟩ := Prod.mk.inj hrun
    obtain ⟨batch, chosen, start, l, hchoice, hresolve, heach⟩ := carryOut_eq_ok hcarry
    obtain ⟨-, -, -, hpending, -⟩ := runChoice_eq_ok (h.held held).canned hchoice
    rw [pending_of_available havailable] at hpending
    rw [names_of_executeEach m .up batch heach, List.nil_append, (resolve_eq_ok hresolve).1,
      ← Except.ok.inj hpending]
    exact not_mem_waiting hfile

/-- Where artifacts are generated for all tables into a directory, and none of them has a row,
marking them succeeds: each gets one row, all in the batch after the last one, behind the rows that
were there, and no run applies them. -/
theorem generateAll_marks {s : Settings} {clock : Nat → Int} {exclude : List String}
    {c : Console Memory} (h : Unhindered c.workspace.connection) (hdirectory : s.migrationsDir ≠ "")
    (htable : s.ledgerTable = c.workspace.connection.ledgerTable)
    (hbatches : ∀ r ∈ c.workspace.connection.ledger, 1 ≤ r.batch ∧ r.batch ≤ 2 ^ 32 - 2)
    {files : List MigrationFile} {w : Workspace Memory}
    (hgenerate : ((Generator.ofSettings s).generateAll clock exclude).run c.workspace =
      (.ok files, w)) (hfiles : files ≠ [])
    (hfresh : ∀ f ∈ files, Fresh c.workspace.connection f.filename) (registry : Registry) :
    ∃ (c' : Console Memory) (rows : List LedgerRow) (batch : Int),
      (execute (.generateAll exclude true) s registry clock).run c = (.ok (), c') ∧
      c'.workspace.files = w.files ∧
      c'.workspace.connection.ledger = c.workspace.connection.ledger ++ rows ∧
      rows.map (·.migration) = files.map (·.filename) ∧
      (∀ r ∈ rows, r.batch = batch) ∧ ComesAfter c.workspace.connection.ledger batch ∧
      ∀ f ∈ files, (c'.workspace.connection.ledger.map (·.migration)).count f.filename = 1 ∧
        ∀ registry', LeavesOut (Manager.ofSettings s c'.workspace.files registry')
          c'.workspace.connection f.filename := by
  obtain ⟨hwarned, hparses, hnodup, hlisted⟩ := generateAll_eq_ok hgenerate
  obtain ⟨found, hdiscover, hfound⟩ := hlisted hdirectory hfiles
  -- To generate and to report changes files, lines and warnings, none of which hinders a mark.
  obtain ⟨lines, hexecute⟩ := execute_generateAll hgenerate hfiles registry
  obtain ⟨hunhindered, htable', hledger⟩ := unhindered_of_warned h hwarned
  have havailable := fun registry => available_ofSettings hdiscover registry
  have hmanager : ∀ registry, (Manager.ofSettings s w.files registry).ledgerTable =
      w.connection.ledgerTable := fun registry =>
    (ledgerTable_ofSettings s w.files registry).trans (htable.trans htable'.symm)
  have hfresh' : ∀ f ∈ files, Fresh w.connection f.filename :=
    fun f hf r hr => hfresh f hf r (hledger ▸ hr)
  obtain ⟨db', hmark, hmarked⟩ := markEach_new (c := ⟨w, lines⟩) hunhindered (hmanager registry)
    (havailable registry) (fun f hf => List.mem_map_of_mem (hfound f hf)) hfiles hparses hfresh'
    hnodup (fun r hr => hbatches r (hledger ▸ hr))
  have hrows : db'.ledger = w.connection.ledger ++ _ := hmarked.ledger
  rw [hledger] at hrows
  refine ⟨⟨{ w with connection := db' }, lines ++
      ["Marked applied " ++ natText files.length ++ " migration(s)"]⟩, _, _,
    hexecute.trans (run_bind_ok hmark), rfl, hrows, migrations_newRows _ _ _ _,
    fun r hr => batch_of_mem_newRows hr, ?_, fun f hf => ?_⟩
  · exact hledger ▸ comesAfter_lastBatch w.connection.ledger
  -- The file had no row before, and its name is not given twice.
  · have hmem : f.filename ∈ files.map (·.filename) := List.mem_map_of_mem hf
    have hold : f.filename ∉ c.workspace.connection.ledger.map (·.migration) := by
      intro hold
      obtain ⟨r, hr, hfile⟩ := List.mem_map.1 hold
      exact hfresh f hf r hr hfile
    have hcount : (db'.ledger.map (·.migration)).count f.filename = 1 := by
      rw [hrows, List.map_append, migrations_newRows, List.count_append,
        List.count_eq_zero_of_not_mem hold, List.count_eq_one_of_mem hnodup hmem]
    refine ⟨hcount, fun registry' => ?_⟩
    refine leavesOut_of_unhindered (hunhindered.again hmarked.conditions hmarked.present)
      ((hmanager registry').trans hmarked.conditions.ledgerTable.symm) (havailable registry') ?_
    exact List.count_pos_iff.1 (by rw [hcount]; exact Nat.one_pos)

/-- Without a directory the artifacts are written and marked, but not in one batch. -/
theorem generateAll_marks_apart {s : Settings} {clock : Nat → Int} {exclude : List String}
    {c : Console Memory} (h : Unhindered c.workspace.connection) (hdirectory : s.migrationsDir = "")
    (htable : s.ledgerTable = c.workspace.connection.ledgerTable)
    {files : List MigrationFile} {w : Workspace Memory}
    (hgenerate : ((Generator.ofSettings s).generateAll clock exclude).run c.workspace =
      (.ok files, w)) (hfiles : files ≠ [])
    (hfresh : ∀ f ∈ files, Fresh c.workspace.connection f.filename) (registry : Registry)
    (hunlisted : ∀ f ∈ files, f.filename ∉ registry.filenames) :
    ∃ c' rows, (execute (.generateAll exclude true) s registry clock).run c = (.ok (), c') ∧
      c'.workspace.connection.ledger = c.workspace.connection.ledger ++ rows ∧
      rows.map (·.migration) = files.map (·.filename) ∧
      rows.Pairwise fun a b => a.batch < b.batch := by
  obtain ⟨hwarned, hparses, hnodup, -⟩ := generateAll_eq_ok hgenerate
  obtain ⟨lines, hexecute⟩ := execute_generateAll hgenerate hfiles registry
  obtain ⟨hunhindered, htable', hledger⟩ := unhindered_of_warned h hwarned
  have hmanager : (Manager.ofSettings s w.files registry).ledgerTable = w.connection.ledgerTable :=
    (ledgerTable_ofSettings s w.files registry).trans (htable.trans htable'.symm)
  have hfresh' : ∀ f ∈ files, Fresh w.connection f.filename :=
    fun f hf r hr => hfresh f hf r (hledger ▸ hr)
  obtain ⟨db', rows, hmark, hrows, hnames, hascending, -⟩ := markEach_apart (c := ⟨w, lines⟩)
    hunhindered hmanager (available_of_empty hdirectory w.files registry) hunlisted hparses hfresh'
    hnodup
  have hrows' : db'.ledger = w.connection.ledger ++ rows := hrows
  rw [hledger] at hrows'
  exact ⟨⟨{ w with connection := db' }, lines ++
      ["Marked applied " ++ natText files.length ++ " migration(s)"]⟩, rows,
    hexecute.trans (run_bind_ok hmark), hrows', hnames, hascending⟩

/-- Where the ledger cannot be read, the artifacts are written and the command fails. -/
theorem generateAll_fails_of_unreadable {s : Settings} {clock : Nat → Int} {exclude : List String}
    {c : Console Memory} (hcanned : c.workspace.connection.canned = ∅)
    (h : Unreadable c.workspace.connection)
    (htable : s.ledgerTable = c.workspace.connection.ledgerTable)
    {files : List MigrationFile} {w : Workspace Memory}
    (hgenerate : ((Generator.ofSettings s).generateAll clock exclude).run c.workspace =
      (.ok files, w)) (hfiles : files ≠ []) (registry : Registry) :
    ∃ e c', (execute (.generateAll exclude true) s registry clock).run c =
      (.error (.migration e), c') := by
  obtain ⟨⟨warnings, hconnection⟩, hparses, -⟩ := generateAll_eq_ok hgenerate
  obtain ⟨lines, hexecute⟩ := execute_generateAll hgenerate hfiles registry
  rw [hexecute]
  -- The first file cannot be marked, so it does not matter how many there are.
  cases files with
  | nil => exact absurd rfl hfiles
  | cons f files =>
    have hcanned' : w.connection.canned = ∅ := by rw [hconnection]; exact hcanned
    have hunreadable : Unreadable w.connection := by rw [hconnection]; exact h
    have htable' : (Manager.ofSettings s w.files registry).ledgerTable =
        w.connection.ledgerTable := by
      rw [ledgerTable_ofSettings, hconnection]
      exact htable
    obtain ⟨e, db', hmark⟩ := mark_of_unreadable hcanned' hunreadable htable'
      (hparses f List.mem_cons_self)
    have hdoing : (doing ((Manager.ofSettings s w.files registry).mark f.filename none)).run
        ⟨w, lines⟩ = _ := run_doing hmark
    exact ⟨e, _, run_bind_error (run_bind_error hdoing)⟩

/-! ## One table, and two -/

/-- A database with the ledger under a name, in which users are described. -/
def usersWith (ledger : String) : Memory :=
  (Memory.empty ledger).describe "users" (catalogOf .plain users)

/-- Where users are the only table that counts, their structure is told. -/
theorem structures_users {g : Generator} {db : Memory} (hdb : db.IsPlain)
    (hshown : db.catalog.get? "users" = some (catalogOf .plain users))
    (hnames : db.tableNames.filter (g.includes []) = ["users"]) :
    (g.structures []).run db = (.ok [snapshotOf .plain users], db) := by
  have hinspect : (inspect "users" : Action Memory _).run db = (.ok (snapshotOf .plain users), db) :=
    inspect_describe .plain showsBlueprint_users hdb hshown
  have hall : (inspectEach ["users"]).run db =
      (.ok ((∅ : NameMap Snapshot).insert "users" (snapshotOf .plain users)), db) := by
    rw [inspectEach, Action.run_bind_ok hinspect]
    rfl
  have horder : dependencyOrder [⟨"users", []⟩] = (["users"], []) := by decide +kernel
  have hreferences : (((∅ : NameMap Snapshot).insert "users"
      (snapshotOf .plain users)).values.map referencesOf) = [⟨"users", []⟩] := by decide +kernel
  rw [structures, inspectAll, bind_assoc, Action.run_bind_ok (run_tables hdb)]
  show ((inspectEach (db.tableNames.filter (g.includes []))) >>= inDependencyOrder).run db = _
  rw [hnames, Action.run_bind_ok hall, inDependencyOrder, hreferences, horder]
  rfl

/-- Artifacts are written for the structures that are told if they can be. -/
theorem generateAll_of_writes {s : Settings} {db : Memory} {l : List Snapshot} {n : Nat}
    (hstructures : ((Generator.ofSettings s).structures []).run db = (.ok l, db))
    (hwrites : (((Generator.ofSettings s).writeEach (fun _ => 1705752000) l).run
      ⟨db, .empty, 0⟩).1.toOption.map (·.length) = some n) :
    ∃ files w, ((Generator.ofSettings s).generateAll (fun _ => 1705752000) []).run
      ⟨db, .empty, 0⟩ = (.ok files, w) ∧ files.length = n := by
  have hgenerate : ((Generator.ofSettings s).generateAll (fun _ => 1705752000) []).run
      ⟨db, .empty, 0⟩ = _ := generateAll_of_ok hstructures
  rcases hwritten : ((Generator.ofSettings s).writeEach (fun _ => 1705752000) l).run
    ⟨db, .empty, 0⟩ with ⟨e | files, w⟩
  · rw [hwritten] at hwrites
    cases hwrites
  · rw [hwritten] at hwrites
    exact ⟨files, w, hgenerate.trans hwritten, Option.some.inj hwrites⟩

/-- The artifact for users gets a row in the first batch. -/
theorem generateAll_marks_users :
    ∃ (files : List MigrationFile) (c' : Console Memory), files.length = 1 ∧
      (execute (.generateAll [] true) {} .empty fun _ => 1705752000).run
        ⟨⟨usersWith "migrations", .empty, 0⟩, []⟩ = (.ok (), c') ∧
      c'.workspace.connection.ledger.map (·.migration) = files.map (·.filename) ∧
      (∀ r ∈ c'.workspace.connection.ledger, r.batch = 1) ∧
      ∀ f ∈ files, ∀ registry, LeavesOut (Manager.ofSettings {} c'.workspace.files registry)
        c'.workspace.connection f.filename := by
  obtain ⟨files, w, hgenerate, hlength⟩ := generateAll_of_writes (s := {}) (n := 1)
    (structures_users (⟨rfl, rfl⟩ : (usersWith "migrations").IsPlain) rfl (by decide))
    (by decide +kernel)
  have hunhindered : Unhindered (usersWith "migrations") :=
    ⟨rfl, rfl, rfl, by decide, by decide⟩
  obtain ⟨c', rows, batch, hexecute, -, hledger, hmigrations, hbatch, hafter, hfiles⟩ :=
    generateAll_marks (c := ⟨⟨usersWith "migrations", .empty, 0⟩, []⟩) hunhindered (by decide) rfl
      (fun r hr => absurd hr List.not_mem_nil) hgenerate
      (List.ne_nil_of_length_pos (by omega)) (fun f _ r hr => absurd hr List.not_mem_nil) .empty
  have hrows : c'.workspace.connection.ledger = rows := hledger
  refine ⟨files, c', hlength, hexecute, ?_, ?_, fun f hf registry => (hfiles f hf).2 registry⟩
  · rw [hrows]
    exact hmigrations
  · rw [hrows]
    exact fun r hr => (hbatch r hr).trans (hafter.first rfl)

/-- With a ledger whose name contains a backtick, and with one that is only described, the
artifact is written and not marked. Without a directory, two artifacts are written and marked in
batches of their own. -/
theorem not_marked_together :
    (∃ files w e c', ((Generator.ofSettings { ledgerTable := "a\x60b" }).generateAll
        (fun _ => 1705752000) []).run ⟨usersWith "a\x60b", .empty, 0⟩ = (.ok files, w) ∧
      files ≠ [] ∧
      (execute (.generateAll [] true) { ledgerTable := "a\x60b" } .empty fun _ => 1705752000).run
        ⟨⟨usersWith "a\x60b", .empty, 0⟩, []⟩ = (.error (.migration e), c')) ∧
    (∃ files w e c', ((Generator.ofSettings {}).generateAll (fun _ => 1705752000) []).run
        ⟨(usersWith "migrations").describe "migrations" (catalogOf .plain users), .empty, 0⟩ =
          (.ok files, w) ∧
      files ≠ [] ∧
      (execute (.generateAll [] true) {} .empty fun _ => 1705752000).run
        ⟨⟨(usersWith "migrations").describe "migrations" (catalogOf .plain users), .empty, 0⟩, []⟩ =
          (.error (.migration e), c')) ∧
    ∃ files w c', ((Generator.ofSettings { migrationsDir := "" }).generateAll
        (fun _ => 1705752000) []).run ⟨blog, .empty, 0⟩ = (.ok files, w) ∧
      files.length = 2 ∧
      (execute (.generateAll [] true) { migrationsDir := "" } .empty fun _ => 1705752000).run
        ⟨⟨blog, .empty, 0⟩, []⟩ = (.ok (), c') ∧
      c'.workspace.connection.ledger.map (·.migration) = files.map (·.filename) ∧
      c'.workspace.connection.ledger.Pairwise fun a b => a.batch < b.batch := by
  refine ⟨?_, ?_, ?_⟩
  · obtain ⟨files, w, hgenerate, hlength⟩ := generateAll_of_writes
      (s := { ledgerTable := "a\x60b" }) (n := 1)
      (structures_users (⟨rfl, rfl⟩ : (usersWith "a\x60b").IsPlain) rfl (by decide))
      (by decide +kernel)
    have hfiles : files ≠ [] := List.ne_nil_of_length_pos (by omega)
    obtain ⟨e, c', hexecute⟩ := generateAll_fails_of_unreadable
      (c := ⟨⟨usersWith "a\x60b", .empty, 0⟩, []⟩) rfl (.inl (by decide)) rfl hgenerate hfiles .empty
    exact ⟨files, w, e, c', hgenerate, hfiles, hexecute⟩
  · obtain ⟨files, w, hgenerate, hlength⟩ := generateAll_of_writes (s := {}) (n := 1)
      (structures_users (⟨rfl, rfl⟩ : ((usersWith "migrations").describe "migrations"
        (catalogOf .plain users)).IsPlain) rfl (by decide))
      (by decide +kernel)
    have hfiles : files ≠ [] := List.ne_nil_of_length_pos (by omega)
    obtain ⟨e, c', hexecute⟩ := generateAll_fails_of_unreadable
      (c := ⟨⟨(usersWith "migrations").describe "migrations" (catalogOf .plain users), .empty, 0⟩,
        []⟩) rfl (.inr (by decide)) rfl hgenerate hfiles .empty
    exact ⟨files, w, e, c', hgenerate, hfiles, hexecute⟩
  · obtain ⟨files, w, hgenerate, hlength⟩ := generateAll_of_writes
      (s := { migrationsDir := "" }) (n := 2) structures_blog (by decide +kernel)
    have hunhindered : Unhindered blog := ⟨rfl, rfl, rfl, by decide, by decide⟩
    obtain ⟨c', rows, hexecute, hrows, hnames, hascending⟩ :=
      generateAll_marks_apart (c := ⟨⟨blog, .empty, 0⟩, []⟩) hunhindered rfl rfl hgenerate
        (List.ne_nil_of_length_pos (by omega)) (fun f _ r hr => absurd hr List.not_mem_nil)
        .empty (fun f _ => List.not_mem_nil)
    have hledger : c'.workspace.connection.ledger = rows := hrows
    rw [← hledger] at hnames hascending
    exact ⟨files, w, c', hgenerate, hlength, hexecute, hnames, hascending⟩

end SchemaMigration.CommandLine
