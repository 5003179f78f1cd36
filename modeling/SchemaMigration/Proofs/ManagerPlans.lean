import SchemaMigration.Proofs.ArtifactOrder
import SchemaMigration.Proofs.MigrationSequence

/-
  What a manager sets out to do.

  A manager's migrations come from a registry to which every migration was added under
  an artifact's filename, and are found there or in a directory, so each filename that
  is available is an artifact's. To run and to revert is to make a plan, which reads
  the ledger and changes none of its rows, and then to execute what was planned.

  Main statements: `runPending_eq` and `revertSelected_eq`, work as a plan and its
  execution; `runPlan_cases` and `revertPlan_cases`, what can become of a plan.
-/
namespace SchemaMigration.Migration

open Sql Database Schema
open Database.Memory

/-! ## Registries and managers -/

/-- The name is one that an artifact can have. -/
def Parses (file : String) : Prop := ∃ f, MigrationFile.ofFilename file = .ok f

theorem Parses.ne_empty {file : String} (h : Parses file) : file ≠ "" := by
  rintro rfl
  obtain ⟨f, hf⟩ := h
  cases hf

/-- A registry that was filled with migrations made of gateway calls. -/
inductive GatewayRegistry : Registry → Prop
  | empty : GatewayRegistry .empty
  | register {r r' : Registry} {file : String} {scripts : Scripts} (h : GatewayRegistry r)
      (hup : allGateway scripts.up = true) (hdown : allGateway scripts.down = true)
      (hr : r.register file scripts = .ok r') : GatewayRegistry r'

/-- A registry with those of some migrations that can be registered. -/
def registryOf (l : List (String × Scripts)) : Registry :=
  l.foldl (fun r p => ((r.register p.1 p.2).toOption).getD r) .empty

theorem gatewayRegistry_registryOf {l : List (String × Scripts)}
    (h : ∀ p ∈ l, allGateway p.2.up = true ∧ allGateway p.2.down = true) :
    GatewayRegistry (registryOf l) := by
  -- By induction on what is still to be registered, from any registry of the kind.
  have hfold : ∀ (l : List (String × Scripts)) (r : Registry), GatewayRegistry r →
      (∀ p ∈ l, allGateway p.2.up = true ∧ allGateway p.2.down = true) →
      GatewayRegistry (l.foldl (fun r p => ((r.register p.1 p.2).toOption).getD r) r) := by
    intro l
    induction l with
    | nil => exact fun r hr _ => hr
    | cons p l ih =>
      intro r hr hl
      obtain ⟨⟨hup, hdown⟩, hl⟩ := List.forall_mem_cons.1 hl
      refine ih _ ?_ hl
      show GatewayRegistry (((r.register p.1 p.2).toOption).getD r)
      cases hregister : r.register p.1 p.2 with
      | error e => exact hr
      | ok r' => exact hr.register hup hdown hregister
  exact hfold l .empty .empty h

/-- A manager of such a registry, whose migrations are found in the registry or in a
directory. -/
structure OfGateway (m : Manager) : Prop where
  registry : GatewayRegistry m.registry
  available : m.available = .ok m.registry.filenames ∨
    ∃ files directory, m.available = (discover files directory).map fun fs => fs.map (·.filename)

theorem GatewayRegistry.of_mem {r : Registry} (h : GatewayRegistry r)
    {e : String × String × Scripts} (he : e ∈ r.entries.entries) :
    Parses e.2.1 ∧ ∀ direction, allGateway (e.2.2.toward direction) = true := by
  induction h with
  | empty => exact absurd he List.not_mem_nil
  | @register r r' file scripts _ hup hdown hr ih =>
    rw [Registry.register] at hr
    split at hr
    · cases hr
    · rename_i f hf
      split at hr
      · cases hr
      · obtain rfl := Except.ok.inj hr
        rcases NameMap.mem_insertEntry he with rfl | he
        · refine ⟨⟨f, ?_⟩, fun direction => ?_⟩
          · rw [(ofFilename_eq_ok hf).1]
            exact hf
          · cases direction with
            | up => exact hup
            | down => exact hdown
        · exact ih he

theorem GatewayRegistry.of_get? {r : Registry} (h : GatewayRegistry r) {file : String}
    {scripts : Scripts} (hget : r.get? file = some scripts) (direction : Direction) :
    allGateway (scripts.toward direction) = true := by
  rw [Registry.get?, NameMap.get?, Option.map_map, Option.map_eq_some_iff] at hget
  obtain ⟨e, he, rfl⟩ := hget
  exact (h.of_mem (List.mem_of_find?_eq_some he)).2 direction

theorem parses_of_mem_discover {files : Files.Tree} {directory : String}
    {found : List MigrationFile} (h : discover files directory = .ok found) {f : MigrationFile}
    (hf : f ∈ found) : Parses f.filename :=
  ⟨_, (isArtifactOf_of_mem h hf).1⟩

theorem OfGateway.parses {m : Manager} (h : OfGateway m) {files : List String}
    (hfiles : m.available = .ok files) {file : String} (hfile : file ∈ files) : Parses file := by
  rcases h.available with havailable | ⟨tree, directory, havailable⟩
  · obtain rfl := Except.ok.inj (havailable.symm.trans hfiles)
    rw [Registry.filenames, NameMap.values, List.map_map] at hfile
    obtain ⟨e, he, rfl⟩ := List.mem_map.1 hfile
    exact (h.registry.of_mem he).1
  · rw [hfiles] at havailable
    cases hdiscover : discover tree directory with
    | error e =>
      rw [hdiscover] at havailable
      cases havailable
    | ok found =>
      rw [hdiscover] at havailable
      obtain rfl := Except.ok.inj havailable
      obtain ⟨f, hf, rfl⟩ := List.mem_map.1 hfile
      exact parses_of_mem_discover hdiscover hf

/-- Whether an error is about one migration that was carried out. -/
def Error.isOfMigration : Error → Bool
  | .executionFailed _ _ _ _ | .alreadyApplied _ => true
  | _ => false

theorem OfGateway.not_isOfMigration {m : Manager} (h : OfGateway m) {e : Error}
    (he : m.available = .error e) : e.isOfMigration = false := by
  rcases h.available with havailable | ⟨tree, directory, havailable⟩
  · cases havailable.symm.trans he
  · rw [he, discover] at havailable
    split at havailable
    · cases havailable
      rfl
    · cases havailable
      rfl
    · cases havailable

/-! ## Scripts of files -/

theorem resolve_cons (m : Manager) (file : String) (files : List String) :
    m.resolve (file :: files) = match m.registry.get? file with
      | some scripts => (m.resolve files).map ((file, scripts) :: ·)
      | none => .error (.notFound file) := by
  rw [Manager.resolve, List.mapM_cons]
  cases m.registry.get? file with
  | none => rfl
  | some scripts =>
    show (m.resolve files >>= fun l => pure ((file, scripts) :: l)) = _
    cases m.resolve files with
    | error e => rfl
    | ok l => rfl

theorem resolve_eq_ok {m : Manager} {files : List String} {l : List (String × Scripts)}
    (h : m.resolve files = .ok l) :
    l.map Prod.fst = files ∧ ∀ p ∈ l, m.registry.get? p.1 = some p.2 := by
  induction files generalizing l with
  | nil =>
    obtain rfl := Except.ok.inj h
    exact ⟨rfl, fun p hp => absurd hp List.not_mem_nil⟩
  | cons file files ih =>
    rw [resolve_cons] at h
    cases hget : m.registry.get? file with
    | none =>
      rw [hget] at h
      cases h
    | some scripts =>
      rw [hget] at h
      cases hrest : m.resolve files with
      | error e =>
        rw [hrest] at h
        cases h
      | ok rest =>
        rw [hrest] at h
        obtain rfl := Except.ok.inj h
        obtain ⟨hfst, hall⟩ := ih hrest
        exact ⟨congrArg (file :: ·) hfst, List.forall_mem_cons.2 ⟨hget, hall⟩⟩

theorem resolve_of_get? {m : Manager} {l : List (String × Scripts)}
    (h : ∀ p ∈ l, m.registry.get? p.1 = some p.2) : m.resolve (l.map Prod.fst) = .ok l := by
  induction l with
  | nil => rfl
  | cons p l ih =>
    obtain ⟨hp, hl⟩ := List.forall_mem_cons.1 h
    rw [List.map_cons, resolve_cons, hp, ih hl]
    rfl

theorem contains_eq_isSome (r : Registry) (file : String) :
    r.contains file = (r.get? file).isSome := by
  rw [Registry.contains, NameMap.contains, Registry.get?, Option.isSome_map]

/-- What is found for files is made of gateway calls. -/
theorem GatewayRegistry.of_resolve {m : Manager} (h : GatewayRegistry m.registry)
    {files : List String} {l : List (String × Scripts)} (hl : m.resolve files = .ok l)
    (direction : Direction) : ∀ p ∈ l, allGateway (p.2.toward direction) = true :=
  fun p hp => h.of_get? ((resolve_eq_ok hl).2 p hp) direction

/-- The first file that is not registered is the one that is not found. -/
theorem resolve_eq_error {m : Manager} {files : List String} {e : Error}
    (h : m.resolve files = .error e) :
    ∃ before file after, files = before ++ file :: after ∧
      (∀ f ∈ before, m.registry.contains f = true) ∧ m.registry.contains file = false ∧
      e = .notFound file := by
  induction files with
  | nil => cases h
  | cons file files ih =>
    rw [resolve_cons] at h
    have hcontains := contains_eq_isSome m.registry file
    cases hget : m.registry.get? file with
    | none =>
      rw [hget] at h hcontains
      refine ⟨[], file, files, rfl, fun f hf => absurd hf List.not_mem_nil, hcontains, ?_⟩
      exact (Except.error.inj h).symm
    | some scripts =>
      rw [hget] at h hcontains
      -- The file itself is there, so the first that is missing is among the others.
      cases hrest : m.resolve files with
      | error e' =>
        rw [hrest] at h
        obtain rfl := Except.error.inj h
        obtain ⟨before, f, after, rfl, hbefore, hf, he⟩ := ih hrest
        exact ⟨file :: before, f, after, rfl, List.forall_mem_cons.2 ⟨hcontains, hbefore⟩, hf, he⟩
      | ok rest =>
        rw [hrest] at h
        cases h

/-- The manager with another registry in place of its own. -/
def Manager.withRegistry (m : Manager) (r : Registry) : Manager := { m with registry := r }

/-- Whether files are registered decides alone whether they are all found, and which is
the first that is not. -/
theorem resolve_withRegistry {m : Manager} {r : Registry}
    (h : ∀ file, r.contains file = m.registry.contains file) (files : List String) :
    (∃ e, m.resolve files = .error e ∧ (m.withRegistry r).resolve files = .error e) ∨
      ∃ l l', m.resolve files = .ok l ∧ (m.withRegistry r).resolve files = .ok l' := by
  induction files with
  | nil => exact .inr ⟨[], [], rfl, rfl⟩
  | cons file files ih =>
    rw [resolve_cons, resolve_cons]
    have hsame := h file
    rw [contains_eq_isSome, contains_eq_isSome] at hsame
    show (∃ e, _ ∧ (match r.get? file with
      | some scripts => ((m.withRegistry r).resolve files).map ((file, scripts) :: ·)
      | none => .error (.notFound file)) = _) ∨ ∃ l l', _ ∧ (match r.get? file with
      | some scripts => ((m.withRegistry r).resolve files).map ((file, scripts) :: ·)
      | none => .error (.notFound file)) = _
    -- Both registries have the file or neither has, whatever its scripts are.
    cases hget : m.registry.get? file with
    | none =>
      rw [hget, Option.isSome_none, Option.isSome_eq_false_iff, Option.isNone_iff_eq_none] at hsame
      rw [hsame]
      exact .inl ⟨_, rfl, rfl⟩
    | some scripts =>
      rw [hget, Option.isSome_some, Option.isSome_iff_exists] at hsame
      obtain ⟨scripts', hscripts'⟩ := hsame
      rw [hscripts']
      rcases ih with ⟨e, he, he'⟩ | ⟨l, l', hl, hl'⟩
      · rw [he, he']
        exact .inl ⟨e, rfl, rfl⟩
      · rw [hl, hl']
        exact .inr ⟨_, _, rfl, rfl⟩

theorem eq_append_of_get? {get : String → Option Scripts} {front rest l : List (String × Scripts)}
    (hfst : l.map Prod.fst = (front ++ rest).map Prod.fst)
    (hfront : ∀ p ∈ front, get p.1 = some p.2) (hl : ∀ p ∈ l, get p.1 = some p.2) :
    ∃ rest', l = front ++ rest' := by
  induction front generalizing l with
  | nil => exact ⟨l, rfl⟩
  | cons p front ih =>
    cases l with
    | nil => cases hfst
    | cons q l =>
      obtain ⟨hhead, htail⟩ := List.cons.inj hfst
      obtain ⟨hp, hfront⟩ := List.forall_mem_cons.1 hfront
      obtain ⟨hq, hl⟩ := List.forall_mem_cons.1 hl
      have hpq : q = p := by
        rw [hhead, hp] at hq
        exact Prod.ext hhead (Option.some.inj hq).symm
      obtain ⟨rest', rfl⟩ := ih htail hfront hl
      exact ⟨rest', by rw [hpq, List.cons_append]⟩

/-- Registries with the same scripts for the first of some files resolve them alike. -/
theorem resolve_append {m : Manager} {r : Registry} {files : List String}
    {front rest l : List (String × Scripts)} (h : m.resolve files = .ok (front ++ rest))
    (h' : (m.withRegistry r).resolve files = .ok l)
    (hfront : ∀ p ∈ front, r.get? p.1 = m.registry.get? p.1) : ∃ rest', l = front ++ rest' := by
  obtain ⟨hfst, hget⟩ := resolve_eq_ok h
  obtain ⟨hfst', hget'⟩ := resolve_eq_ok h'
  refine eq_append_of_get? (hfst'.trans hfst.symm) (fun p hp => ?_) hget'
  exact (hfront p hp).trans (hget p (List.mem_append_left _ hp))

/-! ## Choosing and carrying out -/

section
variable {σ : Type} [Connection σ]

/-- What to run: the number of the batch and the pending files. -/
def runChoice (m : Manager) (limit : Option Nat) : Task σ (Int × List String) := do
  Task.ofAction (Ledger.ensure m.ledgerTable)
  let entries ← Task.ofAction (Ledger.entries m.ledgerTable)
  let files ← Task.ofExcept (m.pending entries limit)
  return (lastBatch entries + 1, files)

/-- What to revert: the files of selected rows, the latest first. The number of the
batch does not matter. -/
def revertChoice (m : Manager) (select : List LedgerEntry → List LedgerEntry) :
    Task σ (Int × List String) := do
  match ← m.appliedEntries with
  | none => return (0, [])
  | some entries => return (0, Manager.reversed (select entries))

/-- Executes the migrations of chosen files, if all are registered. -/
def carryOut (m : Manager) (direction : Direction) (choice : Task σ (Int × List String)) :
    Task σ (List String) := do
  let p ← choice
  let l ← Task.ofExcept (m.resolve p.2)
  m.executeEach direction p.1 [] l

/-- The files of which carrying out a choice completes the migrations. -/
def carriedOut (m : Manager) (direction : Direction) (choice : Task σ (Int × List String)) (s : σ) :
    List String :=
  match choice.run s with
  | (.ok p, s') => match m.resolve p.2 with
    | .ok l => completions m direction p.1 [] l s'
    | .error _ => []
  | (.error _, _) => []

/-- The rows whose batch is among the latest. -/
def ofLatest (steps : Nat) (entries : List LedgerEntry) : List LedgerEntry :=
  entries.filter fun e => (Manager.latestBatches steps entries).contains e.batch

/-- Work that succeeded has made a choice, found its migrations and executed them. -/
theorem carryOut_eq_ok {m : Manager} {direction : Direction}
    {choice : Task σ (Int × List String)} {s s' : σ} {names : List String}
    (h : (carryOut m direction choice).run s = (.ok names, s')) :
    ∃ batch files start l, choice.run s = (.ok (batch, files), start) ∧ m.resolve files = .ok l ∧
      (m.executeEach direction batch [] l).run start = (.ok names, s') := by
  rw [carryOut] at h
  obtain ⟨⟨batch, files⟩, start, hchoice, hrest⟩ := Task.of_run_bind h
  obtain ⟨l, start', hresolved, heach⟩ := Task.of_run_bind hrest
  rw [Task.run_ofExcept] at hresolved
  obtain ⟨hresolve, rfl⟩ := Prod.mk.inj hresolved
  exact ⟨batch, files, start, l, hchoice, hresolve, heach⟩

theorem runPending_eq (m : Manager) (limit : Option Nat) :
    (m.runPending limit : Task σ (List String)) = carryOut m .up (runChoice m limit) := by
  rw [Manager.runPending, carryOut, runChoice]
  simp only [bind_assoc, pure_bind]
  refine bind_congr fun _ => bind_congr fun entries => bind_congr fun files => ?_
  by_cases hfiles : files = []
  · rw [if_pos hfiles, hfiles]
    rfl
  · rw [if_neg hfiles]

/-- Without a ledger table nothing is chosen, so nothing is carried out. -/
theorem revertSelected_eq (m : Manager) (select : List LedgerEntry → List LedgerEntry) :
    (do match ← m.appliedEntries with
      | none => return []
      | some entries => m.revert (select entries) : Task σ (List String)) =
      carryOut m .down (revertChoice m select) := by
  rw [carryOut, revertChoice]
  simp only [bind_assoc]
  refine bind_congr fun entries => ?_
  cases entries with
  | none => rfl
  | some entries => rfl

theorem run_eq (m : Manager) (limit : Option Nat) :
    (m.run limit : Task σ (List String)) =
      if limit = some 0 then pure [] else m.locked (carryOut m .up (runChoice m limit)) := by
  rw [Manager.run, runPending_eq]

theorem rollback_eq (m : Manager) (steps : Nat) :
    (m.rollback steps : Task σ (List String)) =
      if steps = 0 then pure []
      else m.locked (carryOut m .down (revertChoice m (ofLatest steps))) := by
  rw [Manager.rollback, ← revertSelected_eq]
  rfl

theorem reset_eq (m : Manager) :
    (m.reset : Task σ (List String)) = m.locked (carryOut m .down (revertChoice m id)) := by
  rw [Manager.reset, ← revertSelected_eq]
  rfl

end

/-! ## Choices on a database in memory -/

theorem ensure_sameLedger (db : Memory) (table : String) :
    SameLedger db ((Ledger.ensure table : Action Memory Unit).run db).2 := by
  rw [Ledger.ensure, run_statement, execute_eq]
  split
  · exact (SameLedger.refl db).noted _
  · obtain ⟨columns, hread⟩ := read_createLedgerSql db.ledgerTable table
    rw [hread]
    exact ((SameLedger.refl db).noted _).trans (perform_change _ _ _).1

/-- To make sure of the ledger fails with its statement, or leaves a table of the name. -/
theorem run_ensure (db : Memory) (table : String) :
    ∃ columns, (Ledger.ensure table : Action Memory Unit).run db =
      if db.isBoundToFail (createLedgerSql table) then
        (.error (injected (createLedgerSql table)), db.noted (createLedgerSql table))
      else (.ok (), { db.noted (createLedgerSql table) with
        saved := none
        tables := if db.hasTable table then db.tables else db.tables.insert table columns }) := by
  obtain ⟨columns, hread⟩ := read_createLedgerSql db.ledgerTable table
  refine ⟨columns.map fun c => (String.ofList c.1, String.ofList c.2), ?_⟩
  rw [Ledger.ensure, run_statement, execute_eq, hread, perform]
  by_cases hbound : db.isBoundToFail (createLedgerSql table) = true
  · rw [if_pos hbound, if_pos hbound]
    rfl
  rw [if_neg hbound, if_neg hbound, changeSchema, String.ofList_toList]
  by_cases hthere : db.hasTable table = true
  · have hthere' : ({ db.noted (createLedgerSql table) with saved := none } : Memory).hasTable
        table = true := hthere
    rw [if_pos hthere', if_pos hthere]
    rfl
  · have hthere' : ¬({ db.noted (createLedgerSql table) with saved := none } : Memory).hasTable
        table = true := hthere
    rw [if_neg hthere', if_neg hthere]
    rfl

/-- Where there is a table of the name, to make sure of it changes no table. -/
theorem ensure_keeps_schema {db start : Memory} {table : String}
    (h : (Ledger.ensure table : Action Memory Unit).run db = (.ok (), start)) :
    start.catalog = db.catalog ∧ (db.hasTable table = true → start.tables = db.tables) := by
  obtain ⟨columns, hrun⟩ := run_ensure db table
  rw [hrun] at h
  split at h
  · cases h
  · obtain rfl := (Prod.mk.inj h).2
    exact ⟨rfl, fun hthere => if_pos hthere⟩

/-- What can become of a choice: it fails, and not for what a migration did, or it
answers with files that have names. -/
inductive Chosen (choice : Task Memory (Int × List String)) (db : Memory) : Prop
  | failed {e : Error} {db' : Memory} (run : choice.run db = (.error e, db'))
      (same : SameLedger db db') (cause : e.isOfMigration = false)
  | answered {batch : Int} {files : List String} {db' : Memory}
      (run : choice.run db = (.ok (batch, files), db')) (same : SameLedger db db')
      (quoted : files ≠ [] → QuotedAsIs db.ledgerTable) (named : ∀ file ∈ files, file ≠ "")

theorem pending_eq_ok {m : Manager} {entries : List LedgerEntry} {limit : Option Nat}
    {files : List String} (h : m.pending entries limit = .ok files) :
    ∃ available, m.available = .ok available ∧ ∀ file ∈ files, file ∈ available := by
  rw [Manager.pending] at h
  cases havailable : m.available with
  | error e =>
    rw [havailable] at h
    cases h
  | ok available =>
    rw [havailable] at h
    obtain rfl := Except.ok.inj h
    refine ⟨available, rfl, fun file hfile => ?_⟩
    cases limit with
    | none => exact (List.mem_filter.1 hfile).1
    | some n => exact (List.mem_filter.1 (List.mem_of_mem_take hfile)).1

/-- Files that are waiting have names of artifacts. -/
theorem OfGateway.parses_of_pending {m : Manager} (hm : OfGateway m) {entries : List LedgerEntry}
    {limit : Option Nat} {files : List String} (h : m.pending entries limit = .ok files)
    {file : String} (hfile : file ∈ files) : Parses file := by
  obtain ⟨available, havailable, hmem⟩ := pending_eq_ok h
  exact hm.parses havailable (hmem file hfile)

theorem pending_eq_error {m : Manager} {entries : List LedgerEntry} {limit : Option Nat}
    {e : Error} (h : m.pending entries limit = .error e) : m.available = .error e := by
  rw [Manager.pending] at h
  cases havailable : m.available with
  | error e' =>
    rw [havailable] at h
    rw [Except.error.inj h]
  | ok available =>
    rw [havailable] at h
    cases h

/-- What a choice has read that succeeded, whatever the name of the table. -/
theorem runChoice_eq_ok {m : Manager} {limit : Option Nat} {db start : Memory} {batch : Int}
    {files : List String} (hcanned : db.canned = ∅)
    (h : (runChoice m limit).run db = (.ok (batch, files), start)) :
    (Ledger.ensure m.ledgerTable).run db = (.ok (), start) ∧ SameLedger db start ∧
      (Ledger.entries m.ledgerTable).run start = (.ok (db.ledger.map entryOf), start) ∧
      m.pending (db.ledger.map entryOf) limit = .ok files ∧
      batch = lastBatch (db.ledger.map entryOf) + 1 := by
  rw [runChoice] at h
  obtain ⟨⟨⟩, mid, hensure, h⟩ := Task.of_run_bind h
  replace hensure := Task.of_run_ofAction hensure
  have hsame : SameLedger db mid := by
    have h := ensure_sameLedger db m.ledgerTable
    rwa [hensure] at h
  obtain ⟨entries, mid', hentries, h⟩ := Task.of_run_bind h
  replace hentries := Task.of_run_ofAction hentries
  obtain ⟨rfl, rfl, -⟩ := entries_eq_ok (hsame.canned.trans hcanned) hentries
  rw [hsame.ledger] at hentries h
  obtain ⟨files', mid'', hchosen, h⟩ := Task.of_run_bind h
  rw [Task.run_ofExcept] at hchosen
  obtain ⟨hpending, rfl⟩ := Prod.mk.inj hchosen
  obtain ⟨hanswer, rfl⟩ := Prod.mk.inj h
  obtain ⟨rfl, rfl⟩ := Prod.mk.inj (Except.ok.inj hanswer)
  exact ⟨hensure, hsame, hentries, hpending, rfl⟩

/-- The pending files are chosen from the ledger as it is, under the next batch. -/
theorem runChoice_cases {m : Manager} (hm : OfGateway m) {db : Memory}
    (htable : m.ledgerTable = db.ledgerTable) (hcanned : db.canned = ∅) (limit : Option Nat) :
    (∃ e db', (runChoice m limit).run db = (.error e, db') ∧ SameLedger db db' ∧
        e.isOfMigration = false) ∨
      ∃ files, m.pending (db.ledger.map entryOf) limit = .ok files ∧
        (runChoice m limit).run db = (.ok (lastBatch (db.ledger.map entryOf) + 1, files),
          ((Ledger.ensure m.ledgerTable).run db).2) ∧ QuotedAsIs db.ledgerTable := by
  -- To make sure of the ledger can add the table, but no row, so what is pending is decided by the
  -- rows from before.
  have hensure := ensure_sameLedger db m.ledgerTable
  have hstep : (Task.ofAction (Ledger.ensure m.ledgerTable)).run db =
      (((Ledger.ensure m.ledgerTable).run db).1.mapError .database,
        ((Ledger.ensure m.ledgerTable : Action Memory Unit).run db).2) := rfl
  rw [runChoice, Task.run_bind, hstep]
  generalize (Ledger.ensure m.ledgerTable : Action Memory Unit).run db = ensured at hensure
  obtain ⟨_ | _, db₁⟩ := ensured
  · exact .inl ⟨_, _, rfl, hensure, rfl⟩
  have htable₁ : m.ledgerTable = db₁.ledgerTable := htable.trans hensure.ledgerTable.symm
  have hread : (Task.ofAction (Ledger.entries m.ledgerTable)).run db₁ =
      (((Ledger.entries db₁.ledgerTable).run db₁).1.mapError .database,
        ((Ledger.entries db₁.ledgerTable).run db₁).2) := by
    rw [← htable₁]
    rfl
  dsimp only [Except.mapError]
  rw [Task.run_bind, hread]
  rcases entries_cases (hensure.canned.trans hcanned) with ⟨e, he⟩ | ⟨hentries, hquoted⟩
  · rw [he]
    exact .inl ⟨_, _, rfl, hensure, rfl⟩
  rw [hentries, hensure.ledger]
  rw [hensure.ledgerTable] at hquoted
  dsimp only [Except.mapError]
  rw [Task.run_bind, Task.run_ofExcept]
  cases hpending : m.pending (db.ledger.map entryOf) limit with
  | error e => exact .inl ⟨e, db₁, rfl, hensure, hm.not_isOfMigration (pending_eq_error hpending)⟩
  | ok files => exact .inr ⟨files, rfl, rfl, hquoted⟩

theorem run_isPresent {db : Memory} (hcanned : db.canned = ∅) (table : String) :
    (Ledger.isPresent table).run db =
      (if db.isBoundToFail Catalog.hasTableSql then .error (injected Catalog.hasTableSql)
        else .ok (db.hasTable table), db) := by
  have hcounted : isCounted (some (Row.ofFields [("aggregate", count (db.hasTable table))])) =
      db.hasTable table := by
    cases db.hasTable table with
    | true => rfl
    | false => rfl
  rw [Ledger.isPresent, Schema.hasTable, queryOne, bind_assoc, Action.run_bind, run_query,
    Memory.query, answer_hasTableSql hcanned]
  by_cases hbound : db.isBoundToFail Catalog.hasTableSql = true
  · rw [if_pos hbound, if_pos hbound]
  · rw [if_neg hbound, if_neg hbound]
    show (Except.ok (isCounted _), db) = _
    rw [List.head?_cons, hcounted]

theorem appliedEntries_cases {m : Manager} {db : Memory} (htable : m.ledgerTable = db.ledgerTable)
    (hcanned : db.canned = ∅) :
    (∃ e, m.appliedEntries.run db = (.error (.database e), db)) ∨
      m.appliedEntries.run db = (.ok none, db) ∧ db.hasTable db.ledgerTable = false ∨
      m.appliedEntries.run db = (.ok (some (db.ledger.map entryOf)), db) ∧
        QuotedAsIs db.ledgerTable := by
  rw [Manager.appliedEntries, Task.run_bind, Task.run_ofAction, htable, run_isPresent hcanned]
  by_cases hbound : db.isBoundToFail Catalog.hasTableSql = true
  · rw [if_pos hbound]
    exact .inl ⟨_, rfl⟩
  rw [if_neg hbound]
  dsimp only [Except.mapError]
  cases hthere : db.hasTable db.ledgerTable with
  | false => exact .inr (.inl ⟨rfl, rfl⟩)
  | true =>
    rw [if_pos rfl, Task.run_bind, Task.run_ofAction]
    rcases entries_cases hcanned with ⟨e, he⟩ | ⟨hentries, hquoted⟩
    · rw [he]
      exact .inl ⟨e, rfl⟩
    · rw [hentries]
      exact .inr (.inr ⟨rfl, hquoted⟩)

/-- Where it can be asked for the ledger, a database tells the rows that it has. -/
theorem appliedEntries_of_entries {m : Manager} {db : Memory} (hcanned : db.canned = ∅)
    (hask : db.isBoundToFail Catalog.hasTableSql = false)
    (hledger : db.ledger ≠ [] → db.hasTable m.ledgerTable = true)
    (hentries : db.hasTable m.ledgerTable = true →
      (Ledger.entries m.ledgerTable).run db = (.ok (db.ledger.map entryOf), db)) :
    ∃ entries, m.appliedEntries.run db = (.ok entries, db) ∧
      entries.getD [] = db.ledger.map entryOf := by
  rw [Manager.appliedEntries, Task.run_bind, Task.run_ofAction, run_isPresent hcanned, hask,
    if_neg Bool.false_ne_true]
  dsimp only [Except.mapError]
  cases hthere : db.hasTable m.ledgerTable with
  | true =>
    rw [if_pos rfl, Task.run_bind, Task.run_ofAction, hentries hthere]
    exact ⟨_, rfl, rfl⟩
  | false =>
    refine ⟨none, rfl, ?_⟩
    have hnone : db.ledger = [] := Classical.byContradiction fun hrows =>
      Bool.false_ne_true (hthere.symm.trans (hledger hrows))
    rw [hnone]
    rfl

/-- What a run has read of the ledger could be read before it, if the table was there. -/
theorem entries_of_runChoice {m : Manager} {limit : Option Nat} {db start : Memory} {batch : Int}
    {files : List String} (hcanned : db.canned = ∅)
    (h : (runChoice m limit).run db = (.ok (batch, files), start))
    (hthere : db.hasTable m.ledgerTable = true) :
    (Ledger.entries m.ledgerTable).run db = (.ok (db.ledger.map entryOf), db) := by
  obtain ⟨hensure, hsame, hread, -⟩ := runChoice_eq_ok hcanned h
  obtain ⟨-, -, hbound, hreads, htable⟩ := entries_eq_ok (hsame.canned.trans hcanned) hread
  have hreads' : start.readsLedger (ledgerEntriesSql m.ledgerTable) =
      db.readsLedger (ledgerEntriesSql m.ledgerTable) := by
    rw [readsLedger, hsame.ledgerTable]
    rfl
  rw [hsame.isBoundToFail] at hbound
  rw [hreads'] at hreads
  rw [(ensure_keeps_schema hensure).2 hthere, hsame.ledgerTable] at htable
  rw [run_entries hcanned, hbound, if_neg Bool.false_ne_true, if_pos hreads, if_pos htable]

/-- The rows to revert are chosen from the ledger as it is; no row is there without a
ledger table. -/
theorem revertChoice_cases {m : Manager} {db : Memory} (htable : m.ledgerTable = db.ledgerTable)
    (hcanned : db.canned = ∅) (select : List LedgerEntry → List LedgerEntry) :
    (∃ e, (revertChoice m select).run db = (.error (.database e), db)) ∨
      (revertChoice m select).run db = (.ok (0, []), db) ∧ db.hasTable db.ledgerTable = false ∨
      (revertChoice m select).run db =
          (.ok (0, Manager.reversed (select (db.ledger.map entryOf))), db) ∧
        QuotedAsIs db.ledgerTable := by
  rw [revertChoice, Task.run_bind]
  rcases appliedEntries_cases htable hcanned with ⟨e, he⟩ | ⟨hnone, habsent⟩ | ⟨hsome, hquoted⟩
  · rw [he]
    exact .inl ⟨e, rfl⟩
  · rw [hnone]
    exact .inr (.inl ⟨rfl, habsent⟩)
  · rw [hsome]
    exact .inr (.inr ⟨rfl, hquoted⟩)

theorem mem_reversed {rows : List LedgerEntry} {file : String}
    (h : file ∈ Manager.reversed rows) : ∃ e ∈ rows, e.migration = file := by
  rw [Manager.reversed] at h
  obtain ⟨e, he, rfl⟩ := List.mem_map.1 h
  exact ⟨e, List.mem_mergeSort.1 (List.mem_reverse.1 he), rfl⟩

theorem runChoice_chosen {m : Manager} (hm : OfGateway m) {db : Memory}
    (htable : m.ledgerTable = db.ledgerTable) (hcanned : db.canned = ∅) (limit : Option Nat) :
    Chosen (runChoice m limit) db := by
  rcases runChoice_cases hm htable hcanned limit with
    ⟨e, db', hrun, hsame, he⟩ | ⟨files, hpending, hrun, hquoted⟩
  · exact .failed hrun hsame he
  · exact .answered hrun (ensure_sameLedger db m.ledgerTable) (fun _ => hquoted)
      fun file hfile => (hm.parses_of_pending hpending hfile).ne_empty

theorem revertChoice_chosen {m : Manager} {db : Memory} (htable : m.ledgerTable = db.ledgerTable)
    (hcanned : db.canned = ∅) (hnamed : Named db) {select : List LedgerEntry → List LedgerEntry}
    (hselect : ∀ rows, ∀ e ∈ select rows, e ∈ rows) : Chosen (revertChoice m select) db := by
  rcases revertChoice_cases htable hcanned select with ⟨e, hrun⟩ | ⟨hrun, -⟩ | ⟨hrun, hquoted⟩
  · exact .failed hrun (.refl db) rfl
  · exact .answered hrun (.refl db) (fun h => absurd rfl h) fun file hfile =>
      absurd hfile List.not_mem_nil
  · refine .answered hrun (.refl db) (fun _ => hquoted) fun file hfile => ?_
    obtain ⟨e, he, rfl⟩ := mem_reversed hfile
    obtain ⟨r, hr, rfl⟩ := List.mem_map.1 (hselect _ e he)
    exact hnamed r hr

end SchemaMigration.Migration
