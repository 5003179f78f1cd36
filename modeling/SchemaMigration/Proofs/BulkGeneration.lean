import SchemaMigration.Proofs.GeneratorCalls
import SchemaMigration.Proofs.InspectedTables
import SchemaMigration.Proofs.Inspection
import SchemaMigration.Proofs.CanonicalOrder
import SchemaMigration.Proofs.ReducedDescriptions

/-
  Artifacts for all tables.

  All tables are inspected before the first artifact is written, so one that cannot be
  told keeps the files as they are. Every table that is told has its place in the order
  of references, and one artifact is written for each, under versions that grow. So the
  artifact of a table comes behind those of the tables it refers to.

  Writing may break off for a fault of the file system, or because a version does not fit
  into fourteen digits. No name of a table makes it break off.

  Main statements: `writeSnapshot_cases`, one artifact; `writeEach_cases`, one for each
  table; `generateAllFrom_eq`, the order in which the structures are gone through does not
  matter; `generateAll_complete`.
-/
namespace SchemaMigration.Generation

open Text Sql Table Database Schema Catalog Source Migration Files
open Database.Memory

/-! ## Names of artifacts -/

/-- Whatever a table is called, there is a description for its creation. -/
theorem normalized_creation (table : String) :
    ∃ description, normalized ("create_" ++ table ++ "_table") = .ok description ∧
      description.toList ≠ [] ∧ ∀ c ∈ description.toList, isNameChar c = true := by
  rcases normalized_cases ("create_" ++ table ++ "_table") with
    ⟨hnone, -⟩ | ⟨-, description, hdescription, hreduced⟩
  · have hfirst : 'c' ∈ ("create_" ++ table ++ "_table").toList := by simp
    exact absurd (hnone 'c' hfirst) (by decide)
  · exact ⟨description, hdescription, hreduced.ne_nil, hreduced.isNameChar⟩

namespace Generator

variable {σ : Type}

/-! ## One artifact -/

/-- A file is the artifact that rebuilds a table. -/
def Rebuilds (g : Generator) (files : Tree) (s : Snapshot) (file : MigrationFile) : Prop :=
  ∃ description, normalized ("create_" ++ s.table ++ "_table") = .ok description ∧
    file.filename = MigrationFile.format file.version description ∧
    files.at? (placeIn g.directory file.filename) =
      some (.file (g.template (Artifact.ofSnapshot (structName description) s)))

/-- Writing broke off for a fault of the file system, or as a version has too many digits. -/
def BrokeOff {α : Type} (r : Except Migration.Error α × Workspace σ) : Prop :=
  (∃ path f, r.1 = .error (.io path f)) ∨ (∃ e, r.1 = .error e) ∧ 10 ^ 14 ≤ r.2.lastVersion

theorem BrokeOff.bind {α β : Type} {x : Work σ α} {w : Workspace σ} (h : BrokeOff (x.run w))
    (f : α → Work σ β) : BrokeOff ((x >>= f).run w) := by
  rcases hrun : x.run w with ⟨r, w'⟩
  rw [hrun] at h
  rcases h with ⟨path, fault, rfl⟩ | ⟨⟨e, rfl⟩, hlong⟩
  · rw [Task.run_bind_error hrun]
    exact .inl ⟨path, fault, rfl⟩
  · rw [Task.run_bind_error hrun]
    exact .inr ⟨⟨e, rfl⟩, hlong⟩

/-- The artifact that rebuilds a table is written unless writing breaks off. -/
theorem writeSnapshot_cases (g : Generator) (now : Int) (s : Snapshot) (w : Workspace σ) :
    (∃ file, ((g.writeSnapshot now s).run w).1 = .ok file ∧
      g.Rebuilds ((g.writeSnapshot now s).run w).2.files s file) ∨
    BrokeOff ((g.writeSnapshot now s).run w) := by
  obtain ⟨description, hdescription, hne, hname⟩ := normalized_creation s.table
  have hwrite : g.writeSnapshot (σ := σ) now s =
      g.write now description (Artifact.ofSnapshot (structName description) s) := by
    rw [writeSnapshot, hdescription]
  rw [hwrite, ExceptT.run, write]
  generalize nextVersion (max w.lastVersion (g.versionOnDisk w.files)) now = version
  simp only
  split
  -- A filename that cannot be read back has a version of more than fourteen digits.
  · next f hbad =>
    refine .inr (.inr ⟨⟨_, rfl⟩, Nat.le_of_not_lt fun hlt => ?_⟩)
    rw [ofFilename_format hlt hne hname] at hbad
    cases hbad
  · next file hfile =>
    split
    · exact .inr (.inl ⟨_, _, rfl⟩)
    · next made hmake =>
      split
      · exact .inr (.inl ⟨_, _, rfl⟩)
      · next after hcreate =>
        obtain ⟨hfilename, -⟩ := ofFilename_eq_ok hfile
        obtain ⟨-, -, rfl⟩ := Tree.create_join_eq_ok (isPlain_of_ofFilename hfile) hcreate
        refine .inl ⟨_, rfl, description, hdescription, ?_, ?_⟩
        · simp only [hfilename, version_of_format hfile]
        · simp only [hfilename]
          exact Tree.at?_putAt _ (by simp [placeIn])

/-! ## One artifact for each table -/

/-- What it does to the files to write artifacts one after the other. -/
structure Written (g : Generator) (before after : Tree) (l : List (Snapshot × MigrationFile)) :
    Prop where
  artifact : ∀ p ∈ l, IsArtifactOf g.directory p.2
  rebuilds : ∀ p ∈ l, g.Rebuilds after p.1 p.2
  vacant : ∀ p ∈ l, before.at? (placeIn g.directory p.2.filename) = none
  others : ∀ place, (∀ p ∈ l, place ≠ placeIn g.directory p.2.filename) →
    after.at? place = before.at? place ∨
      (before.at? place = none ∧ after.at? place = some .directory)
  ascending : l.Pairwise fun p q => p.2.filename < q.2.filename

theorem Written.nil (g : Generator) (files : Tree) : Written g files files [] where
  artifact := fun _ hp => absurd hp List.not_mem_nil
  rebuilds := fun _ hp => absurd hp List.not_mem_nil
  vacant := fun _ hp => absurd hp List.not_mem_nil
  others := fun _ _ => .inl rfl
  ascending := .nil

theorem Written.cons {g : Generator} {before made after : Tree} {s : Snapshot}
    {file : MigrationFile} {l : List (Snapshot × MigrationFile)}
    (hadds : Adds g.directory before made file) (hrebuilds : g.Rebuilds made s file)
    (h : Written g made after l) (hlater : ∀ p ∈ l, file.version < p.2.version) :
    Written g before after ((s, file) :: l) := by
  have hthere : made.at? (placeIn g.directory file.filename) ≠ none := by
    obtain ⟨text, htext⟩ := hadds.written
    rw [htext]
    exact Option.some_ne_none _
  -- the place of the first artifact is taken when the others are written
  have hplace : ∀ p ∈ l, placeIn g.directory p.2.filename ≠ placeIn g.directory file.filename :=
    fun p hp heq => hthere (heq ▸ h.vacant p hp)
  have hkept : after.at? (placeIn g.directory file.filename) =
      made.at? (placeIn g.directory file.filename) :=
    (h.others _ fun p hp heq => hplace p hp heq.symm).resolve_right fun hnone => hthere hnone.1
  constructor
  · exact List.forall_mem_cons.2 ⟨hadds.artifact, h.artifact⟩
  · refine List.forall_mem_cons.2 ⟨?_, h.rebuilds⟩
    obtain ⟨description, hdescription, hfilename, htext⟩ := hrebuilds
    exact ⟨description, hdescription, hfilename, hkept.trans htext⟩
  · refine List.forall_mem_cons.2 ⟨hadds.vacant, fun p hp => ?_⟩
    have hvacant := h.vacant p hp
    rcases hadds.others _ (hplace p hp) with hsame | ⟨hnone, -⟩
    · exact hsame ▸ hvacant
    · exact hnone
  · intro place hne
    obtain ⟨hfirst, hrest⟩ := List.forall_mem_cons.1 hne
    rcases h.others place hrest with hsame | ⟨hnone, hmade⟩
    · rw [hsame]
      exact hadds.others place hfirst
    · rcases hadds.others place hfirst with hbefore | ⟨-, hdirectory⟩
      · exact .inr ⟨hbefore ▸ hnone, hmade⟩
      · rw [hdirectory] at hnone
        cases hnone
  · refine .cons (fun p hp => ?_) h.ascending
    exact filename_lt_of_version_lt hadds.artifact.1 (h.artifact p hp).1 (hlater p hp)

/-- Artifacts for all tables are written, in turn, unless writing breaks off. -/
theorem writeEach_cases (g : Generator) (clock : Nat → Int) (snapshots : List Snapshot)
    (w : Workspace σ) :
    (∃ l : List (Snapshot × MigrationFile), l.map Prod.fst = snapshots ∧
      ((g.writeEach clock snapshots).run w).1 = .ok (l.map Prod.snd) ∧
      Written g w.files ((g.writeEach clock snapshots).run w).2.files l ∧
      ∀ p ∈ l, w.lastVersion < p.2.version) ∨
    BrokeOff ((g.writeEach clock snapshots).run w) := by
  induction snapshots generalizing clock w with
  | nil => exact .inl ⟨[], rfl, rfl, .nil g w.files, fun _ hp => absurd hp List.not_mem_nil⟩
  | cons s rest ih =>
    -- The version that one artifact gets is issued, and later ones are above all that are issued.
    have hkeeps := g.writeSnapshot_keeps (clock 0) s w
    rcases hrun : (g.writeSnapshot (clock 0) s).run w with ⟨r, w₁⟩
    have hcases := g.writeSnapshot_cases (clock 0) s w
    rw [hrun] at hkeeps hcases
    obtain ⟨hissued, hkeeps⟩ := hkeeps
    rcases hcases with ⟨file, rfl, hrebuilds⟩ | hbroke
    · obtain ⟨hlater, hversion, hadds⟩ := hkeeps
      rw [writeEach, Task.run_bind_ok hrun]
      rcases ih (fun n => clock (n + 1)) w₁ with ⟨l, rfl, hfiles, hwritten, hversions⟩ | hbroke
      · refine .inl ⟨(s, file) :: l, rfl, ?_⟩
        rw [Task.run_bind_ok (Prod.ext hfiles rfl)]
        refine ⟨rfl, hwritten.cons hadds hrebuilds fun p hp => ?_, ?_⟩
        · rw [hversion]
          exact hversions p hp
        · refine List.forall_mem_cons.2 ⟨hlater, fun p hp => ?_⟩
          exact Nat.lt_of_le_of_lt hissued (hversions p hp)
      · exact .inr (hbroke.bind _)
    · rw [← hrun] at hbroke
      exact .inr (hbroke.bind _)

/-! ## The order of the tables -/

theorem mem_referencedTables {s : Snapshot} {t : String} :
    t ∈ s.referencedTables ↔ (∃ fk ∈ s.foreignKeys, fk.referencesTable = t) ∧ t ≠ s.table := by
  rw [Snapshot.referencedTables, (List.mergeSort_perm _ _).mem_iff, List.mem_eraseDups,
    List.mem_filter, List.mem_map, decide_eq_true_iff]

/-- The structures in the order of references. -/
def ordered (snapshots : NameMap Snapshot) : List Snapshot :=
  (dependencyOrder (snapshots.values.map referencesOf)).1.filterMap snapshots.get?

section
variable {snapshots : NameMap Snapshot}
  (hnamed : ∀ t snapshot, snapshots.get? t = some snapshot → snapshot.table = t)
include hnamed

theorem map_name_values : (snapshots.values.map referencesOf).map (·.name) = snapshots.keys := by
  rw [NameMap.values, NameMap.keys, List.map_map, List.map_map]
  exact List.map_congr_left fun e he => hnamed e.1 e.2 (NameMap.get?_eq_some_iff.2 he)

theorem nodup_map_name_values : ((snapshots.values.map referencesOf).map (·.name)).Nodup := by
  rw [map_name_values hnamed]
  exact snapshots.nodup_keys

theorem order_perm_keys :
    (dependencyOrder (snapshots.values.map referencesOf)).1.Perm snapshots.keys :=
  map_name_values hnamed ▸ dependencyOrder_perm (nodup_map_name_values hnamed)

/-- No structure is lost, and none is doubled. -/
theorem ordered_perm : (ordered snapshots).Perm snapshots.values := by
  have hvalues : snapshots.keys.filterMap snapshots.get? = snapshots.values := by
    rw [NameMap.keys, List.filterMap_map, NameMap.values, List.filterMap_eq_map_iff_forall_eq_some]
    exact fun _ he => NameMap.get?_eq_some_iff.2 he
  exact hvalues ▸ (order_perm_keys hnamed).filterMap snapshots.get?

theorem map_table_ordered :
    (ordered snapshots).map (·.table) = (dependencyOrder (snapshots.values.map referencesOf)).1 := by
  have hfound : ∀ t ∈ (dependencyOrder (snapshots.values.map referencesOf)).1,
      (snapshots.get? t).map (·.table) = some t := by
    intro t ht
    obtain ⟨⟨name, snapshot⟩, he, rfl⟩ := List.mem_map.1 ((order_perm_keys hnamed).mem_iff.1 ht)
    rw [NameMap.get?_eq_some_iff.2 he]
    exact congrArg some (hnamed name snapshot (NameMap.get?_eq_some_iff.2 he))
  rw [ordered, List.map_filterMap]
  exact (List.filterMap_congr hfound).trans List.filterMap_some

/-- The order is the same for the structures in any order. -/
theorem dependencyOrder_arranged {others : List Snapshot} (h : others.Perm snapshots.values) :
    dependencyOrder (others.map referencesOf) =
      dependencyOrder (snapshots.values.map referencesOf) :=
  dependencyOrder_relisted (nodup_map_name_values hnamed)
    (relisted_of_perm (h.symm.map referencesOf))

theorem supplied_ordered (hacyclic : Acyclic ((ordered snapshots).map referencesOf)) :
    Supplied ((ordered snapshots).map referencesOf) ((ordered snapshots).map (·.table)) := by
  have hperm := ordered_perm hnamed
  have hnames : (((ordered snapshots).map referencesOf).map (·.name)).Nodup :=
    ((hperm.map referencesOf).map _).nodup_iff.2 (nodup_map_name_values hnamed)
  rw [map_table_ordered hnamed, ← dependencyOrder_arranged hnamed hperm]
  exact dependencyOrder_supplied hnames hacyclic

end

/-! ## All tables -/

theorem run_onConnection {α : Type} (task : Task σ α) (w : Workspace σ) :
    (onConnection task : Work σ α).run w =
      ((task.run w.connection).1, { w with connection := (task.run w.connection).2 }) := rfl

section
variable [Connection σ]

/-- `inDependencyOrder`, with the structures gone through in an order of its own. -/
def inDependencyOrderFrom (arrange : List Snapshot → List Snapshot)
    (snapshots : NameMap Snapshot) : Action σ (List Snapshot) := do
  let (order, cyclic) := dependencyOrder ((arrange snapshots.values).map referencesOf)
  if cyclic ≠ [] then warning (cycleWarning cyclic)
  return order.filterMap snapshots.get?

/-- `generateAll`, with the structures gone through in an order of its own. -/
def generateAllFrom (arrange : List Snapshot → List Snapshot) (g : Generator) (clock : Nat → Int)
    (excluded : List String) : Work σ (List MigrationFile) := do
  let snapshots ← onConnection (Task.ofAction (do
    inDependencyOrderFrom arrange (← g.inspectAll excluded)))
  g.writeEach clock snapshots

theorem run_inDependencyOrder (snapshots : NameMap Snapshot) (s : σ) :
    ∃ s', (inDependencyOrder snapshots).run s = (.ok (ordered snapshots), s') := by
  rw [inDependencyOrder, ordered]
  rcases dependencyOrder (snapshots.values.map referencesOf) with ⟨order, cyclic⟩
  by_cases h : cyclic ≠ []
  · simp only [if_pos h]
    exact ⟨_, rfl⟩
  · simp only [if_neg h]
    exact ⟨_, rfl⟩

/-- The order in which the structures are gone through does not matter. -/
theorem generateAllFrom_eq {arrange : List Snapshot → List Snapshot}
    (harrange : ∀ l, (arrange l).Perm l) (g : Generator) (clock : Nat → Int)
    (excluded : List String) (w : Workspace σ) :
    (g.generateAllFrom arrange clock excluded).run w = (g.generateAll clock excluded).run w := by
  have horder : (do inDependencyOrderFrom arrange (← g.inspectAll excluded) : Action σ _).run
      w.connection = (do inDependencyOrder (← g.inspectAll excluded) : Action σ _).run
        w.connection := by
    rw [Action.run_bind, Action.run_bind]
    rcases hinspect : (g.inspectAll excluded : Action σ _).run w.connection with ⟨e | snapshots, s⟩
    · rfl
    · obtain ⟨names, s₁, -, hinspect⟩ := of_run_bind hinspect
      have hnamed := table_of_run_inspectEach hinspect
      simp only [inDependencyOrderFrom, inDependencyOrder,
        dependencyOrder_arranged hnamed (harrange _)]
  have hphase : (onConnection (Task.ofAction (do
      inDependencyOrderFrom arrange (← g.inspectAll excluded))) : Work σ _).run w =
        (onConnection (Task.ofAction (do inDependencyOrder (← g.inspectAll excluded))) :
          Work σ _).run w := by
    rw [run_onConnection, run_onConnection, Task.run_ofAction, Task.run_ofAction, horder]
  rw [generateAllFrom, generateAll, Task.run_bind, Task.run_bind, hphase]

end

/-- The names of the tables that a database lists. -/
def listed (db : Memory) : Except Database.Error (List String) := (tables.run db).1

theorem listed_of_run {db db' : Memory} {names : List String}
    (h : (tables : Action Memory _).run db = (.ok names, db')) : listed db = .ok names := by
  rw [listed, h]

/-- Whether an artifact is to be written for a table. -/
def includes (g : Generator) (excluded : List String) (t : String) : Bool :=
  t != g.ledgerTable && !excluded.contains t

/-- Each table has one artifact, for the structure that it has in the database. Without a
circle of references, tables that are referred to have the lesser filenames. -/
structure Covers (db : Memory) (included : List String) (l : List (Snapshot × MigrationFile)) :
    Prop where
  once : (l.map (·.1.table)).Nodup
  tables : ∀ t, t ∈ l.map (·.1.table) ↔ t ∈ included
  told : ∀ p ∈ l, structureOf db p.1.table = .ok p.1
  ordered : Acyclic (l.map fun p => referencesOf p.1) → ∀ p ∈ l, ∀ q ∈ l,
    ∀ fk ∈ p.1.foreignKeys, fk.referencesTable = q.1.table → q.1.table ≠ p.1.table →
      q.2.filename < p.2.filename

/-- A table that another refers to stands in front of it, so its artifact came first. -/
theorem filename_lt_of_supplied {tables : List TableReferences}
    {l : List (Snapshot × MigrationFile)} (honce : (l.map (·.1.table)).Nodup)
    (hsupplied : Supplied tables (l.map (·.1.table)))
    (hascending : l.Pairwise fun p q => p.2.filename < q.2.filename)
    {p q : Snapshot × MigrationFile} (hp : p ∈ l) (hq : q ∈ l)
    (hrefers : Refers tables p.1.table q.1.table) : q.2.filename < p.2.filename := by
  obtain ⟨before, behind, rfl⟩ := List.append_of_mem hp
  have hcut : (before ++ p :: behind).map (·.1.table) =
      before.map (·.1.table) ++ p.1.table :: behind.map (·.1.table) := by
    rw [List.map_append, List.map_cons]
  obtain ⟨q', hq', hname⟩ := List.mem_map.1 (hsupplied _ _ _ hcut _ hrefers)
  obtain rfl : q' = q :=
    List.inj_on_of_nodup_map honce (List.mem_append_left _ hq') hq hname
  exact (List.pairwise_append.1 hascending).2.2 q' hq' p List.mem_cons_self

section
variable {db : Memory} {included : List String} {snapshots : NameMap Snapshot}
  (hsnapshots : ∀ t snapshot, snapshots.get? t = some snapshot ↔
    t ∈ included ∧ structureOf db t = .ok snapshot)
include hsnapshots

theorem mem_keys_iff (htold : ∀ t ∈ included, ∃ snapshot, structureOf db t = .ok snapshot)
    (t : String) : t ∈ snapshots.keys ↔ t ∈ included := by
  constructor
  · intro ht
    obtain ⟨⟨name, snapshot⟩, he, rfl⟩ := List.mem_map.1 ht
    exact ((hsnapshots name snapshot).1 (NameMap.get?_eq_some_iff.2 he)).1
  · intro ht
    obtain ⟨snapshot, hsnapshot⟩ := htold t ht
    have he := NameMap.get?_eq_some_iff.1 ((hsnapshots t snapshot).2 ⟨ht, hsnapshot⟩)
    exact List.mem_map.2 ⟨_, he, rfl⟩

theorem structureOf_of_mem_values {snapshot : Snapshot} (h : snapshot ∈ snapshots.values) :
    structureOf db snapshot.table = .ok snapshot := by
  obtain ⟨⟨name, _⟩, he, rfl⟩ := List.mem_map.1 h
  have hsnapshot := ((hsnapshots name _).1 (NameMap.get?_eq_some_iff.2 he)).2
  rwa [table_of_structureOf hsnapshot]

/-- The structures in order, with artifacts of ascending filenames, cover the tables. -/
theorem covers_of_ordered (htold : ∀ t ∈ included, ∃ snapshot, structureOf db t = .ok snapshot)
    {l : List (Snapshot × MigrationFile)} (hl : l.map Prod.fst = ordered snapshots)
    (hascending : l.Pairwise fun p q => p.2.filename < q.2.filename) : Covers db included l := by
  have hnamed : ∀ t snapshot, snapshots.get? t = some snapshot → snapshot.table = t :=
    fun t snapshot h => table_of_structureOf ((hsnapshots t snapshot).1 h).2
  have htables : l.map (·.1.table) = (ordered snapshots).map (·.table) := by
    rw [← hl, List.map_map]
    rfl
  have hreferences : (l.map fun p => referencesOf p.1) = (ordered snapshots).map referencesOf := by
    rw [← hl, List.map_map]
    rfl
  have hkeys : (l.map (·.1.table)).Perm snapshots.keys :=
    htables ▸ map_table_ordered hnamed ▸ order_perm_keys hnamed
  have honce : (l.map (·.1.table)).Nodup := hkeys.nodup_iff.2 snapshots.nodup_keys
  refine ⟨honce, fun t => hkeys.mem_iff.trans (mem_keys_iff hsnapshots htold t), ?_, ?_⟩
  · intro p hp
    exact structureOf_of_mem_values hsnapshots
      ((ordered_perm hnamed).mem_iff.1 (hl ▸ List.mem_map_of_mem hp))
  · intro hacyclic p hp q hq fk hfk htable hother
    -- An order that supplies the tables puts the artifact of each behind those it refers to,
    -- and the filenames ascend along it.
    have hsupplied : Supplied (l.map fun p => referencesOf p.1) (l.map (·.1.table)) := by
      rw [hreferences] at hacyclic ⊢
      rw [htables]
      exact supplied_ordered hnamed hacyclic
    refine filename_lt_of_supplied honce hsupplied hascending hp hq
      ⟨referencesOf p.1, List.mem_map.2 ⟨p, hp, rfl⟩, rfl, ?_, hother, ?_⟩
    · exact mem_referencedTables.2 ⟨⟨fk, hfk, htable⟩, hother⟩
    · rw [List.map_map]
      exact List.mem_map.2 ⟨q, hq, rfl⟩

end

/-- The structures of all tables, in the order of references. -/
def structures (g : Generator) (excluded : List String) : Action Memory (List Snapshot) := do
  inDependencyOrder (← g.inspectAll excluded)

theorem run_inspectAll_of_listed (g : Generator) (excluded : List String) {db : Memory}
    {names : List String} (h : listed db = .ok names) :
    ∃ db', Warned db db' ∧ (g.inspectAll excluded).run db =
      (inspectEach (names.filter (g.includes excluded))).run db' := by
  have hrun : (tables : Action Memory _).run db = (.ok names, (tables.run db).2) := Prod.ext h rfl
  exact ⟨_, (tables_onlyWarns.run (.refl db)).2, Action.run_bind_ok hrun⟩

theorem structures_of_listed {g : Generator} {excluded : List String} {db : Memory}
    {names : List String} (h : listed db = .ok names)
    (htold : ∀ t ∈ names.filter (g.includes excluded), ∃ s, structureOf db t = .ok s) :
    ∃ snapshots db', (g.structures excluded).run db = (.ok (ordered snapshots), db') ∧
      ∀ t s, snapshots.get? t = some s ↔
        t ∈ names.filter (g.includes excluded) ∧ structureOf db t = .ok s := by
  obtain ⟨db₁, hwarned, hall⟩ := run_inspectAll_of_listed g excluded h
  obtain ⟨snapshots, db₂, hrun, -, hsnapshots⟩ := run_inspectEach_ok hwarned htold
  obtain ⟨db₃, horder⟩ := run_inDependencyOrder snapshots db₂
  refine ⟨snapshots, db₃, ?_, hsnapshots⟩
  rw [structures, Action.run_bind_ok (hall.trans hrun), horder]

/-- A failure before the first artifact leaves the files alone. -/
theorem generateAll_of_error {g : Generator} (clock : Nat → Int) {excluded : List String}
    {w : Workspace Memory} {e : Database.Error}
    (h : ((g.structures excluded).run w.connection).1 = .error e) :
    ((g.generateAll clock excluded).run w).1 = .error (.database e) ∧
      ((g.generateAll clock excluded).run w).2.files = w.files := by
  have hphase : (onConnection (Task.ofAction (g.structures excluded)) : Work Memory _).run w =
      (.error (.database e),
        { w with connection := ((g.structures excluded).run w.connection).2 }) := by
    rw [run_onConnection, Task.run_ofAction, h]
    rfl
  have hrun : (g.generateAll clock excluded).run w = _ := Task.run_bind_error hphase
  rw [hrun]
  exact ⟨rfl, rfl⟩

/-- The artifacts are written for the structures that have been told. -/
theorem generateAll_of_ok {g : Generator} {clock : Nat → Int} {excluded : List String}
    {w : Workspace Memory} {l : List Snapshot} {db' : Memory}
    (h : (g.structures excluded).run w.connection = (.ok l, db')) :
    (g.generateAll clock excluded).run w =
      (g.writeEach clock l).run { w with connection := db' } := by
  have hphase : (onConnection (Task.ofAction (g.structures excluded)) : Work Memory _).run w =
      (.ok l, { w with connection := db' }) := by
    rw [run_onConnection, Task.run_ofAction, h]
    rfl
  exact Task.run_bind_ok hphase

/-- Where a table cannot be told, the files stay as they are. Otherwise one artifact is
written for each table, unless writing breaks off. -/
theorem generateAll_complete {g : Generator} {clock : Nat → Int} {excluded : List String}
    {w w' : Workspace Memory} {r : Except Migration.Error (List MigrationFile)}
    (hrun : (g.generateAll clock excluded).run w = (r, w')) :
    (∀ e, listed w.connection = .error e → r = .error (.database e) ∧ w'.files = w.files) ∧
    (∀ names, listed w.connection = .ok names →
      ((∃ t ∈ names.filter (g.includes excluded), ∃ e, structureOf w.connection t = .error e) →
        w'.files = w.files ∧ ∃ t ∈ names.filter (g.includes excluded), ∃ e,
          structureOf w.connection t = .error e ∧ r = .error (.database e)) ∧
      ((∀ t ∈ names.filter (g.includes excluded), ∃ s, structureOf w.connection t = .ok s) →
        (∀ path f, r ≠ .error (.io path f)) → w'.lastVersion < 10 ^ 14 →
          ∃ l : List (Snapshot × MigrationFile), r = .ok (l.map Prod.snd) ∧
            Covers w.connection (names.filter (g.includes excluded)) l ∧
            Written g w.files w'.files l)) ∧
    ∀ arrange : List Snapshot → List Snapshot, (∀ l, (arrange l).Perm l) →
      (g.generateAllFrom arrange clock excluded).run w = (r, w') := by
  refine ⟨fun e he => ?_, fun names hnames => ⟨?_, fun htold hio hversion => ?_⟩,
    fun arrange harrange => (generateAllFrom_eq harrange g clock excluded w).trans hrun⟩
  -- Without the list of tables nothing is inspected and nothing written.
  · have hall : (g.structures excluded).run w.connection = _ :=
      Action.run_bind_error (Action.run_bind_error (Prod.ext he rfl))
    have herror := generateAll_of_error clock (congrArg Prod.fst hall)
    rwa [hrun] at herror
  · rintro ⟨t, ht, e, he⟩
    obtain ⟨db₁, hwarned, hall⟩ := run_inspectAll_of_listed g excluded hnames
    obtain ⟨t', ht', e', db₂, he', hfails⟩ := run_inspectEach_error hwarned ht he
    have hstructures : (g.structures excluded).run w.connection = _ :=
      Action.run_bind_error (hall.trans hfails)
    have herror := generateAll_of_error clock (congrArg Prod.fst hstructures)
    rw [hrun] at herror
    exact ⟨herror.2, t', ht', e', he', herror.1⟩
  · obtain ⟨snapshots, db', hstructures, hsnapshots⟩ := structures_of_listed hnames htold
    rw [generateAll_of_ok hstructures] at hrun
    have hcases := g.writeEach_cases clock (ordered snapshots) { w with connection := db' }
    rw [hrun] at hcases
    rcases hcases with ⟨l, hl, hr, hwritten, -⟩ | ⟨path, f, hbroke⟩ | ⟨-, hlong⟩
    · exact ⟨l, hr, covers_of_ordered hsnapshots htold hl hwritten.ascending, hwritten⟩
    · exact absurd hbroke (hio path f)
    · exact absurd hversion (Nat.not_lt.2 hlong)

/-! ## Two tables -/

def users : Blueprint := .ofDeclarations "users" [.id "id"]

def posts : Blueprint :=
  .ofDeclarations "posts" [.column "author" .bigInteger, .unsigned,
    .foreign ["author"] [.references ["id"], .on "users", .cascadeOnDelete]]

/-- A database with posts that refer to their authors. -/
def blog : Memory :=
  ((Memory.empty "migrations").describe "users" (catalogOf .plain users)).describe "posts"
    (catalogOf .plain posts)

def blogGenerator : Generator where
  directory := "migrations"
  ledgerTable := "migrations"

theorem showsBlueprint_users : ShowsBlueprint .plain users := by
  have hcolumns : users.columns =
      [{ name := "id", type := .bigInteger, unsigned := true, autoIncrement := true }] := rfl
  refine ⟨?_, by decide, by decide, by decide, by decide, by decide, by decide⟩
  rw [hcolumns]
  exact List.forall_mem_cons.2 ⟨⟨rfl, by decide, by decide, by simp⟩, by simp⟩

theorem showsBlueprint_posts : ShowsBlueprint .plain posts := by
  have hcolumns : posts.columns = [{ name := "author", type := .bigInteger, unsigned := true }] :=
    rfl
  refine ⟨?_, by decide, by decide, by decide, by decide, by decide, by decide⟩
  rw [hcolumns]
  exact List.forall_mem_cons.2 ⟨⟨rfl, by decide, by decide, by simp⟩, by simp⟩

theorem inspect_users : (inspect "users").run blog = (.ok (snapshotOf .plain users), blog) :=
  inspect_describe .plain showsBlueprint_users ⟨rfl, rfl⟩ rfl

theorem inspect_posts : (inspect "posts").run blog = (.ok (snapshotOf .plain posts), blog) :=
  inspect_describe .plain showsBlueprint_posts ⟨rfl, rfl⟩ rfl

theorem run_tables {db : Memory} (hdb : db.IsPlain) :
    (Schema.tables : Action Memory _).run db = (.ok db.tableNames, db) := by
  have hquery : ∀ {sql rows}, db.answer sql [] = (.ok rows, db) →
      (Connection.query sql [] : Action Memory _).run db = (.ok rows, db) :=
    fun h => (Memory.query_eq_answer hdb _ _).trans h
  have hname : (fun r : Row => r.text? "name") ∘ (fun n => Row.ofFields [("name", .text n)]) =
      some := by
    funext n
    simp +decide [Row.text?, Row.get?_ofFields_cons, Value.asText]
  rw [Schema.tables, Action.run_bind_ok (hquery (Memory.answer_listTablesSql hdb.canned))]
  show (Except.ok (List.filterMap _ (List.map _ db.tableNames)), db) = _
  rw [List.filterMap_map, hname, List.filterMap_some]

theorem tables_blog : (Schema.tables : Action Memory _).run blog = (.ok ["posts", "users"], blog) := by
  have hnames : blog.tableNames = ["posts", "users"] := by decide
  rw [run_tables ⟨rfl, rfl⟩, hnames]

theorem structures_blog : (blogGenerator.structures []).run blog =
    (.ok [snapshotOf .plain users, snapshotOf .plain posts], blog) := by
  let snapshots : NameMap Snapshot :=
    ((∅ : NameMap Snapshot).insert "users" (snapshotOf .plain users)).insert "posts"
      (snapshotOf .plain posts)
  have hall : (inspectEach ["posts", "users"]).run blog = (.ok snapshots, blog) := by
    rw [inspectEach, Action.run_bind_ok inspect_posts, inspectEach, bind_assoc,
      Action.run_bind_ok inspect_users]
    rfl
  let references : List TableReferences := [⟨"posts", ["users"]⟩, ⟨"users", []⟩]
  have horder : dependencyOrder references = (["users", "posts"], []) := by
    have hlatest : latest references = references := latest_eq_self (by decide)
    have hsorted : references.mergeSort (fun a b => decide (a.name ≤ b.name)) = references :=
      List.mergeSort_of_pairwise (by decide)
    rw [dependencyOrder, hlatest, hsorted]
    decide +kernel
  have hreferences : snapshots.values.map referencesOf = references := by decide +kernel
  rw [structures, inspectAll, bind_assoc, Action.run_bind_ok tables_blog]
  show ((inspectEach ["posts", "users"]) >>= inDependencyOrder).run blog = _
  rw [Action.run_bind_ok hall, inDependencyOrder, hreferences, horder]
  rfl

theorem acyclic_blog {l : List (Snapshot × MigrationFile)}
    (h : ∀ p ∈ l, p.1 = snapshotOf .plain posts ∨ p.1 = snapshotOf .plain users) :
    Acyclic (l.map fun p => referencesOf p.1) := by
  have hposts : referencesOf (snapshotOf .plain posts) = ⟨"posts", ["users"]⟩ := by decide +kernel
  have husers : referencesOf (snapshotOf .plain users) = ⟨"users", []⟩ := by decide +kernel
  have hends : ∀ a b, Refers (l.map fun p => referencesOf p.1) a b → a = "posts" ∧ b = "users" := by
    rintro a b ⟨t, ht, rfl, hb, -⟩
    obtain ⟨p, hp, rfl⟩ := List.mem_map.1 ht
    rcases h p hp with h | h
    · rw [h, hposts] at hb ⊢
      exact ⟨rfl, List.mem_singleton.1 hb⟩
    · rw [h, husers] at hb
      exact absurd hb List.not_mem_nil
  intro a hround
  obtain ⟨b, hleaves, -⟩ := Relation.TransGen.head'_iff.1 hround
  obtain ⟨c, -, harrives⟩ := Relation.TransGen.tail'_iff.1 hround
  exact absurd ((hends a b hleaves).1.symm.trans (hends c a harrives).2) (by decide)

/-- The posts come first by name, and the artifact of the users is written first. -/
theorem users_before_posts :
    ∃ l w', (blogGenerator.generateAll (fun _ => 1705752000) []).run ⟨blog, .empty, 0⟩ =
        (.ok (l.map Prod.snd), w') ∧
      Covers blog ["posts", "users"] l ∧ Written blogGenerator .empty w'.files l ∧
      ∀ p ∈ l, ∀ q ∈ l, p.1.table = "posts" → q.1.table = "users" →
        q.2.filename < p.2.filename := by
  have hwrites : (blogGenerator.generateAll (fun _ => 1705752000) []).run ⟨blog, .empty, 0⟩ =
      (blogGenerator.writeEach (fun _ => 1705752000)
        [snapshotOf .plain users, snapshotOf .plain posts]).run ⟨blog, .empty, 0⟩ :=
    generateAll_of_ok (w := ⟨blog, .empty, 0⟩) structures_blog
  have hran : ((blogGenerator.writeEach (fun _ => 1705752000)
      [snapshotOf .plain users, snapshotOf .plain posts]).run
        (⟨blog, .empty, 0⟩ : Workspace Memory)).1.toBool = true ∧
      ((blogGenerator.writeEach (fun _ => 1705752000)
        [snapshotOf .plain users, snapshotOf .plain posts]).run
          (⟨blog, .empty, 0⟩ : Workspace Memory)).2.lastVersion < 10 ^ 14 := by
    decide +kernel
  have hincluded : ["posts", "users"].filter (blogGenerator.includes []) = ["posts", "users"] := by
    decide
  have htold : ∀ t ∈ ["posts", "users"].filter (blogGenerator.includes []),
      ∃ s, structureOf blog t = .ok s := by
    rw [hincluded]
    simp only [List.forall_mem_cons]
    exact ⟨⟨_, structureOf_of_run inspect_posts⟩, ⟨_, structureOf_of_run inspect_users⟩, by simp⟩
  rw [← hwrites] at hran
  rcases hrun : (blogGenerator.generateAll (fun _ => 1705752000) []).run ⟨blog, .empty, 0⟩ with
    ⟨r, w'⟩
  rw [hrun] at hran
  have hio : ∀ path f, r ≠ .error (.io path f) := by
    rintro path f rfl
    exact absurd hran.1 Bool.false_ne_true
  obtain ⟨l, rfl, hcovers, hwritten⟩ := ((generateAll_complete hrun).2.1 ["posts", "users"]
    (listed_of_run tables_blog)).2 htold hio hran.2
  rw [hincluded] at hcovers
  -- Which artifact comes first is not computed: it follows from the cover, as posts refer to users.
  have hknown : ∀ p ∈ l, p.1 = snapshotOf .plain posts ∨ p.1 = snapshotOf .plain users := by
    intro p hp
    have htold := hcovers.told p hp
    rcases List.mem_pair.1 ((hcovers.tables _).1 (List.mem_map_of_mem hp)) with h | h
    · rw [h, structureOf_of_run inspect_posts] at htold
      exact .inl (Except.ok.inj htold).symm
    · rw [h, structureOf_of_run inspect_users] at htold
      exact .inr (Except.ok.inj htold).symm
  refine ⟨l, w', rfl, hcovers, hwritten, fun p hp q hq hposts husers => ?_⟩
  have hp' : p.1 = snapshotOf .plain posts :=
    (hknown p hp).resolve_right fun h => absurd (hposts.symm.trans (congrArg (·.table) h)) (by decide)
  have hkey : ∃ fk ∈ p.1.foreignKeys, fk.referencesTable = "users" := by
    rw [hp']
    decide +kernel
  obtain ⟨fk, hfk, hreferences⟩ := hkey
  refine hcovers.ordered (acyclic_blog hknown) p hp q hq fk hfk (hreferences.trans husers.symm) ?_
  rw [hposts, husers]
  decide

end Generator

end SchemaMigration.Generation
