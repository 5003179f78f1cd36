import SchemaMigration.Generation.Generator
import SchemaMigration.Proofs.ArtifactOrder

/-
  Calls on a generator.

  A generator is called again and again, and between two calls anything may happen to the
  clock, to the database and to the files. What it keeps is the version it issued last.
  A call that succeeds adds one file and changes none, and what the directory lists is
  listed as before, with the new artifact behind it. A call that fails adds no file.

  The artifacts that count are those that the directory lists when the call starts. A path
  may lead through a directory that is not there yet; then it lists nothing, though the
  call makes that directory and the path leads to artifacts afterwards. The empty path never
  lists anything, though files are added below it.

  Main statements: `write_adds`, one call; `adds_of_outcomes`, any sequence of calls;
  `unlisted_behind_missing`, the artifacts that a call does not see.
-/
namespace SchemaMigration.Generation

open Text Database Schema Catalog Source Migration Files

/-! ## One call -/

/-- A file has been added in a directory, as the last of its artifacts. -/
structure Adds (directory : String) (before after : Tree) (file : MigrationFile) : Prop where
  artifact : IsArtifactOf directory file
  vacant : before.at? (placeIn directory file.filename) = none
  written : ∃ text, after.at? (placeIn directory file.filename) = some (.file text)
  others : ∀ l, l ≠ placeIn directory file.filename →
    after.at? l = before.at? l ∨ (before.at? l = none ∧ after.at? l = some .directory)
  last : ∀ found, discover before directory = .ok found →
    (∀ f ∈ found, f.version < file.version ∧ f.filename < file.filename) ∧
      discover after directory = .ok (found ++ [file])

namespace Generator

variable {σ : Type}

theorem version_le_versionOnDisk {g : Generator} {files : Tree} {found : List MigrationFile}
    (h : discover files g.directory = .ok found) {f : MigrationFile} (hf : f ∈ found) :
    f.version ≤ g.versionOnDisk files := by
  cases hlast : found.getLast? with
  | none =>
    rw [List.getLast?_eq_none_iff.1 hlast] at hf
    exact absurd hf List.not_mem_nil
  | some last =>
    have hdisk : g.versionOnDisk files = last.version := by
      rw [versionOnDisk, h]
      simp [hlast]
    exact hdisk ▸ version_le_of_mem_discover h hf hlast

/-- A file that is created below a directory is added to it. -/
theorem adds_of_create {g : Generator} {before made after : Tree} {file : MigrationFile}
    {filename text : String} (hname : MigrationFile.ofFilename filename = .ok file)
    (hversion : g.versionOnDisk before < file.version)
    (hmake : before.makeDirectories g.directory = (.ok (), made))
    (hcreate : made.create (join g.directory filename) text = .ok after) :
    Adds g.directory before after { file with path := some (join g.directory filename) } := by
  obtain ⟨rfl, hpath⟩ := ofFilename_eq_ok hname
  have hgrows : before.Grows made := by
    have := Tree.makeDirectories_grows before g.directory
    rwa [hmake] at this
  obtain ⟨hcheck, hvacant, rfl⟩ := Tree.create_join_eq_ok (isPlain_of_ofFilename hname) hcreate
  have hartifact : IsArtifactOf g.directory
      { file with path := some (join g.directory file.filename) } := ⟨hpath ▸ hname, rfl⟩
  refine ⟨hartifact, ?_, ⟨text, Tree.at?_putAt _ (by simp [placeIn])⟩, fun l hl => ?_, ?_⟩
  · rcases hgrows (placeIn g.directory file.filename) with hsame | ⟨hnone, -⟩
    · exact hsame ▸ hvacant
    · exact hnone
  · rw [Tree.at?_putAt_of_ne _ hl]
    exact hgrows l
  · intro found hfound
    -- A directory that lists artifacts exists, so none had to be made.
    have hmade : made = before := by
      rw [Tree.makeDirectories_of_isDirectory (discover_eq_ok hfound).1] at hmake
      exact (Prod.mk.inj hmake).2.symm
    have hlast : ∀ f ∈ found, f.version < file.version := fun f hf =>
      Nat.lt_of_le_of_lt (version_le_versionOnDisk hfound hf) hversion
    refine ⟨fun f hf => ⟨hlast f hf, ?_⟩, ?_⟩
    · exact filename_lt_of_version_lt (isArtifactOf_of_mem hfound hf).1 hname (hlast f hf)
    · subst hmade
      exact discover_putAt hfound hartifact hcheck hvacant hlast

/-- The version of an artifact that has been named is the one it has been named by. -/
theorem version_of_format {version : Nat} {description : String} {file : MigrationFile}
    (h : MigrationFile.ofFilename (MigrationFile.format version description) = .ok file) :
    file.version = version := by
  obtain ⟨ds, name, htext, -, hdigits, -, hversion⟩ := toList_of_ofFilename h
  have hcut : ∀ {as rest : List Char}, allDigits as = true →
      cutAt (· == '_') (as ++ '_' :: rest) = some (as, rest) := by
    intro as rest has
    refine cutAt_beq_append (fun hmem => ?_) rest
    exact absurd (List.all_eq_true.1 has _ hmem) (by decide)
  have hsame : some (ds, name ++ extension) =
      some (padded 14 version, description.toList ++ extension) := by
    rw [← hcut hdigits, ← hcut (allDigits_padded 14 version), ← htext, toList_format]
  rw [hversion, (Prod.mk.inj (Option.some.inj hsame)).1, ofDigitChars_padded]

/-- What a call may do: issue a greater version and add its file, or fail and add none. -/
def Keeps (g : Generator) (w : Workspace σ)
    (r : Except Migration.Error MigrationFile × Workspace σ) : Prop :=
  w.lastVersion ≤ r.2.lastVersion ∧ match r.1 with
    | .ok file => w.lastVersion < file.version ∧ file.version = r.2.lastVersion ∧
        Adds g.directory w.files r.2.files file
    | .error _ => w.files.Grows r.2.files

theorem write_keeps (g : Generator) (now : Int) (description : String) (a : Artifact)
    (w : Workspace σ) : g.Keeps w ((g.write now description a).run w) := by
  obtain ⟨hversion, -⟩ := nextVersion_spec (max w.lastVersion (g.versionOnDisk w.files)) now
  rw [ExceptT.run, write]
  generalize nextVersion (max w.lastVersion (g.versionOnDisk w.files)) now = version at hversion ⊢
  have hissued : w.lastVersion < version := by omega
  have hdisk : g.versionOnDisk w.files < version := by omega
  have hgrows := Tree.makeDirectories_grows w.files g.directory
  -- Each way out leaves the version issued; only the last one adds a file.
  simp only
  split
  · exact ⟨Nat.le_of_lt hissued, .refl _⟩
  · next file hname =>
    have hfile := version_of_format hname
    split
    · next f made hmake =>
      rw [hmake] at hgrows
      exact ⟨Nat.le_of_lt hissued, hgrows⟩
    · next made hmake =>
      split
      · rw [hmake] at hgrows
        exact ⟨Nat.le_of_lt hissued, hgrows⟩
      · next after hcreate =>
        exact ⟨Nat.le_of_lt hissued, hfile ▸ hissued, hfile,
          adds_of_create hname (hfile ▸ hdisk) hmake hcreate⟩

theorem create_keeps (g : Generator) (now : Int) (description : String) (target : Option String)
    (w : Workspace σ) : g.Keeps w ((g.create now description target).run w) := by
  unfold create
  split
  · exact ⟨Nat.le_refl _, .refl _⟩
  · exact write_keeps g now _ _ w

theorem writeSnapshot_keeps (g : Generator) (now : Int) (s : Snapshot) (w : Workspace σ) :
    g.Keeps w ((g.writeSnapshot now s).run w) := by
  unfold writeSnapshot
  split
  · exact ⟨Nat.le_refl _, .refl _⟩
  · exact write_keeps g now _ _ w

theorem generateTable_keeps [Connection σ] (g : Generator) (now : Int) (table : String)
    (w : Workspace σ) : g.Keeps w ((g.generateTable now table).run w) := by
  -- the inspection works on the connection alone
  obtain ⟨inspected, connection, hinspect⟩ : ∃ inspected connection,
      (onConnection (inspectTable table) : Work σ Snapshot).run w =
        (inspected, { w with connection }) := ⟨_, _, rfl⟩
  cases inspected with
  | error e =>
    rw [generateTable, Task.run_bind_error hinspect]
    exact ⟨Nat.le_refl _, .refl _⟩
  | ok snapshot =>
    rw [generateTable, Task.run_bind_ok hinspect]
    exact writeSnapshot_keeps g now snapshot { w with connection }

end Generator

/-! ## Sequences of calls -/

/-- A call on a generator. -/
inductive Request where
  | create (description : String) (target : Option String)
  | generateTable (table : String)
  deriving DecidableEq, Repr

/-- A call with what it finds: the time on the clock, the database and the files. -/
structure Turn (σ : Type) where
  now : Int
  connection : σ
  files : Tree
  request : Request

/-- What came of a call. -/
structure Outcome where
  before : Tree
  result : Except Migration.Error MigrationFile
  after : Tree

namespace Generator

variable {σ : Type} [Connection σ]

/-- The work that a call does. -/
def work (g : Generator) (now : Int) : Request → Work σ MigrationFile
  | .create description target => g.create now description target
  | .generateTable table => g.generateTable now table

theorem work_keeps (g : Generator) (now : Int) (request : Request) (w : Workspace σ) :
    g.Keeps w ((g.work now request).run w) := by
  cases request with
  | create description target => exact create_keeps g now description target w
  | generateTable table => exact generateTable_keeps g now table w

/-- What comes of calls one after the other, from the version issued last on. -/
def answers (g : Generator) (issued : Nat) : List (Turn σ) → List Outcome
  | [] => []
  | turn :: turns =>
    let r := (g.work turn.now turn.request).run ⟨turn.connection, turn.files, issued⟩
    ⟨turn.files, r.1, r.2.files⟩ :: g.answers r.2.lastVersion turns

/-- The version of every artifact is greater than what had been issued before. -/
theorem issued_lt_of_mem_answers (g : Generator) (turns : List (Turn σ)) (issued : Nat) :
    ∀ o ∈ g.answers issued turns, ∀ file, o.result = .ok file → issued < file.version := by
  induction turns generalizing issued with
  | nil => exact fun o ho => absurd ho List.not_mem_nil
  | cons turn turns ih =>
    obtain ⟨hle, hkeeps⟩ := g.work_keeps turn.now turn.request ⟨turn.connection, turn.files, issued⟩
    intro o ho file hfile
    rcases List.mem_cons.1 ho with rfl | ho
    · simp only at hfile
      rw [hfile] at hkeeps
      exact hkeeps.1
    · exact Nat.lt_of_le_of_lt hle (ih _ o ho file hfile)

theorem adds_of_mem_answers (g : Generator) (turns : List (Turn σ)) (issued : Nat) :
    ∀ o ∈ g.answers issued turns,
      (∀ file, o.result = .ok file → Adds g.directory o.before o.after file) ∧
        ∀ e, o.result = .error e → o.before.Grows o.after := by
  induction turns generalizing issued with
  | nil => exact fun o ho => absurd ho List.not_mem_nil
  | cons turn turns ih =>
    obtain ⟨-, hkeeps⟩ := g.work_keeps turn.now turn.request ⟨turn.connection, turn.files, issued⟩
    intro o ho
    rcases List.mem_cons.1 ho with rfl | ho
    · constructor
      · intro file hfile
        simp only at hfile
        rw [hfile] at hkeeps
        exact hkeeps.2.2
      · intro e he
        simp only at he
        rw [he] at hkeeps
        exact hkeeps
    · exact ih _ o ho

/-- Of two artifacts the one issued later has the greater version and filename. -/
theorem pairwise_answers (g : Generator) (turns : List (Turn σ)) (issued : Nat) :
    (g.answers issued turns).Pairwise fun a b => ∀ first second, a.result = .ok first →
      b.result = .ok second →
        first.version < second.version ∧ first.filename < second.filename := by
  induction turns generalizing issued with
  | nil => exact .nil
  | cons turn turns ih =>
    obtain ⟨-, hkeeps⟩ := g.work_keeps turn.now turn.request ⟨turn.connection, turn.files, issued⟩
    refine .cons (fun b hb first second hfirst hsecond => ?_) (ih _)
    simp only at hfirst
    rw [hfirst] at hkeeps
    have hversion : first.version < second.version :=
      hkeeps.2.1 ▸ g.issued_lt_of_mem_answers turns _ b hb second hsecond
    have hadds := (g.adds_of_mem_answers turns _ b hb).1 second hsecond
    exact ⟨hversion,
      filename_lt_of_version_lt hkeeps.2.2.artifact.1 hadds.artifact.1 hversion⟩

/-- Over any sequence of calls, whatever happens to the clock, the database and the files
between them, a call that succeeds adds the artifact that is last in its directory and last
of all that were issued, and a call that fails adds no file. -/
theorem adds_of_answers (g : Generator) (turns : List (Turn σ)) :
    (∀ o ∈ g.answers 0 turns,
      (∀ file, o.result = .ok file → Adds g.directory o.before o.after file) ∧
        ∀ e, o.result = .error e → o.before.Grows o.after) ∧
      (g.answers 0 turns).Pairwise fun a b => ∀ first second, a.result = .ok first →
        b.result = .ok second →
          first.version < second.version ∧ first.filename < second.filename :=
  ⟨g.adds_of_mem_answers turns 0, g.pairwise_answers turns 0⟩

end Generator

/-! ## Artifacts that a call does not see -/

/-- A generator whose path to its directory goes through a part that is not there. -/
def behindMissing : Generator where
  directory := "missing/../migrations"
  ledgerTable := "migrations"
  template := fun _ => ""

/-- A directory with an artifact of a late version. -/
def lateArtifact : Tree :=
  (Tree.empty.put "migrations" .directory).put "migrations/99990101000000_floor.rs" (.file "")

/-- The path leads nowhere when the call starts and to the late artifact when it ends, so
the call adds an artifact that is not last. -/
theorem unlisted_behind_missing :
    ∃ file after found late,
      (behindMissing.create 1705752000 "x" none).run ⟨(), lateArtifact, 0⟩ = (.ok file, after) ∧
        discover after.files behindMissing.directory = .ok found ∧ late ∈ found ∧
        lateArtifact.at? (placeIn behindMissing.directory late.filename) = some (.file "") ∧
        file.version < late.version := by
  let r := (behindMissing.create 1705752000 "x" none).run ⟨(), lateArtifact, 0⟩
  let late : MigrationFile :=
    ⟨"99990101000000_floor.rs", 99990101000000, "floor",
      some "missing/../migrations/99990101000000_floor.rs"⟩
  have hresult : r.1.toOption = some ⟨"20240120120000_x.rs", 20240120120000, "x",
      some "missing/../migrations/20240120120000_x.rs"⟩ := by
    decide +kernel
  have hget : r.2.files.get? behindMissing.directory = some .directory := by decide +kernel
  have hlate : late ∈ (r.2.files.children behindMissing.directory).filterMap
      (artifactAt? behindMissing.directory) := by
    decide +kernel
  refine ⟨_, r.2, _, late, eq_ok_of_toOption hresult, by rw [discover, hget],
    (List.mergeSort_perm _ _).mem_iff.2 hlate, by decide +kernel, by decide⟩

end SchemaMigration.Generation
