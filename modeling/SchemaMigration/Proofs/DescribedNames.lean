import SchemaMigration.Generation.RegistryFile
import SchemaMigration.Proofs.ListedArtifacts
import SchemaMigration.Proofs.ReducedDescriptions
import SchemaMigration.Proofs.RegistryOrder

/-
  Names that come from a description.

  A reduced description makes up a filename together with a version, and is read from it
  again. So the name of the struct that an artifact declares, which was taken from the
  description before the file was named, is the one that a registry module takes from the
  filename; and no other artifact of the directory has the module in which it looks for it.

  Main statements: `written_of_write`, one artifact, and `names_agree`.
-/
namespace SchemaMigration.Generation

open Text Database Schema Catalog Source Migration Files

/-- A reduced description is the name that is read from the filename it makes up. -/
theorem ofFilename_of_reduced {name : String} (h : IsReduced name) {version : Nat}
    (hversion : version < 10 ^ 14) :
    MigrationFile.ofFilename (MigrationFile.format version name) =
      .ok ⟨MigrationFile.format version name, version, name, none⟩ :=
  ofFilename_format hversion h.ne_nil h.isNameChar

/-! ## Registry modules -/

/-- The line that registers a struct of the module of an artifact. -/
def registering (file : MigrationFile) (struct : String) : String :=
  "    registry.register(" ++ literal file.filename ++ ", " ++ file.identity ++ "::" ++ struct ++ ")?;"

/-- Some lines declare the module of an artifact, with its path, and register a struct of it. -/
structure Registers (lines : List String) (file : MigrationFile) (struct : String) : Prop where
  declared : moduleLines file <:+: lines
  struct : registering file struct ∈ lines

theorem registers_of_mem {files : List MigrationFile} {file : MigrationFile} (h : file ∈ files) :
    Registers (registryLines files) file (structName file.name) := by
  obtain ⟨before, after, rfl⟩ := List.append_of_mem h
  constructor
  · have hmodules : moduleLines file <:+: (before ++ file :: after).flatMap moduleLines := by
      rw [List.flatMap_append, List.flatMap_cons, ← List.append_assoc]
      exact List.infix_append _ _ _
    have hlines : (before ++ file :: after).flatMap moduleLines <:+:
        registryLines (before ++ file :: after) := by
      rw [registryLines, List.append_assoc, List.append_assoc]
      exact List.infix_append _ _ _
    exact hmodules.trans hlines
  · have hline : registering file (structName file.name) ∈
        (before ++ file :: after).map registrationLine := List.mem_map_of_mem h
    rw [registryLines]
    exact List.mem_append_left _ (List.mem_append_right _ hline)

/-! ## Artifacts -/

/-- An artifact declares a type. -/
structure Declares (a : Artifact) (struct : String) : Prop where
  named : a.structName = struct
  line : "pub struct " ++ struct ++ ";" ∈ a.lines

theorem declares_structName (a : Artifact) : Declares a a.structName :=
  ⟨rfl, List.mem_append_left _ (by simp)⟩

/-- What the description of a call is, before it is reduced. -/
def Request.description : Request → String
  | .create description _ => description
  | .generateTable table => "create_" ++ table ++ "_table"

/-- A file is named by a description, holds an artifact that declares a struct, and a registry
module that covers the file registers that struct, of the module of this file. No other artifact
of the directory has that module, and the directory lists the file, unless its path is empty and
so leads nowhere. -/
structure Agrees (g : Generator) (description : String) (files : Tree) (file : MigrationFile) :
    Prop where
  named : normalized description = .ok file.name
  numbered : file.version < 10 ^ 14 ∧ file.filename = MigrationFile.format file.version file.name
  registered : ∃ a struct, files.at? (placeIn g.directory file.filename) =
      some (.file (g.template a)) ∧ Declares a struct ∧
    ∀ path covered, { file with path } ∈ covered →
      Registers (registryLines covered) { file with path } struct
  listed : g.directory ≠ "" → ∃ found, discover files g.directory = .ok found ∧ file ∈ found
  alone : ∀ f, IsArtifactOf g.directory f → f.identity = file.identity → f = file

namespace Generator

variable {σ : Type}

theorem written_of_write {g : Generator} {now : Int} {name : String} {a : Artifact}
    {w w' : Workspace σ} {file : MigrationFile} (hname : IsReduced name)
    (h : (g.write now name a).run w = (.ok file, w')) :
    file.version < 10 ^ 14 ∧ file.name = name ∧
      file.filename = MigrationFile.format file.version file.name ∧
      IsArtifactOf g.directory file ∧
      w'.files.at? (placeIn g.directory file.filename) = some (.file (g.template a)) := by
  rw [ExceptT.run, write] at h
  simp only at h
  generalize nextVersion (max w.lastVersion (g.versionOnDisk w.files)) now = version at h
  split at h
  · cases h
  · next read hread =>
    split at h
    · cases h
    · split at h
      · cases h
      · next hcreate =>
        obtain ⟨hfile, rfl⟩ := Prod.mk.inj h
        obtain rfl := Except.ok.inj hfile
        obtain ⟨-, hvacant, rfl⟩ := Tree.create_join_eq_ok (isPlain_of_ofFilename hread) hcreate
        -- the version is the one that was issued, so it fits
        have hversion : version < 10 ^ 14 := by
          rw [← version_of_format hread]
          exact (format_of_ofFilename hread).1
        obtain rfl := Except.ok.inj ((ofFilename_of_reduced hname hversion).symm.trans hread)
        exact ⟨hversion, rfl, rfl, ⟨hread, rfl⟩, Tree.at?_putAt _ (by simp [placeIn])⟩

theorem agrees_of_write {g : Generator} {now : Int} {description name : String} {a : Artifact}
    {w w' : Workspace σ} {file : MigrationFile} (hname : normalized description = .ok name)
    (hstruct : a.structName = structName name)
    (h : (g.write now name a).run w = (.ok file, w')) : Agrees g description w'.files file := by
  obtain ⟨hversion, rfl, hfilename, hartifact, hwritten⟩ :=
    written_of_write (isReduced_of_normalized hname) h
  refine ⟨hname, ⟨hversion, hfilename⟩, ⟨a, a.structName, hwritten, declares_structName a, ?_⟩,
    fun hne => listed_of_write hne h, fun f hf hidentity => ?_⟩
  · intro path covered hcovered
    rw [hstruct]
    exact registers_of_mem hcovered
  · exact hf.eq hartifact (eq_of_identityOf_eq (exists_ofFilename_iff.1 ⟨_, hf.1⟩)
      (exists_ofFilename_iff.1 ⟨_, hartifact.1⟩) hidentity)

theorem agrees_of_create {g : Generator} {now : Int} {description : String}
    {target : Option String} {w w' : Workspace σ} {file : MigrationFile}
    (h : (g.create now description target).run w = (.ok file, w')) :
    Agrees g description w'.files file := by
  unfold create at h
  split at h
  · cases h
  · next name hname =>
    refine agrees_of_write hname ?_ h
    cases target <;> rfl

section
variable [Connection σ]

theorem table_of_run_inspectTable {table : String} {s s' : σ} {snapshot : Snapshot}
    (h : (inspectTable table).run s = (.ok snapshot, s')) : snapshot.table = table := by
  rw [ExceptT.run, inspectTable] at h
  split at h
  · next hinspect =>
    cases h
    exact table_of_run_inspect hinspect
  · cases h
  · cases h

theorem agrees_of_generateTable {g : Generator} {now : Int} {table : String}
    {w w' : Workspace σ} {file : MigrationFile}
    (h : (g.generateTable now table).run w = (.ok file, w')) :
    Agrees g ("create_" ++ table ++ "_table") w'.files file := by
  obtain ⟨snapshot, w₁, hinspect, hwrite⟩ := Task.of_run_bind h
  rw [run_onConnection] at hinspect
  have hinspected : (inspectTable table).run w.connection =
      (.ok snapshot, ((inspectTable table).run w.connection).2) :=
    Prod.ext (Prod.mk.inj hinspect).1 rfl
  obtain rfl := table_of_run_inspectTable hinspected
  unfold writeSnapshot at hwrite
  split at hwrite
  · cases hwrite
  · next name hname => exact agrees_of_write hname rfl hwrite

end

end Generator

/-- The reduction of descriptions: which are refused, the form of what the others are reduced
to, and that it stays as it is. For every reduced description and every version of fourteen
digits, the filename names them. And for every artifact that a call writes, on any connection,
from any description or table, the struct that it declares is the one that a registry module
registers for its file, of the module that it declares for it. -/
theorem names_agree :
    (∀ description : String,
      ((∀ c ∈ description.toList, c.isAlphanum = false) ∧
          normalized description = .error (.malformed (.unusableDescription description))) ∨
        (∃ c ∈ description.toList, c.isAlphanum = true) ∧ ∃ name,
          normalized description = .ok name ∧ IsReduced name ∧ normalized name = .ok name) ∧
    (∀ description name version, normalized description = .ok name → version < 10 ^ 14 →
      MigrationFile.ofFilename (MigrationFile.format version name) =
        .ok ⟨MigrationFile.format version name, version, name, none⟩) ∧
    ∀ (σ : Type) [Connection σ] (g : Generator) (now : Int) (request : Request)
      (w w' : Workspace σ) (file : MigrationFile),
      (g.work now request).run w = (.ok file, w') → Agrees g request.description w'.files file := by
  refine ⟨fun description => ?_, fun description name version hname hversion => ?_,
    fun σ _ g now request w w' file h => ?_⟩
  · rcases normalized_cases description with hnone | ⟨hsome, name, hname, hreduced⟩
    · exact .inl hnone
    · exact .inr ⟨hsome, name, hname, hreduced, normalized_of_reduced hreduced⟩
  · exact ofFilename_of_reduced (isReduced_of_normalized hname) hversion
  · cases request with
    | create description target => exact Generator.agrees_of_create h
    | generateTable table => exact Generator.agrees_of_generateTable h

/-- A generator of artifacts in a directory that is not there yet. -/
def plainGenerator : Generator where
  directory := "migrations"
  ledgerTable := "migrations"

/-- A description with accents, capitals, signs and blanks makes the artifact of a struct that
starts with a digit. -/
theorem names_agree_accented :
    normalized " 2 Crème__BRÛLÉE! " = .ok "2_cr_me_br_l_e" ∧
      MigrationFile.ofFilename "00000120120000_2_cr_me_br_l_e.rs" =
        .ok ⟨"00000120120000_2_cr_me_br_l_e.rs", 120120000, "2_cr_me_br_l_e", none⟩ ∧
      ∃ file after, (plainGenerator.create 1705752000 " 2 Crème__BRÛLÉE! " none).run
          ⟨(Memory.empty "migrations"), Tree.empty, 0⟩ = (.ok file, after) ∧
        file.filename = "20240120120000_2_cr_me_br_l_e.rs" ∧
        structName file.name = "M2CrMeBrLE" ∧
        Agrees plainGenerator " 2 Crème__BRÛLÉE! " after.files file := by
  obtain ⟨-, hformat, hcalls⟩ := names_agree
  have hreduced : normalized " 2 Crème__BRÛLÉE! " = .ok "2_cr_me_br_l_e" := by decide +kernel
  have hread := hformat " 2 Crème__BRÛLÉE! " "2_cr_me_br_l_e" 120120000 hreduced (by decide)
  have hfilename : MigrationFile.format 120120000 "2_cr_me_br_l_e" =
    "00000120120000_2_cr_me_br_l_e.rs" := by decide +kernel
  rw [hfilename] at hread
  have hrun : ((plainGenerator.create 1705752000 " 2 Crème__BRÛLÉE! " none).run
      ⟨(Memory.empty "migrations"), Tree.empty, 0⟩).1.toOption =
        some ⟨"20240120120000_2_cr_me_br_l_e.rs", 20240120120000, "2_cr_me_br_l_e",
          some "migrations/20240120120000_2_cr_me_br_l_e.rs"⟩ := by
    decide +kernel
  refine ⟨hreduced, hread, _, _, eq_ok_of_toOption hrun, rfl, by decide +kernel, ?_⟩
  exact hcalls Memory plainGenerator 1705752000 (.create " 2 Crème__BRÛLÉE! " none) _ _ _
    (eq_ok_of_toOption hrun)

end SchemaMigration.Generation
