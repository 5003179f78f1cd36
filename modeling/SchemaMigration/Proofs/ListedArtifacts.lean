import SchemaMigration.Proofs.BulkGeneration

/-
  Artifacts that were written are listed.

  A file that could be created below a path was created in a directory to which the path
  leads, so the directory lists it, also if the path led nowhere before. What is written
  after it is listed behind it. Only the empty path leads nowhere even then: files can be
  created below it, and nothing lists them.

  Main statement: `listed_of_writeEach`.
-/
namespace SchemaMigration.Generation

open Database Schema Catalog Source Migration Files

/-- A directory lists an artifact that was created in it. -/
theorem listed_of_create {made after : Tree} {directory filename text : String}
    {file : MigrationFile} (hname : MigrationFile.ofFilename filename = .ok file)
    (hne : directory ≠ "") (hcreate : made.create (join directory filename) text = .ok after) :
    ∃ found, discover after directory = .ok found ∧
      { file with path := some (join directory filename) } ∈ found := by
  have hplain := isPlain_of_ofFilename hname
  have hget := Tree.get?_of_create hplain hne hcreate
  obtain ⟨hcheck, hvacant, rfl⟩ := Tree.create_join_eq_ok hplain hcreate
  have hself : artifactAt? directory (filename, .file text) =
      some { file with path := some (join directory filename) } := by
    simp only [artifactAt?, hcheck, hname]
  rw [discover, Tree.get?_mono (fun l node hl => Tree.at?_putAt_mono hvacant hl _) hget]
  refine ⟨_, rfl, List.mem_mergeSort.2 (List.mem_filterMap.2 ⟨(filename, .file text), ?_, hself⟩)⟩
  rw [Tree.children_putAt hvacant]
  exact List.mem_append_right _ (List.mem_singleton_self _)

namespace Generator

variable {σ : Type}

/-- To write an artifact is of no concern to the connection. -/
theorem write_connection (g : Generator) (now : Int) (description : String) (a : Artifact)
    (w : Workspace σ) : ((g.write now description a).run w).2.connection = w.connection := by
  rw [ExceptT.run, write]
  simp only
  split
  · rfl
  · split
    · rfl
    · split
      · rfl
      · rfl

theorem listed_of_write {g : Generator} {now : Int} {description : String} {a : Artifact}
    {w w' : Workspace σ} {file : MigrationFile} (hne : g.directory ≠ "")
    (h : (g.write now description a).run w = (.ok file, w')) :
    ∃ found, discover w'.files g.directory = .ok found ∧ file ∈ found := by
  rw [ExceptT.run, write] at h
  simp only at h
  split at h
  · cases h
  · next hname =>
    split at h
    · cases h
    · split at h
      · cases h
      · next hcreate =>
        obtain ⟨hfile, rfl⟩ := Prod.mk.inj h
        obtain rfl := Except.ok.inj hfile
        exact listed_of_create hname hne hcreate

theorem writeSnapshot_connection (g : Generator) (now : Int) (s : Snapshot) (w : Workspace σ) :
    ((g.writeSnapshot now s).run w).2.connection = w.connection := by
  unfold writeSnapshot
  split
  · rfl
  · exact write_connection g now _ _ w

theorem listed_of_writeSnapshot {g : Generator} {now : Int} {s : Snapshot} {w w' : Workspace σ}
    {file : MigrationFile} (hne : g.directory ≠ "")
    (h : (g.writeSnapshot now s).run w = (.ok file, w')) :
    ∃ found, discover w'.files g.directory = .ok found ∧ file ∈ found := by
  unfold writeSnapshot at h
  split at h
  · cases h
  · exact listed_of_write hne h

theorem writeEach_connection (g : Generator) (clock : Nat → Int) (l : List Snapshot)
    (w : Workspace σ) : ((g.writeEach clock l).run w).2.connection = w.connection := by
  induction l generalizing clock w with
  | nil => rfl
  | cons s l ih =>
    have hfirst := writeSnapshot_connection g (clock 0) s w
    rw [writeEach, Task.run_bind]
    generalize (g.writeSnapshot (clock 0) s).run w = first at hfirst
    obtain ⟨_ | file, w₁⟩ := first
    · exact hfirst
    · have hrest := ih (fun n => clock (n + 1)) w₁
      dsimp only
      rw [Task.run_bind]
      generalize (g.writeEach (fun n => clock (n + 1)) l).run w₁ = others at hrest
      obtain ⟨_ | files, w₂⟩ := others
      · exact hrest.trans hfirst
      · exact hrest.trans hfirst

/-- What a directory lists is listed as before, with the artifacts behind it in turn. -/
theorem discover_writeEach {g : Generator} {clock : Nat → Int} {l : List Snapshot}
    {w w' : Workspace σ} {found files : List MigrationFile}
    (hfound : discover w.files g.directory = .ok found)
    (h : (g.writeEach clock l).run w = (.ok files, w')) :
    discover w'.files g.directory = .ok (found ++ files) := by
  induction l generalizing clock w found files with
  | nil =>
    cases h
    rw [List.append_nil]
    exact hfound
  | cons s l ih =>
    rw [writeEach] at h
    obtain ⟨file, w₁, hfirst, h⟩ := Task.of_run_bind h
    obtain ⟨rest, w₂, hrest, h⟩ := Task.of_run_bind h
    have hkeeps := g.writeSnapshot_keeps (clock 0) s w
    rw [hfirst] at hkeeps
    cases h
    rw [ih (hkeeps.2.2.2.last found hfound).2 hrest, List.append_assoc]
    rfl

/-- The directory lists all artifacts that were written, also if it was made for them. -/
theorem listed_of_writeEach {g : Generator} {clock : Nat → Int} {l : List Snapshot}
    {w w' : Workspace σ} {files : List MigrationFile} (hne : g.directory ≠ "")
    (h : (g.writeEach clock l).run w = (.ok files, w')) (hfiles : files ≠ []) :
    ∃ found, discover w'.files g.directory = .ok found ∧ ∀ f ∈ files, f ∈ found := by
  cases l with
  | nil =>
    cases h
    exact absurd rfl hfiles
  | cons s l =>
    rw [writeEach] at h
    obtain ⟨file, w₁, hfirst, h⟩ := Task.of_run_bind h
    obtain ⟨rest, w₂, hrest, h⟩ := Task.of_run_bind h
    obtain ⟨found, hfound, hmem⟩ := listed_of_writeSnapshot hne hfirst
    cases h
    refine ⟨found ++ rest, discover_writeEach hfound hrest, ?_⟩
    exact List.forall_mem_cons.2 ⟨List.mem_append_left _ hmem, fun f hf => List.mem_append_right _ hf⟩

/-- Files that were written one after the other are artifacts with different filenames. -/
theorem artifacts_of_writeEach {g : Generator} {clock : Nat → Int} {l : List Snapshot}
    {w w' : Workspace σ} {files : List MigrationFile}
    (h : (g.writeEach clock l).run w = (.ok files, w')) :
    (∀ f ∈ files, IsArtifactOf g.directory f) ∧ (files.map (·.filename)).Nodup := by
  have hcases := g.writeEach_cases clock l w
  rw [h] at hcases
  rcases hcases with ⟨written, -, hfiles, hwritten, -⟩ | ⟨path, f, hbroke⟩ | ⟨⟨e, hbroke⟩, -⟩
  · obtain rfl := Except.ok.inj hfiles
    refine ⟨List.forall_mem_map.2 hwritten.artifact, ?_⟩
    rw [List.map_map, List.nodup_iff_pairwise_ne, List.pairwise_map]
    refine hwritten.ascending.imp fun {p q} hlt heq => ?_
    have hsame : p.2.filename = q.2.filename := heq
    exact String.lt_irrefl _ (hsame ▸ hlt)
  · cases hbroke
  · cases hbroke

end Generator

end SchemaMigration.Generation
