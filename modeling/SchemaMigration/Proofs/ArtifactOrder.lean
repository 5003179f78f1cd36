import SchemaMigration.Migration.Discovery
import SchemaMigration.Proofs.FileChanges
import SchemaMigration.Proofs.FilenameCodec
import SchemaMigration.Proofs.Lists

/-
  The order of artifacts.

  Artifacts are listed by filename. A filename starts with the fourteen digits of its
  version, so a greater version makes a greater filename, and the last artifact listed has
  the greatest version. Filenames are compared by characters; artifacts have those of ASCII
  only, whose order is that of their bytes.

  Main statements: `filename_lt_of_version_lt`; `version_le_of_mem_discover`;
  `discover_putAt`, an artifact of a greater version is listed last; `filename_codec`, how
  filenames are read, written and ordered.
-/
namespace SchemaMigration.Migration

open Text Files Generation

/-! ## Filenames -/

theorem isPlain_of_ofFilename {filename : String} {f : MigrationFile}
    (h : MigrationFile.ofFilename filename = .ok f) : IsPlain filename := by
  obtain ⟨ds, name, htext, hlength, hdigits, hname, -⟩ := toList_of_ofFilename h
  have hlong : ∀ s : String, s.toList.length < 15 → filename ≠ s := by
    rintro s hs rfl
    rw [htext, List.length_append, List.length_cons] at hs
    omega
  refine ⟨hlong _ (by decide), hlong _ (by decide), hlong _ (by decide), ?_⟩
  rw [htext]
  rintro c hc rfl
  rcases List.mem_append.1 hc with hc | hc
  · exact absurd (List.all_eq_true.1 hdigits _ hc) (by decide)
  · rcases List.mem_cons.1 hc with hc | hc
    · cases hc
    · rcases List.mem_append.1 hc with hc | hc
      · exact absurd (hname _ hc) (by decide)
      · exact absurd hc (by decide)

/-! ## Digits -/

/-- Of two numbers with as many digits, the greater one has the greater digits. -/
theorem lt_of_ofDigitChars_lt {as bs x y : List Char} (hlength : as.length = bs.length)
    (has : allDigits as = true) (hbs : allDigits bs = true)
    (h : Nat.ofDigitChars 10 as 0 < Nat.ofDigitChars 10 bs 0) : as ++ x < bs ++ y := by
  induction as generalizing bs with
  | nil =>
    rw [List.eq_nil_of_length_eq_zero hlength.symm] at h
    exact absurd h (Nat.lt_irrefl _)
  | cons a as ih =>
    cases bs with
    | nil => cases hlength
    | cons b bs =>
      have hlen : as.length = bs.length := Nat.succ.inj hlength
      have hnot := mt (ofDigitChars_cons_le_iff hlen.symm hbs has).2 (Nat.not_le.2 h)
      rw [List.cons_append, List.cons_append, List.cons_lt_cons_iff]
      by_cases hab : a = b
      · refine .inr ⟨hab, ih hlen (allDigits_cons.1 has).2 (allDigits_cons.1 hbs).2 ?_⟩
        exact Nat.not_le.1 fun hle => hnot (.inr ⟨hab.symm, hle⟩)
      · exact .inl (Std.lt_of_le_of_ne (Char.not_lt.1 fun hgt => hnot (.inl hgt)) hab)

/-! ## The order of filenames -/

theorem filename_lt_of_version_lt {a b : String} {f g : MigrationFile}
    (hf : MigrationFile.ofFilename a = .ok f) (hg : MigrationFile.ofFilename b = .ok g)
    (h : f.version < g.version) : a < b := by
  obtain ⟨as, x, ha, hlas, has, -, hfv⟩ := toList_of_ofFilename hf
  obtain ⟨bs, y, hb, hlbs, hbs, -, hgv⟩ := toList_of_ofFilename hg
  rw [String.lt_iff, ha, hb]
  exact lt_of_ofDigitChars_lt (hlas.trans hlbs.symm) has hbs (hfv ▸ hgv ▸ h)

/-! ## Artifacts of a directory -/

/-- The artifact has the filename of an artifact, and its path is that of its filename in
the directory. -/
def IsArtifactOf (directory : String) (f : MigrationFile) : Prop :=
  MigrationFile.ofFilename f.filename = .ok { f with path := none } ∧
    f.path = some (join directory f.filename)

/-- A filename tells the artifact of a directory. -/
theorem IsArtifactOf.eq {directory : String} {f g : MigrationFile} (hf : IsArtifactOf directory f)
    (hg : IsArtifactOf directory g) (h : f.filename = g.filename) : f = g := by
  have hfields : { f with path := none } = { g with path := none } :=
    Except.ok.inj (hf.1.symm.trans ((congrArg _ h).trans hg.1))
  have hpath : f.path = g.path := hf.2.trans ((congrArg (some ∘ join directory) h).trans hg.2.symm)
  obtain ⟨fa, fb, fc, fd⟩ := f
  obtain ⟨ga, gb, gc, gd⟩ := g
  simp_all

/-- The artifact at an entry of a directory is that of a file under its name, if its path can
be taken. -/
theorem artifactAt?_eq_some_iff {directory : String} {entry : String × Node} {f : MigrationFile} :
    artifactAt? directory entry = some f ↔ (∃ text, entry = (f.filename, .file text)) ∧
      Tree.checkPath (Path.ofText (join directory f.filename)) = .ok () ∧
        IsArtifactOf directory f := by
  obtain ⟨name, node⟩ := entry
  constructor
  · intro h
    cases node with
    | directory => cases h
    | file text =>
      simp only [artifactAt?] at h
      split at h
      · next g hcheck hname =>
        cases h
        obtain ⟨hfilename, hpath⟩ := ofFilename_eq_ok hname
        obtain ⟨filename, version, gname, path⟩ := g
        simp only at hfilename hpath
        subst hfilename hpath
        exact ⟨⟨text, rfl⟩, hcheck, hname, rfl⟩
      · cases h
  · intro h
    obtain ⟨⟨text, hentry⟩, hcheck, hname, hpath⟩ := h
    cases hentry
    obtain ⟨filename, version, gname, path⟩ := f
    simp only [artifactAt?, hcheck, hname] at hpath ⊢
    rw [hpath]

theorem discover_eq_ok {t : Tree} {directory : String} {found : List MigrationFile}
    (h : discover t directory = .ok found) : t.get? directory = some .directory ∧
      found = ((t.children directory).filterMap (artifactAt? directory)).mergeSort
        fun a b => decide (a.filename ≤ b.filename) := by
  rw [discover] at h
  split at h
  · cases h
  · cases h
  · next hget =>
    cases h
    exact ⟨hget, rfl⟩

theorem isArtifactOf_of_mem {t : Tree} {directory : String} {found : List MigrationFile}
    (h : discover t directory = .ok found) {f : MigrationFile} (hf : f ∈ found) :
    IsArtifactOf directory f := by
  obtain ⟨-, rfl⟩ := discover_eq_ok h
  obtain ⟨n, -, hn⟩ := List.mem_filterMap.1 ((List.mergeSort_perm _ _).mem_iff.1 hf)
  exact (artifactAt?_eq_some_iff.1 hn).2.2

theorem pairwise_mergeSort_filename (l : List MigrationFile) :
    (l.mergeSort fun a b => decide (a.filename ≤ b.filename)).Pairwise
      fun a b => a.filename ≤ b.filename :=
  pairwise_sorted (fun a b => a.filename ≤ b.filename) String.le_trans
    (fun a b => String.le_total a.filename b.filename) l

theorem location_of_child {here : Location} {n : Location × Node} {entry : String × Node}
    (h : (if n.1.dropLast = here then n.1.getLast?.map (·, n.2) else none) = some entry) :
    n.1 = here ++ [entry.1] := by
  split at h
  · next hhere =>
    obtain ⟨name, hname, rfl⟩ := Option.map_eq_some_iff.1 h
    obtain ⟨front, hfront⟩ := List.getLast?_eq_some_iff.1 hname
    rw [hfront, List.dropLast_concat] at hhere
    rw [hfront, hhere]
  · cases h

/-- A directory of a tree that has each location once lists each filename once. -/
theorem nodup_discovered {files : Tree} {directory : String} {found : List MigrationFile}
    (hfiles : (files.nodes.map Prod.fst).Nodup) (h : discover files directory = .ok found) :
    (found.map (·.filename)).Nodup := by
  obtain ⟨-, rfl⟩ := discover_eq_ok h
  rw [((List.mergeSort_perm _ _).map _).nodup_iff]
  -- Locations are distinct, so are names in one directory, and so are artifacts.
  have hlocations : files.nodes.Pairwise fun n n' => n.1 ≠ n'.1 := List.pairwise_map.1 hfiles
  refine List.pairwise_map.2 (List.pairwise_filterMap.2 (List.pairwise_filterMap.2 ?_))
  refine hlocations.imp fun {n n'} hne entry hentry entry' hentry' f hf f' hf' hname => hne ?_
  obtain ⟨⟨_, rfl⟩, -⟩ := artifactAt?_eq_some_iff.1 hf
  obtain ⟨⟨_, rfl⟩, -⟩ := artifactAt?_eq_some_iff.1 hf'
  rw [location_of_child hentry, location_of_child hentry']
  exact congrArg (fun name => _ ++ [name]) hname

/-- No artifact has a greater version than the last one listed. -/
theorem version_le_of_mem_discover {t : Tree} {directory : String} {found : List MigrationFile}
    (h : discover t directory = .ok found) {f last : MigrationFile} (hf : f ∈ found)
    (hlast : found.getLast? = some last) : f.version ≤ last.version := by
  obtain ⟨firsts, hfound⟩ := List.getLast?_eq_some_iff.1 hlast
  have hmem : last ∈ found := hfound ▸ List.mem_append_right _ (List.mem_singleton_self last)
  have hsorted : found.Pairwise fun a b => a.filename ≤ b.filename := by
    obtain ⟨-, rfl⟩ := discover_eq_ok h
    exact pairwise_mergeSort_filename _
  have hle : f.filename ≤ last.filename := by
    rw [hfound] at hf hsorted
    rcases List.mem_append.1 hf with hf | hf
    · exact (List.pairwise_append.1 hsorted).2.2 f hf last (List.mem_singleton_self last)
    · obtain rfl := List.mem_singleton.1 hf
      exact String.le_refl _
  have hnot : ¬last.version < f.version := fun hlt =>
    String.not_lt.2 hle (filename_lt_of_version_lt (isArtifactOf_of_mem h hmem).1
      (isArtifactOf_of_mem h (hfound ▸ hf)).1 hlt)
  exact Nat.not_lt.1 hnot

/-- An artifact of a greater version than all others is listed last. -/
theorem discover_putAt {t : Tree} {directory : String} {found : List MigrationFile}
    (h : discover t directory = .ok found) {file : MigrationFile} {text : String}
    (hfile : IsArtifactOf directory file)
    (hcheck : Tree.checkPath (Path.ofText (join directory file.filename)) = .ok ())
    (hvacant : t.at? (placeIn directory file.filename) = none)
    (hlast : ∀ f ∈ found, f.version < file.version) :
    discover (t.putAt (placeIn directory file.filename) (.file text)) directory =
      .ok (found ++ [file]) := by
  obtain ⟨hget, hfound⟩ := discover_eq_ok h
  have hmore : ∀ l node, t.at? l = some node →
      (t.putAt (placeIn directory file.filename) (.file text)).at? l = some node :=
    fun l node hl => Tree.at?_putAt_mono hvacant hl _
  have hself : artifactAt? directory (file.filename, .file text) = some file :=
    artifactAt?_eq_some_iff.2 ⟨⟨text, rfl⟩, hcheck, hfile⟩
  have hperm : (((t.children directory).filterMap (artifactAt? directory) ++ [file]).mergeSort
      fun a b => decide (a.filename ≤ b.filename)).Perm (found ++ [file]) := by
    rw [hfound]
    exact (List.mergeSort_perm _ _).trans ((List.mergeSort_perm _ _).symm.append_right [file])
  have hsorted : (found ++ [file]).Pairwise fun a b => a.filename ≤ b.filename := by
    refine List.pairwise_append.2 ⟨hfound ▸ pairwise_mergeSort_filename _, by simp, ?_⟩
    intro f hf g hg
    rw [List.mem_singleton.1 hg]
    exact String.not_lt.1 (String.lt_asymm
      (filename_lt_of_version_lt (isArtifactOf_of_mem h hf).1 hfile.1 (hlast f hf)))
  have hartifact : ∀ f ∈ found ++ [file], IsArtifactOf directory f := by
    intro f hf
    rcases List.mem_append.1 hf with hf | hf
    · exact isArtifactOf_of_mem h hf
    · rw [List.mem_singleton.1 hf]
      exact hfile
  -- a directory has no two artifacts of one filename, so only one order is sorted
  have hunique := List.Perm.eq_of_pairwise (fun f g hf hg hfg hgf =>
    (hartifact f (hperm.mem_iff.1 hf)).eq (hartifact g hg) (String.le_antisymm hfg hgf))
    (pairwise_mergeSort_filename _) hsorted hperm
  rw [discover, Tree.get?_mono hmore hget, Tree.children_putAt hvacant, List.filterMap_append,
    List.filterMap_cons, hself]
  exact congrArg Except.ok hunique

/-- A filename is read exactly if it has the form of an artifact's, and is an error with a
reason of its own if only its digits are wrong. Reading and writing undo each other. A
smaller version makes a smaller filename, so the last artifact that a directory lists has the
greatest version. -/
theorem filename_codec :
    (∀ filename, (∃ f, MigrationFile.ofFilename filename = .ok f) ↔ IsArtifactName filename) ∧
    (∀ filename, HasForm isDecimalDigit filename → ¬IsArtifactName filename →
      MigrationFile.ofFilename filename = .error (.foreignDigits filename)) ∧
    (∀ filename f, MigrationFile.ofFilename filename = .ok f →
      f.filename = filename ∧ MigrationFile.format f.version f.name = filename) ∧
    (∀ version name, version < 10 ^ 14 → name ≠ "" → (∀ c ∈ name.toList, isNameChar c = true) →
      MigrationFile.ofFilename (MigrationFile.format version name) =
        .ok ⟨MigrationFile.format version name, version, name, none⟩) ∧
    (∀ a b f g, MigrationFile.ofFilename a = .ok f → MigrationFile.ofFilename b = .ok g →
      f.version < g.version → a < b) ∧
    ∀ files directory found last, discover files directory = .ok found →
      found.getLast? = some last → ∀ f ∈ found, f.version ≤ last.version := by
  refine ⟨fun _ => exists_ofFilename_iff, fun filename hform hnot => ?_, fun filename f h => ?_,
    fun version name hversion hne hname => ?_, fun a b f g hf hg hlt => ?_,
    fun files directory found last h hlast f hf => ?_⟩
  · rcases ofFilename_eq_error hnot with ⟨-, herror⟩ | ⟨hother, -⟩
    · exact herror
    · exact absurd hform hother
  · exact ⟨(ofFilename_eq_ok h).1, (format_of_ofFilename h).2⟩
  · exact ofFilename_format hversion (fun hnil => hne (String.toList_eq_nil_iff.1 hnil)) hname
  · exact filename_lt_of_version_lt hf hg hlt
  · exact version_le_of_mem_discover h hf hlast

/-- A version with leading zeros and a name that starts with a digit are read again. The same
version in Arabic digits has the form, and is refused. -/
theorem filename_codec_early :
    MigrationFile.format 120120000 "2_users" = "00000120120000_2_users.rs" ∧
    MigrationFile.ofFilename "00000120120000_2_users.rs" =
      .ok ⟨"00000120120000_2_users.rs", 120120000, "2_users", none⟩ ∧
    IsArtifactName "00000120120000_2_users.rs" ∧
    MigrationFile.ofFilename "٠٠٠٠٠١٢٠١٢٠٠٠٠_2_users.rs" =
      .error (.foreignDigits "٠٠٠٠٠١٢٠١٢٠٠٠٠_2_users.rs") := by
  have hname : ∀ c ∈ "2_users".toList, isNameChar c = true := List.all_eq_true.1 rfl
  have hdigits : ∀ c ∈ "٠٠٠٠٠١٢٠١٢٠٠٠٠".toList, isDecimalDigit c = true := List.all_eq_true.1 rfl
  have hread := filename_codec.2.2.2.1 120120000 "2_users" (by decide) (by decide) hname
  refine ⟨by decide, hread, (filename_codec.1 _).1 ⟨_, hread⟩,
    filename_codec.2.1 _ ⟨"٠٠٠٠٠١٢٠١٢٠٠٠٠".toList, "2_users".toList, ?_⟩ fun hartifact => ?_⟩
  · exact ⟨rfl, rfl, hdigits, by decide, hname⟩
  · obtain ⟨f, hf⟩ := (filename_codec.1 _).2 hartifact
    cases hf

end SchemaMigration.Migration
