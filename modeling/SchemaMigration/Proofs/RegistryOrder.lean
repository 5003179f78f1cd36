import SchemaMigration.Proofs.ManagerPlans

/-
  The order of a registry.

  A registry keeps its migrations by identity, an `m` and the filename without its ending,
  while a directory lists artifacts by filename. Where one filename without its ending starts
  another, the identities are told apart by their lengths and the filenames by the dot of the
  ending. A dot comes before all digits, letters and underscores, so both orders agree.

  A call that registers a migration either fails, and then its filename is no artifact's or
  is there already, or adds the filename. So after any calls the filenames are those of
  artifacts among all that were tried, each once and in order. A directory that has files of
  just these names lists the same, if their paths are not too long.

  Main statements: `Registry.Named.register_cases`, one call; `named_registryOf` and
  `mem_registryOf_iff`, any calls; `mem_discovered_iff`, what a directory lists;
  `registry_filenames`.
-/
namespace SchemaMigration.Migration

open Text Files Database

/-! ## The order of identities -/

theorem dot_lt_of_isNameChar {c : Char} (h : isNameChar c = true) : '.' < c := by
  have hcode : 48 ≤ c.toNat := by
    rw [isNameChar, Char.isAlphanum, Bool.or_eq_true, Bool.or_eq_true, beq_iff_eq] at h
    rcases h with (hletter | hdigit) | rfl
    · rcases (Bool.or_eq_true_iff.1 hletter : c.isUpper = true ∨ c.isLower = true) with h | h
      · have hA : 65 ≤ c.toNat := (of_decide_eq_true h).1
        omega
      · have ha : 97 ≤ c.toNat := of_decide_eq_true (Bool.and_eq_true_iff.1 h).1
        omega
    · have h0 : 48 ≤ c.toNat := of_decide_eq_true (Bool.and_eq_true_iff.1 hdigit).1
      exact h0
    · decide
  exact Nat.lt_of_lt_of_le (by decide : '.'.toNat < 48) hcode

/-- Texts before a dot keep their order if no character of them comes before the dot. -/
theorem append_dot_lt {as bs x y : List Char} (hbs : ∀ c ∈ bs, '.' < c) (h : as < bs) :
    as ++ '.' :: x < bs ++ '.' :: y := by
  induction as generalizing bs with
  | nil =>
    cases bs with
    | nil => exact absurd h (List.lt_irrefl [])
    | cons b bs => exact List.cons_lt_cons_iff.2 (.inl (hbs b List.mem_cons_self))
  | cons a as ih =>
    cases bs with
    | nil => exact absurd h (List.not_lt_nil _)
    | cons b bs =>
      obtain ⟨-, hbs⟩ := List.forall_mem_cons.1 hbs
      rw [List.cons_append, List.cons_append, List.cons_lt_cons_iff]
      rcases List.cons_lt_cons_iff.1 h with hab | ⟨hab, hrest⟩
      · exact .inl hab
      · exact .inr ⟨hab, ih hbs hrest⟩

/-- The filename of an artifact without its ending. -/
theorem exists_stem {file : String} (h : IsArtifactName file) :
    ∃ stem, file.toList = stem ++ extension ∧ (∀ c ∈ stem, '.' < c) ∧
      (identityOf file).toList = 'm' :: stem := by
  obtain ⟨version, name, htext, -, hversion, -, hname⟩ := h
  have hfile : file.toList = (version ++ '_' :: name) ++ extension := by
    rw [htext, List.append_assoc, List.cons_append]
  refine ⟨version ++ '_' :: name, hfile, ?_, ?_⟩
  · intro c hc
    rcases List.mem_append.1 hc with hc | hc
    · apply dot_lt_of_isNameChar
      rw [isNameChar, Char.isAlphanum, hversion c hc, Bool.or_true, Bool.true_or]
    · rcases List.mem_cons.1 hc with rfl | hc
      · decide
      · exact dot_lt_of_isNameChar (hname c hc)
  · rw [identityOf, stem?_eq_some_iff.2 hfile, Option.getD_some, String.toList_append,
      String.toList_ofList, String.toList_ofList]
    exact List.singleton_append

/-- Artifacts with identities in order have filenames in order. -/
theorem lt_of_identityOf_lt {a b : String} (ha : IsArtifactName a) (hb : IsArtifactName b)
    (h : identityOf a < identityOf b) : a < b := by
  obtain ⟨as, hatext, -, haidentity⟩ := exists_stem ha
  obtain ⟨bs, hbtext, hbs, hbidentity⟩ := exists_stem hb
  rw [String.lt_iff, haidentity, hbidentity, List.cons_lt_cons_iff] at h
  have hstems : as < bs := by
    rcases h with hm | ⟨-, hstems⟩
    · exact absurd hm (by decide)
    · exact hstems
  rw [String.lt_iff, hatext, hbtext]
  exact append_dot_lt hbs hstems

/-- No two artifacts have one identity. -/
theorem eq_of_identityOf_eq {a b : String} (ha : IsArtifactName a) (hb : IsArtifactName b)
    (h : identityOf a = identityOf b) : a = b := by
  obtain ⟨as, hatext, -, haidentity⟩ := exists_stem ha
  obtain ⟨bs, hbtext, -, hbidentity⟩ := exists_stem hb
  have hcons : 'm' :: as = 'm' :: bs := by rw [← haidentity, ← hbidentity, h]
  apply String.toList_injective
  rw [hatext, hbtext, (List.cons.inj hcons).2]

/-! ## One call -/

namespace Registry

/-- Each migration stands under the identity of its filename, which is an artifact's. -/
def Named (r : Registry) : Prop :=
  ∀ e ∈ r.entries.entries, e.1 = identityOf e.2.1 ∧ IsArtifactName e.2.1

theorem mem_filenames {r : Registry} {file : String} :
    file ∈ r.filenames ↔ ∃ e ∈ r.entries.entries, e.2.1 = file := by
  rw [filenames, NameMap.values, List.map_map]
  exact List.mem_map

/-- Under an identity that is free a migration joins those that are there. -/
theorem mem_filenames_insert {r : Registry} {file : String} {scripts : Scripts}
    (hfree : ¬r.entries.contains (identityOf file) = true) {name : String} :
    name ∈ Registry.filenames ⟨r.entries.insert (identityOf file) (file, scripts)⟩ ↔
      name = file ∨ name ∈ r.filenames := by
  rw [mem_filenames, mem_filenames]
  constructor
  · rintro ⟨e, he, hname⟩
    rcases NameMap.mem_insertEntry he with rfl | he
    · exact .inl hname.symm
    · exact .inr ⟨e, he, hname⟩
  · rintro (rfl | ⟨⟨key, file', scripts'⟩, he, hname⟩)
    · refine ⟨(identityOf name, name, scripts), NameMap.get?_eq_some_iff.1 ?_, rfl⟩
      rw [NameMap.get?_insert, if_pos rfl]
    · refine ⟨(key, file', scripts'), NameMap.get?_eq_some_iff.1 ?_, hname⟩
      -- Nothing stands under the identity, so the insertion replaces no entry.
      have hne : identityOf file ≠ key := by
        rintro rfl
        exact hfree (Option.isSome_iff_exists.2 ⟨_, NameMap.get?_eq_some_iff.2 he⟩)
      rw [NameMap.get?_insert, if_neg hne]
      exact NameMap.get?_eq_some_iff.2 he

namespace Named
variable {r : Registry} (h : r.Named)
include h

/-- The filenames are in order, each once. -/
theorem pairwise_filenames : r.filenames.Pairwise (· < ·) := by
  rw [filenames, NameMap.values, List.map_map, List.pairwise_map]
  refine r.entries.sorted.imp_of_mem fun {e e'} he he' hlt => ?_
  obtain ⟨hidentity, hname⟩ := h e he
  obtain ⟨hidentity', hname'⟩ := h e' he'
  rw [hidentity, hidentity'] at hlt
  exact lt_of_identityOf_lt hname hname' hlt

/-- An artifact's identity is taken if its filename is there. -/
theorem contains_iff {file : String} (hfile : IsArtifactName file) :
    r.entries.contains (identityOf file) = true ↔ file ∈ r.filenames := by
  rw [NameMap.contains, ← NameMap.mem_keys_iff, mem_filenames, NameMap.keys, List.mem_map]
  constructor
  · intro hmem
    obtain ⟨e, he, hidentity⟩ := hmem
    obtain ⟨hkey, hname⟩ := h e he
    exact ⟨e, he, eq_of_identityOf_eq hname hfile (hkey.symm.trans hidentity)⟩
  · intro hmem
    obtain ⟨e, he, rfl⟩ := hmem
    exact ⟨e, he, (h e he).1⟩

/-- What a call that registers a migration can do. -/
theorem register_cases (file : String) (scripts : Scripts) :
    (¬IsArtifactName file ∧ ∃ f, r.register file scripts = .error (.malformed (.filename f))) ∨
    (IsArtifactName file ∧ file ∈ r.filenames ∧
      r.register file scripts = .error (.alreadyRegistered file)) ∨
    (IsArtifactName file ∧ file ∉ r.filenames ∧ ∃ r', r.register file scripts = .ok r' ∧
      r'.Named ∧ ∀ name, name ∈ r'.filenames ↔ name = file ∨ name ∈ r.filenames) := by
  rw [register]
  cases hread : MigrationFile.ofFilename file with
  | error f =>
    refine .inl ⟨fun hfile => ?_, f, rfl⟩
    obtain ⟨g, hg⟩ := exists_ofFilename_iff.2 hfile
    cases hg.symm.trans hread
  | ok g =>
    have hfile : IsArtifactName file := exists_ofFilename_iff.1 ⟨g, hread⟩
    have hidentity : g.identity = identityOf file := by
      rw [MigrationFile.identity, (ofFilename_eq_ok hread).1]
    have hcontains := h.contains_iff hfile
    simp only [hidentity, (ofFilename_eq_ok hread).1]
    split
    · next htaken => exact .inr (.inl ⟨hfile, hcontains.1 htaken, rfl⟩)
    · next hfree =>
      refine .inr (.inr ⟨hfile, fun hmem => hfree (hcontains.2 hmem), _, rfl, ?_, ?_⟩)
      · intro e he
        rcases NameMap.mem_insertEntry he with rfl | he
        · exact ⟨rfl, hfile⟩
        · exact h e he
      · exact fun name => mem_filenames_insert hfree

theorem isArtifactName {file : String} (hfile : file ∈ r.filenames) : IsArtifactName file := by
  obtain ⟨e, he, rfl⟩ := mem_filenames.1 hfile
  exact (h e he).2

theorem register_eq_alreadyRegistered_iff {file : String} {scripts : Scripts} :
    r.register file scripts = .error (.alreadyRegistered file) ↔ file ∈ r.filenames := by
  rcases h.register_cases file scripts with
    ⟨hfile, f, hr⟩ | ⟨-, hthere, hr⟩ | ⟨-, hnew, r', hr, -⟩
  · rw [hr]
    exact ⟨nofun, fun hmem => absurd (h.isArtifactName hmem) hfile⟩
  · exact ⟨fun _ => hthere, fun _ => hr⟩
  · rw [hr]
    exact ⟨nofun, fun hmem => absurd hmem hnew⟩

theorem exists_register_iff {file : String} {scripts : Scripts} :
    (∃ r', r.register file scripts = .ok r') ↔ IsArtifactName file ∧ file ∉ r.filenames := by
  rcases h.register_cases file scripts with
    ⟨hfile, f, hr⟩ | ⟨-, hthere, hr⟩ | ⟨hfile, hnew, r', hr, -⟩
  · rw [hr]
    exact ⟨nofun, fun hmem => absurd hmem.1 hfile⟩
  · rw [hr]
    exact ⟨nofun, fun hmem => absurd hthere hmem.2⟩
  · exact ⟨fun _ => ⟨hfile, hnew⟩, fun _ => ⟨r', hr⟩⟩

/-- The registry after a call. -/
theorem after_call (file : String) (scripts : Scripts) :
    ((r.register file scripts).toOption.getD r).Named ∧
      ∀ name, name ∈ ((r.register file scripts).toOption.getD r).filenames ↔
        name ∈ r.filenames ∨ IsArtifactName name ∧ name = file := by
  rcases h.register_cases file scripts with
    ⟨hfile, f, hr⟩ | ⟨-, hthere, hr⟩ | ⟨hfile, -, r', hr, hnamed, hmem⟩
  · rw [hr]
    refine ⟨h, fun name => (or_iff_left ?_).symm⟩
    rintro ⟨hname, rfl⟩
    exact hfile hname
  · rw [hr]
    refine ⟨h, fun name => (or_iff_left_of_imp ?_).symm⟩
    rintro ⟨-, rfl⟩
    exact hthere
  · rw [hr]
    refine ⟨hnamed, fun name => (hmem name).trans (or_comm.trans (or_congr_right ?_))⟩
    exact ⟨fun hname => ⟨hname ▸ hfile, hname⟩, And.right⟩

/-- The registry after some calls. -/
theorem after_calls (calls : List (String × Scripts)) :
    (calls.foldl (fun r p => (r.register p.1 p.2).toOption.getD r) r).Named ∧
      ∀ name, name ∈ (calls.foldl (fun r p => (r.register p.1 p.2).toOption.getD r) r).filenames ↔
        name ∈ r.filenames ∨ IsArtifactName name ∧ name ∈ calls.map Prod.fst := by
  induction calls generalizing r with
  | nil => exact ⟨h, fun name => by simp⟩
  | cons call calls ih =>
    obtain ⟨hcall, hfirst⟩ := h.after_call call.1 call.2
    obtain ⟨hnamed, hrest⟩ := ih hcall
    refine ⟨hnamed, fun name => (hrest name).trans ?_⟩
    rw [hfirst name, List.map_cons, List.mem_cons, or_assoc, ← and_or_left]

end Named

theorem named_empty : empty.Named := fun _ he => absurd he List.not_mem_nil

end Registry

/-! ## Any calls -/

theorem registryOf_concat (calls : List (String × Scripts)) (file : String) (scripts : Scripts) :
    registryOf (calls ++ [(file, scripts)]) =
      ((registryOf calls).register file scripts).toOption.getD (registryOf calls) := by
  rw [registryOf, List.foldl_append]
  rfl

theorem named_registryOf (calls : List (String × Scripts)) : (registryOf calls).Named :=
  (Registry.named_empty.after_calls calls).1

/-- After any calls, the filenames are those of artifacts among all that were tried. -/
theorem mem_registryOf_iff {calls : List (String × Scripts)} {name : String} :
    name ∈ (registryOf calls).filenames ↔ IsArtifactName name ∧ name ∈ calls.map Prod.fst := by
  rw [registryOf, (Registry.named_empty.after_calls calls).2 name]
  exact or_iff_right List.not_mem_nil

/-! ## Directories -/

/-- What a directory lists: the files with names of artifacts, if their paths are not too
long. -/
theorem mem_discovered_iff {files : Tree} {directory : String} {found : List MigrationFile}
    (h : discover files directory = .ok found) {name : String} :
    name ∈ found.map (·.filename) ↔ IsArtifactName name ∧
      (∃ text, (name, .file text) ∈ files.children directory) ∧
        (join directory name).utf8ByteSize ≤ 4095 := by
  obtain ⟨hdirectory, rfl⟩ := discover_eq_ok h
  -- The name of an artifact has no zero in it, so of its path only the length is checked.
  have hpath : ∀ {file f}, MigrationFile.ofFilename file = .ok f →
      (Tree.checkPath (Path.ofText (join directory file)) = .ok () ↔
        (join directory file).utf8ByteSize ≤ 4095) := by
    intro file f hread
    refine Tree.checkPath_join_iff hdirectory (isPlain_of_ofFilename hread) fun hzero => ?_
    obtain ⟨stem, htext, hstem, -⟩ := exists_stem (exists_ofFilename_iff.1 ⟨f, hread⟩)
    rw [htext] at hzero
    rcases List.mem_append.1 hzero with hzero | hzero
    · exact absurd (hstem _ hzero) (by decide)
    · exact absurd hzero (by decide)
  rw [List.mem_map]
  constructor
  · intro hmem
    obtain ⟨f, hf, rfl⟩ := hmem
    obtain ⟨entry, hentry, hfile⟩ := List.mem_filterMap.1 (List.mem_mergeSort.1 hf)
    obtain ⟨⟨text, rfl⟩, hcheck, hread, -⟩ := artifactAt?_eq_some_iff.1 hfile
    exact ⟨exists_ofFilename_iff.1 ⟨_, hread⟩, ⟨text, hentry⟩, (hpath hread).1 hcheck⟩
  · intro hmem
    obtain ⟨hname, ⟨text, hentry⟩, hshort⟩ := hmem
    obtain ⟨f, hread⟩ := exists_ofFilename_iff.2 hname
    obtain ⟨filename, version, fname, path⟩ := f
    obtain ⟨hfilename, hnone⟩ := ofFilename_eq_ok hread
    simp only at hfilename hnone
    subst hfilename hnone
    refine ⟨⟨filename, version, fname, some (join directory filename)⟩, ?_, rfl⟩
    refine List.mem_mergeSort.2 (List.mem_filterMap.2 ⟨_, hentry, ?_⟩)
    exact artifactAt?_eq_some_iff.2 ⟨⟨text, rfl⟩, (hpath hread).2 hshort, hread, rfl⟩

/-- A directory of a tree that has each location once lists its artifacts in order, each
once. -/
theorem pairwise_discovered {files : Tree} {directory : String} {found : List MigrationFile}
    (hfiles : (files.nodes.map Prod.fst).Nodup) (h : discover files directory = .ok found) :
    (found.map (·.filename)).Pairwise (· < ·) := by
  have hnodup := nodup_discovered hfiles h
  obtain ⟨-, rfl⟩ := discover_eq_ok h
  have hsorted := List.pairwise_map.2 (pairwise_mergeSort_filename
    ((files.children directory).filterMap (artifactAt? directory)))
  exact (hsorted.and hnodup).imp fun h => Std.lt_of_le_of_ne h.1 h.2

/-- Names in order are told by their members. -/
theorem eq_of_pairwise_lt {as bs : List String} (has : as.Pairwise (· < ·))
    (hbs : bs.Pairwise (· < ·)) (h : ∀ name, name ∈ as ↔ name ∈ bs) : as = bs := by
  have hperm : as.Perm bs := (List.perm_ext_iff_of_nodup (has.imp String.ne_of_lt)
    (hbs.imp String.ne_of_lt)).2 h
  exact hperm.eq_of_pairwise (fun a b _ _ hab hba => absurd hba (String.lt_asymm hab)) has hbs

/-- A directory that has files of the names in a registry, with paths that are not too long,
lists these names. -/
theorem discover_eq_filenames {r : Registry} (hr : r.Named) {files : Tree} {directory : String}
    (hfiles : (files.nodes.map Prod.fst).Nodup) (hdirectory : files.get? directory = some .directory)
    (hsame : ∀ name, name ∈ r.filenames ↔
      IsArtifactName name ∧ ∃ text, (name, .file text) ∈ files.children directory)
    (hshort : ∀ name ∈ r.filenames, (join directory name).utf8ByteSize ≤ 4095) :
    ((discover files directory).map fun found => found.map (·.filename)) = .ok r.filenames := by
  obtain ⟨found, hfound⟩ : ∃ found, discover files directory = .ok found := by
    rw [discover, hdirectory]
    exact ⟨_, rfl⟩
  have hlisted : found.map (·.filename) = r.filenames := by
    apply eq_of_pairwise_lt (pairwise_discovered hfiles hfound) hr.pairwise_filenames
    intro name
    rw [mem_discovered_iff hfound, ← and_assoc, ← hsame]
    exact and_iff_left_of_imp (hshort name)
  rw [hfound, ← hlisted]
  rfl

/-! ## Long paths -/

/-- Many slashes. -/
def slashes (n : Nat) : String := String.ofList (List.replicate n '/')

theorem slashes_succ (n : Nat) : slashes (n + 1) = slashes n ++ "/" := by
  rw [slashes, List.replicate_succ', String.ofList_append]
  rfl

theorem utf8ByteSize_slashes (n : Nat) : (slashes n).utf8ByteSize = n := by
  induction n with
  | zero => rfl
  | succ n ih =>
    rw [slashes_succ, String.utf8ByteSize_append, ih]
    rfl

theorem getLast?_slashes (directory : String) (n : Nat) :
    (directory ++ slashes (n + 1)).toList.getLast? = some '/' := by
  rw [slashes_succ, ← String.append_assoc, String.toList_append]
  exact List.getLast?_concat

/-- Slashes at the end of a path are followed by empty parts. -/
theorem ofText_slashes (directory : String) (n : Nat) :
    Path.ofText (directory ++ slashes n) = Path.ofText directory ++ List.replicate n "" := by
  induction n with
  | zero => rw [slashes, List.replicate_zero, List.replicate_zero, List.append_nil,
      String.ofList_nil, String.append_empty]
  | succ n ih =>
    have hlast : directory ++ slashes (n + 1) = (directory ++ slashes n) ++ "/" ++ "" := by
      rw [slashes_succ, String.append_empty, String.append_assoc]
    rw [hlast, ofText_slash, ih, List.replicate_succ', List.append_assoc]
    rfl

theorem location_slashes (directory : String) (n : Nat) :
    Path.location [] (Path.ofText (directory ++ slashes n)) =
      Path.location [] (Path.ofText directory) := by
  rw [ofText_slashes, Path.location_append]
  exact Tree.location_of_empty (fun part hpart => (List.mem_replicate.1 hpart).2) _

/-- A path leads to a directory with slashes behind it, unless it gets too long. -/
theorem get?_slashes {files : Tree} {directory : String} {n : Nat}
    (h : files.get? directory = some .directory)
    (hshort : (directory ++ slashes n).utf8ByteSize ≤ 4095) :
    files.get? (directory ++ slashes n) = some .directory := by
  obtain ⟨hcheck, l, hwalk, hl⟩ := Tree.find?_eq_some h
  have hcheck' : Tree.checkPath (Path.ofText (directory ++ slashes n)) = .ok () := by
    refine Tree.checkPath_eq_ok_iff.2 ⟨fun hempty => ?_, ?_, by rwa [Tree.text_ofText]⟩
    · refine Tree.ne_empty_of_get? h ?_
      exact (String.append_eq_empty_iff.1 (Tree.ofText_eq_empty_iff.1 hempty)).1
    · rw [ofText_slashes, List.any_append, (Tree.checkPath_eq_ok_iff.1 hcheck).2.1,
        List.any_replicate]
      split <;> rfl
  have hstay : ∀ n, files.walk l (List.replicate n "") = .ok l := by
    intro n
    induction n with
    | zero => rfl
    | succ n ih =>
      rw [List.replicate_succ, Tree.walk, Tree.enter, hl]
      exact ih
  have hwalk' : files.walk [] (Path.ofText (directory ++ slashes n)) = .ok l := by
    rw [ofText_slashes]
    exact Tree.walk_append.2 ⟨l, hwalk, hstay n⟩
  rw [Tree.get?, Tree.find?, hcheck', hwalk']
  exact hl

/-! ## Registries and directories -/

/-- A call fails for a name that is no artifact's, or as registered already if the name was
tried before, and a call that fails leaves the registry. The filenames are those of artifacts
among all that were tried, each once and in order. A directory that has files of just these
names, with paths that are not too long, lists the same. So it makes no difference whether a
manager finds its migrations in the directory or in the registry. -/
theorem registry_filenames (calls : List (String × Scripts)) :
    (∀ file scripts,
      (¬IsArtifactName file →
        ∃ f, (registryOf calls).register file scripts = .error (.malformed (.filename f))) ∧
      ((registryOf calls).register file scripts = .error (.alreadyRegistered file) ↔
        IsArtifactName file ∧ file ∈ calls.map Prod.fst) ∧
      ((∃ r, (registryOf calls).register file scripts = .ok r) ↔
        IsArtifactName file ∧ file ∉ calls.map Prod.fst) ∧
      ∀ e, (registryOf calls).register file scripts = .error e →
        registryOf (calls ++ [(file, scripts)]) = registryOf calls) ∧
    (registryOf calls).filenames.Pairwise (· < ·) ∧
    (∀ file, file ∈ (registryOf calls).filenames ↔
      IsArtifactName file ∧ file ∈ calls.map Prod.fst) ∧
    ∀ files directory, (files.nodes.map Prod.fst).Nodup →
      files.get? directory = some .directory →
      (∀ name, name ∈ (registryOf calls).filenames ↔
        IsArtifactName name ∧ ∃ text, (name, .file text) ∈ files.children directory) →
      (∀ name ∈ (registryOf calls).filenames, (join directory name).utf8ByteSize ≤ 4095) →
      ((discover files directory).map fun found => found.map (·.filename)) =
          .ok (registryOf calls).filenames ∧
        ∀ m : Manager, m.available = .ok (registryOf calls).filenames →
          m.inDirectory files directory = m := by
  have hnamed := named_registryOf calls
  refine ⟨fun file scripts => ⟨fun hfile => ?_, ?_, ?_, fun e he => ?_⟩,
    hnamed.pairwise_filenames, fun file => mem_registryOf_iff, ?_⟩
  · rcases hnamed.register_cases file scripts with ⟨-, hr⟩ | ⟨hname, -⟩ | ⟨hname, -⟩
    · exact hr
    · exact absurd hname hfile
    · exact absurd hname hfile
  · rw [hnamed.register_eq_alreadyRegistered_iff, mem_registryOf_iff]
  · rw [hnamed.exists_register_iff, mem_registryOf_iff]
    exact and_congr_right fun hname => not_congr (and_iff_right hname)
  · rw [registryOf_concat, he]
    rfl
  · intro files directory hfiles hdirectory hsame hshort
    have hlisted := discover_eq_filenames hnamed hfiles hdirectory hsame hshort
    refine ⟨hlisted, fun m hm => ?_⟩
    rw [Manager.inDirectory, hlisted, ← hm]

/-- Calls with a name tried twice, one that is no artifact's, and one that starts another. -/
def mixedCalls : List (String × Scripts) :=
  ["20240102000000_b.rs", "20240101000000_a_b.rs", "20240102000000_b.rs", "mod.rs",
    "20240101000000_a.rs"].map (·, ⟨[], []⟩)

/-- A directory with other files, and with a directory that has the name of an artifact. -/
def mixedFiles : Tree :=
  ⟨[(["migrations"], .directory), (["migrations", "mod.rs"], .file ""),
    (["migrations", "20240101000000_a_b.rs"], .file ""),
    (["migrations", "20240101000000_c.rs"], .directory),
    (["migrations", "20240102000000_b.rs"], .file ""),
    (["migrations", "20240101000000_a.rs"], .file "")]⟩

/-- The registry of the calls and the directory agree. -/
theorem registry_filenames_mixed :
    (registryOf mixedCalls).filenames =
        ["20240101000000_a.rs", "20240101000000_a_b.rs", "20240102000000_b.rs"] ∧
      ((discover mixedFiles "migrations").map fun found => found.map (·.filename)) =
        .ok (registryOf mixedCalls).filenames ∧
      (Manager.ofRegistry (registryOf mixedCalls)).inDirectory mixedFiles "migrations" =
        Manager.ofRegistry (registryOf mixedCalls) := by
  have hnames : (registryOf mixedCalls).filenames =
      ["20240101000000_a.rs", "20240101000000_a_b.rs", "20240102000000_b.rs"] := by decide
  obtain ⟨-, -, hmem, hagree⟩ := registry_filenames mixedCalls
  have hchildren : mixedFiles.children "migrations" =
      [("mod.rs", .file ""), ("20240101000000_a_b.rs", .file ""),
        ("20240101000000_c.rs", .directory), ("20240102000000_b.rs", .file ""),
        ("20240101000000_a.rs", .file "")] := by decide
  have hmod : ¬IsArtifactName "mod.rs" := by
    intro hname
    obtain ⟨f, hf⟩ := exists_ofFilename_iff.2 hname
    cases hf
  -- Apart from the registered files there are a module, which is no artifact, and a directory
  -- with the name of one.
  have hsame : ∀ name, name ∈ (registryOf mixedCalls).filenames ↔
      IsArtifactName name ∧ ∃ text, (name, .file text) ∈ mixedFiles.children "migrations" := by
    intro name
    constructor
    · intro hname
      refine ⟨((hmem name).1 hname).1, "", ?_⟩
      rw [hnames] at hname
      rw [hchildren]
      revert name
      decide
    · rintro ⟨hname, text, hentry⟩
      rw [hchildren] at hentry
      rw [hnames]
      simp only [List.mem_cons, Prod.mk.injEq, reduceCtorEq, and_false, List.not_mem_nil,
        or_false, false_or] at hentry ⊢
      rcases hentry with ⟨rfl, -⟩ | ⟨rfl, -⟩ | ⟨rfl, -⟩ | ⟨rfl, -⟩
      · exact absurd hname hmod
      · exact .inr (.inl rfl)
      · exact .inr (.inr rfl)
      · exact .inl rfl
  have hshort : ∀ name ∈ (registryOf mixedCalls).filenames,
      (join "migrations" name).utf8ByteSize ≤ 4095 := by
    rw [hnames]
    decide
  obtain ⟨hlisted, hmanager⟩ := hagree mixedFiles "migrations" (by decide) (by decide) hsame hshort
  exact ⟨hnames, hlisted, hmanager _ rfl⟩

/-- A directory with one artifact. -/
def loneFiles : Tree :=
  ⟨[(["migrations"], .directory), (["migrations", "20240101000000_users.rs"], .file "")]⟩

/-- The directory lists nothing if so many slashes follow its path that the artifact's gets too
long. -/
theorem distant_artifact_passed_over :
    (registryOf [("20240101000000_users.rs", ⟨[], []⟩)]).filenames = ["20240101000000_users.rs"] ∧
    IsArtifactName "20240101000000_users.rs" ∧ (loneFiles.nodes.map Prod.fst).Nodup ∧
    loneFiles.get? ("migrations" ++ slashes 4080) = some .directory ∧
    loneFiles.children ("migrations" ++ slashes 4080) = [("20240101000000_users.rs", .file "")] ∧
    discover loneFiles ("migrations" ++ slashes 4080) = .ok [] := by
  -- The slashes are too many to compute with: they lead to where the path leads without them.
  have hdirectory : loneFiles.get? ("migrations" ++ slashes 4080) = some .directory := by
    apply get?_slashes (by decide)
    rw [String.utf8ByteSize_append, utf8ByteSize_slashes]
    decide
  have hchildren : loneFiles.children ("migrations" ++ slashes 4080) =
      [("20240101000000_users.rs", .file "")] := by
    rw [Tree.children, location_slashes]
    decide
  have hname : IsArtifactName "20240101000000_users.rs" := exists_ofFilename_iff.1 ⟨_, rfl⟩
  refine ⟨by decide, hname, by decide, hdirectory, hchildren, ?_⟩
  obtain ⟨found, hfound⟩ : ∃ found,
      discover loneFiles ("migrations" ++ slashes 4080) = .ok found := by
    rw [discover, hdirectory]
    exact ⟨_, rfl⟩
  have hnone : ∀ name, name ∉ found.map (·.filename) := by
    intro name hmem
    obtain ⟨-, ⟨text, hentry⟩, hshort⟩ := (mem_discovered_iff hfound).1 hmem
    rw [hchildren] at hentry
    obtain ⟨rfl, -⟩ := Prod.mk.inj (List.mem_singleton.1 hentry)
    rw [join, if_neg (by decide), if_pos (.inr (getLast?_slashes "migrations" 4079)),
      String.utf8ByteSize_append, String.utf8ByteSize_append, utf8ByteSize_slashes] at hshort
    exact absurd hshort (by decide)
  rw [hfound, List.map_eq_nil_iff.1 (List.eq_nil_iff_forall_not_mem.2 hnone)]

end SchemaMigration.Migration
