import SchemaMigration.Files.Tree

/-
  What changes of a file tree leave alone.

  Making directories adds directories where nothing was, whether or not it succeeds, and
  nothing at all where a path already leads to one. Creating a file in a directory puts it
  below the directory's location, and the directory lists one entry more.

  Main statements: `makeDirectories_grows`, `makeDirectories_of_isDirectory`,
  `create_join_eq_ok`.
-/
namespace SchemaMigration.Files

open Text

theorem bind_eq_ok {α β : Type} {x : Except Fault α} {f : α → Except Fault β} {b : β} :
    (x >>= f) = .ok b ↔ ∃ a, x = .ok a ∧ f a = .ok b := by
  cases x with
  | error e => simp [bind, Except.bind]
  | ok a => simp [bind, Except.bind]

/-! ## Locations -/

namespace Tree

theorem at?_putAt_of_ne {t : Tree} {l l' : Location} (node : Node) (h : l' ≠ l) :
    (t.putAt l node).at? l' = t.at? l' := by
  have hfilter : (t.nodes.filter (·.1 != l)).find? (·.1 == l') = t.nodes.find? (·.1 == l') := by
    rw [List.find?_filter]
    congr 1
    funext n
    by_cases hn : n.1 = l'
    · simp [hn, h]
    · simp [hn]
  have hsingle : [(l, node)].find? (·.1 == l') = none := by simp [Ne.symm h]
  rw [at?, at?, putAt, List.find?_append, hfilter, hsingle, Option.or_none]

/-- What is put where nothing was leaves everything else. -/
theorem at?_putAt_mono {t : Tree} {l l' : Location} {node : Node} (h : t.at? l = none)
    (h' : t.at? l' = some node) (node' : Node) : (t.putAt l node').at? l' = some node := by
  rw [at?_putAt_of_ne]
  · exact h'
  · rintro rfl
    rw [h] at h'
    cases h'

/-- What there was is still there, and what is new are directories. -/
def Grows (t t' : Tree) : Prop :=
  ∀ l, t'.at? l = t.at? l ∨ (t.at? l = none ∧ t'.at? l = some .directory)

theorem Grows.refl (t : Tree) : t.Grows t := fun _ => .inl rfl

theorem Grows.trans {t₁ t₂ t₃ : Tree} (h : t₁.Grows t₂) (h' : t₂.Grows t₃) : t₁.Grows t₃ := by
  intro l
  rcases h l with hl | ⟨hnone, hl⟩
  · rcases h' l with hl' | ⟨hnone', hl'⟩
    · exact .inl (hl'.trans hl)
    · exact .inr ⟨hl ▸ hnone', hl'⟩
  · rcases h' l with hl' | ⟨hnone', hl'⟩
    · exact .inr ⟨hnone, hl'.trans hl⟩
    · rw [hl] at hnone'
      exact absurd hnone' (by simp)

theorem grows_putAt {t : Tree} {l : Location} (h : t.at? l = none) :
    t.Grows (t.putAt l .directory) := by
  intro l'
  by_cases hl : l' = l
  · subst hl
    have hne : l' ≠ [] := by
      rintro rfl
      exact absurd h (by simp [at?])
    exact .inr ⟨h, at?_putAt _ hne⟩
  · exact .inl (at?_putAt_of_ne _ hl)

theorem makeDirectory_grows {t t' : Tree} {p : Path} (h : t.makeDirectory p = .ok t') :
    t.Grows t' := by
  obtain ⟨spot, -, h⟩ := bind_eq_ok.1 h
  cases spot with
  | standing => cases h
  | entry directory name slash =>
    obtain ⟨-, -, h⟩ := bind_eq_ok.1 h
    simp only at h
    split at h
    · cases h
    · next hvacant =>
      cases h
      exact grows_putAt (by simpa using hvacant)

/-- Directories that have been made stay when those below them cannot be made. -/
theorem makeWithParents_grows (p : Path) (t : Tree) : t.Grows (makeWithParents p t).2 := by
  fun_induction makeWithParents p t with
  | case1 p t' h => exact makeDirectory_grows h
  | case2 p h hp => exact .refl t
  | case3 p h hp f t' hparents ih =>
    rw [hparents] at ih
    exact ih
  | case4 p h hp t' hparents t'' h' ih =>
    rw [hparents] at ih
    exact ih.trans (makeDirectory_grows h')
  | case5 p h hp t' hparents f h' ih =>
    rw [hparents] at ih
    exact ih
  | case6 p f hf h => exact .refl t

theorem makeDirectories_grows (t : Tree) (path : String) :
    t.Grows (t.makeDirectories path).2 := by
  rw [makeDirectories]
  split
  · exact .refl t
  · exact makeWithParents_grows _ t

/-! ## Paths that lead to a directory -/

theorem walk_append {t : Tree} {here l : Location} {p q : Path} :
    t.walk here (p ++ q) = .ok l ↔ ∃ m, t.walk here p = .ok m ∧ t.walk m q = .ok l := by
  induction p generalizing here with
  | nil => simp [walk]
  | cons part p ih =>
    simp only [List.cons_append, walk, bind_eq_ok, ih]
    constructor
    · rintro ⟨u, hu, v, hv, m, hm, hl⟩
      exact ⟨m, ⟨u, hu, v, hv, hm⟩, hl⟩
    · rintro ⟨m, ⟨u, hu, v, hv, hm⟩, hl⟩
      exact ⟨u, hu, v, hv, m, hm, hl⟩

theorem find?_eq_some {t : Tree} {p : Path} {node : Node} (h : t.find? p = some node) :
    checkPath p = .ok () ∧ ∃ l, t.walk [] p = .ok l ∧ t.at? l = some node := by
  rw [find?] at h
  split at h
  · next l hcheck hwalk => exact ⟨hcheck, l, hwalk, h⟩
  · exact absurd h (by simp)

/-- The empty path leads nowhere. -/
theorem ne_empty_of_get? {t : Tree} {path : String} {node : Node} (h : t.get? path = some node) :
    path ≠ "" := by
  rintro rfl
  obtain ⟨hcheck, -⟩ := find?_eq_some h
  cases hcheck

/-- Empty parts lead no further. -/
theorem location_of_empty {q : Path} (h : ∀ part ∈ q, part = "") (here : Location) :
    Path.location here q = here := by
  induction q generalizing here with
  | nil => rfl
  | cons part q ih =>
    obtain rfl := h part List.mem_cons_self
    exact ih (fun part hpart => h part (List.mem_cons_of_mem _ hpart)) here

/-- A path has no part but empty ones, or one that no others follow. -/
theorem path_cases (p : Path) : (∀ part ∈ p, part = "") ∨
    ∃ b last q, last ≠ "" ∧ (∀ part ∈ q, part = "") ∧ p = b ++ last :: q := by
  induction p with
  | nil => exact .inl fun _ h => absurd h List.not_mem_nil
  | cons part p ih =>
    rcases ih with h | ⟨b, last, q, hlast, hq, rfl⟩
    · by_cases hpart : part = ""
      · exact .inl (List.forall_mem_cons.2 ⟨hpart, h⟩)
      · exact .inr ⟨[], part, p, hpart, h, rfl⟩
    · exact .inr ⟨part :: b, last, q, hlast, hq, rfl⟩

theorem spotOf_of_empty {t : Tree} {p : Path} (hp : ∀ part ∈ p, part = "")
    (hcheck : checkPath p = .ok ()) : t.spotOf p = .ok .standing := by
  have hbody : p.reverse.dropWhile (· == "") = [] := by
    rw [← List.append_nil p.reverse, List.dropWhile_append_of_pos]
    · rfl
    · exact fun part hpart => by simp [hp part (List.mem_reverse.1 hpart)]
  rw [spotOf, hcheck, hbody]
  rfl

theorem spotOf_append {t : Tree} {b q : Path} {last : String} (hlast : last ≠ "")
    (hq : ∀ part ∈ q, part = "") :
    t.spotOf (b ++ last :: q) = do
      checkPath (b ++ last :: q)
      let directory ← t.walk [] b
      t.enter directory
      if last = "." ∨ last = ".." then return .standing
      else return .entry directory last (q ≠ []) := by
  have hbody : ((b ++ last :: q).reverse.dropWhile (· == "")).reverse = b ++ [last] := by
    have hempty : ∀ part ∈ q.reverse, (part == "") = true := fun part hpart => by
      simp [hq part (List.mem_reverse.1 hpart)]
    rw [List.reverse_append, List.reverse_cons, List.append_assoc,
      List.dropWhile_append_of_pos hempty]
    simp [hlast]
  have hslash : decide ((b ++ [last]).length < (b ++ last :: q).length) = decide (q ≠ []) := by
    cases q <;> simp
  rw [spotOf]
  simp only [hbody, List.getLast?_concat, List.dropLast_concat, hslash]

/-- No directory is made where there is one. -/
theorem makeDirectory_of_find? {t : Tree} {p : Path} (h : t.find? p = some .directory) :
    t.makeDirectory p = .error .occupied := by
  obtain ⟨hcheck, l, hwalk, hl⟩ := find?_eq_some h
  rcases path_cases p with hempty | ⟨b, last, q, hlast, hq, rfl⟩
  · rw [makeDirectory, spotOf_of_empty hempty hcheck]
    rfl
  · obtain ⟨d, hd, hrest⟩ := walk_append.1 hwalk
    rw [walk, bind_eq_ok] at hrest
    obtain ⟨_, henter, hrest⟩ := hrest
    obtain ⟨_, hname, hrest⟩ := bind_eq_ok.1 hrest
    have hplace : l = Path.follow d last := by
      rw [location_of_walk hrest, location_of_empty hq]
    rw [makeDirectory, spotOf_append hlast hq, hcheck, hd]
    simp only [henter, bind, Except.bind, pure, Except.pure]
    by_cases hdots : last = "." ∨ last = ".."
    · rw [if_pos hdots]
    · have hstill : Path.isStill last = false := by simp_all [Path.isStill]
      have hup : last ≠ ".." := fun hup => hdots (.inr hup)
      rw [hplace, Path.follow, hstill, if_neg Bool.false_ne_true, if_neg hup] at hl
      rw [if_neg hdots]
      simp only [hname, hl, Option.isSome_some, if_true]

/-- Directories are there already where a path leads to one. -/
theorem makeDirectories_of_isDirectory {t : Tree} {path : String}
    (h : t.get? path = some .directory) : t.makeDirectories path = (.ok (), t) := by
  have hfind : t.find? (Path.ofText path) = some .directory := h
  rw [makeDirectories, if_neg (ne_empty_of_get? h), makeWithParents, makeDirectory_of_find? hfind]
  show (t.unlessDirectory (Path.ofText path) .occupied, t) = _
  rw [unlessDirectory, if_pos hfind]

/-- What is there can still be followed when there is more. -/
theorem walk_mono {t t' : Tree} (hmore : ∀ l node, t.at? l = some node → t'.at? l = some node)
    {here l : Location} {p : Path} (h : t.walk here p = .ok l) : t'.walk here p = .ok l := by
  induction p generalizing here with
  | nil => exact h
  | cons part p ih =>
    rw [walk, bind_eq_ok] at h ⊢
    obtain ⟨u, henter, h⟩ := h
    obtain ⟨v, hname, h⟩ := bind_eq_ok.1 h
    refine ⟨u, ?_, bind_eq_ok.2 ⟨v, hname, ih h⟩⟩
    cases hhere : t.at? here with
    | none => simp [enter, hhere] at henter
    | some node => rwa [enter, hmore _ _ hhere, ← hhere, ← enter]

theorem get?_mono {t t' : Tree} (hmore : ∀ l node, t.at? l = some node → t'.at? l = some node)
    {path : String} {node : Node} (h : t.get? path = some node) : t'.get? path = some node := by
  obtain ⟨hcheck, l, hwalk, hl⟩ := find?_eq_some h
  rw [get?, find?, hcheck, walk_mono hmore hwalk]
  exact hmore l node hl

end Tree

/-! ## Files in a directory -/

/-- A name that a directory can have something under. -/
structure IsPlain (name : String) : Prop where
  ne_empty : name ≠ ""
  ne_dot : name ≠ "."
  ne_dots : name ≠ ".."
  slash : ∀ c ∈ name.toList, c ≠ '/'

theorem ofText_slash (directory name : String) :
    Path.ofText (directory ++ "/" ++ name) = Path.ofText directory ++ Path.ofText name := by
  have htext : (directory ++ "/" ++ name).toList = directory.toList ++ '/' :: name.toList := by
    simp
  rw [Path.ofText, htext, pieces_append (by decide), List.map_append]
  rfl

theorem ofText_plain {name : String} (h : IsPlain name) : Path.ofText name = [name] := by
  rw [Path.ofText, pieces_eq_singleton fun c hc => by simpa using h.slash c hc]
  simp

/-- A path below a directory is that of the directory, without an empty part at its end, and
then the name. -/
theorem ofText_join_cases (directory : String) {name : String} (h : IsPlain name) :
    ∃ p, Path.ofText (join directory name) = p ++ [name] ∧
      (Path.ofText directory = p ∨ Path.ofText directory = p ++ [""]) := by
  have hhead : name.toList.head? ≠ some '/' := fun hhead =>
    h.slash '/' (List.mem_of_mem_head? hhead) rfl
  rw [join, if_neg hhead]
  split
  · next hend =>
    rcases hend with rfl | hlast
    · exact ⟨[], by simpa using ofText_plain h, .inr rfl⟩
    · -- the slash that the directory ends in is the one in front of the name
      obtain ⟨cs, hcs⟩ := List.getLast?_eq_some_iff.1 hlast
      have hdirectory : directory = String.ofList cs ++ "/" ++ "" := by
        apply String.toList_injective
        simp [hcs]
      refine ⟨Path.ofText (String.ofList cs), ?_, .inr ?_⟩
      · rw [← ofText_plain h, ← ofText_slash, hdirectory]
        simp
      · rw [hdirectory, ofText_slash]
        rfl
  · exact ⟨Path.ofText directory, by rw [ofText_slash, ofText_plain h], .inl rfl⟩

/-- A path below a directory ends in the name, and leads on from the directory. -/
theorem ofText_join (directory : String) {name : String} (h : IsPlain name) :
    ∃ p, Path.ofText (join directory name) = p ++ [name] ∧
      Path.location [] p = Path.location [] (Path.ofText directory) := by
  obtain ⟨p, hpath, hp | hp⟩ := ofText_join_cases directory h
  · exact ⟨p, hpath, by rw [hp]⟩
  · refine ⟨p, hpath, ?_⟩
    rw [hp, Path.location_append]
    rfl

/-- Where a directory has what is below it under a name. -/
def placeIn (directory name : String) : Location :=
  Path.location [] (Path.ofText directory) ++ [name]

namespace Tree

theorem putAt_of_vacant {t : Tree} {l : Location} (h : t.at? l = none) (node : Node) :
    t.putAt l node = ⟨t.nodes ++ [(l, node)]⟩ := by
  have hne : l ≠ [] := by
    rintro rfl
    exact absurd h (by simp [at?])
  rw [at?, if_neg hne, Option.map_eq_none_iff, List.find?_eq_none] at h
  have hfilter : t.nodes.filter (·.1 != l) = t.nodes :=
    List.filter_eq_self.2 fun n hn => by simpa using h n hn
  rw [putAt, hfilter]

/-- A file that is created in a directory is below the directory's location, where nothing
was before. -/
theorem create_join_eq_ok {t t' : Tree} {directory name text : String} (hname : IsPlain name)
    (h : t.create (join directory name) text = .ok t') :
    checkPath (Path.ofText (join directory name)) = .ok () ∧
      t.at? (placeIn directory name) = none ∧
      t' = t.putAt (placeIn directory name) (.file text) := by
  obtain ⟨p, hpath, hplace⟩ := ofText_join directory hname
  have hdots : ¬(name = "." ∨ name = "..") := by simp [hname.ne_dot, hname.ne_dots]
  rw [create, putFile, hpath, spotOf_append hname.ne_empty (by simp)] at h
  -- The checks that were passed, one after the other, and then the place itself.
  obtain ⟨spot, hspot, h⟩ := bind_eq_ok.1 h
  obtain ⟨_, hcheck, hspot⟩ := bind_eq_ok.1 hspot
  obtain ⟨d, hwalk, hspot⟩ := bind_eq_ok.1 hspot
  obtain ⟨_, -, hspot⟩ := bind_eq_ok.1 hspot
  rw [if_neg hdots] at hspot
  cases hspot
  obtain rfl := (location_of_walk hwalk).trans hplace
  obtain ⟨_, -, h⟩ := bind_eq_ok.1 h
  refine ⟨hpath ▸ hcheck, ?_⟩
  dsimp only at h
  rw [← placeIn] at h
  cases hat : t.at? (placeIn directory name) with
  | some node =>
    rw [hat] at h
    cases h
  | none =>
    rw [hat] at h
    cases h
    exact ⟨rfl, rfl⟩

theorem checkPath_eq_ok_iff {p : Path} : checkPath p = .ok () ↔ p ≠ [""] ∧
    (p.any (·.toList.contains '\x00')) = false ∧ (Path.text p).utf8ByteSize ≤ 4095 := by
  rw [checkPath]
  split
  · next hempty => exact ⟨nofun, fun h => absurd hempty h.1⟩
  · next hne =>
    rw [and_iff_right hne]
    cases p.any (·.toList.contains '\x00') with
    | true => exact ⟨nofun, fun h => absurd h.1.symm Bool.false_ne_true⟩
    | false =>
      rw [if_neg Bool.false_ne_true]
      split
      · next hlong => exact ⟨nofun, fun h => absurd hlong (Nat.not_lt.2 h.2)⟩
      · next hshort => exact ⟨fun _ => ⟨rfl, Nat.not_lt.1 hshort⟩, fun _ => rfl⟩

theorem text_append {p : Path} (h : p ≠ []) (part : String) :
    Path.text (p ++ [part]) = Path.text p ++ "/" ++ part := by
  rw [Path.text, Path.text, String.intercalate_append_of_ne_nil h (List.cons_ne_nil _ _),
    String.intercalate_singleton]

/-- The parts of a text with slashes between them are the text. -/
theorem text_ofText (s : String) : Path.text (Path.ofText s) = s := by
  apply String.toList_injective
  have hparts : (Path.ofText s).map String.toList = pieces (· == '/') s.toList := by
    simp [Path.ofText, Function.comp_def]
  rw [Path.text, String.toList_intercalate, hparts]
  exact intercalate_pieces '/' s.toList

theorem ofText_eq_empty_iff {s : String} : Path.ofText s = [""] ↔ s = "" := by
  constructor
  · intro h
    rw [← text_ofText s, h]
    rfl
  · rintro rfl
    rfl

/-- The path of a directory, with or without a slash at its end, can be taken if one below it
can. -/
theorem checkPath_of_append {p : Path} {name directory : String}
    (hdirectory : Path.ofText directory = p ∨ Path.ofText directory = p ++ [""])
    (hne : directory ≠ "") (h : checkPath (p ++ [name]) = .ok ()) :
    checkPath (Path.ofText directory) = .ok () := by
  have hparts : Path.ofText directory ≠ [""] := mt ofText_eq_empty_iff.1 hne
  obtain ⟨-, hzero, hshort⟩ := checkPath_eq_ok_iff.1 h
  rw [List.any_append, Bool.or_eq_false_iff] at hzero
  have hp : p ≠ [] := by
    rintro rfl
    rcases hdirectory with hnil | hnil
    · exact absurd (List.map_eq_nil_iff.1 hnil) (pieces_ne_nil _ _)
    · exact hparts hnil
  rw [text_append hp, String.utf8ByteSize_append, String.utf8ByteSize_append] at hshort
  refine checkPath_eq_ok_iff.2 ⟨hparts, ?_⟩
  rcases hdirectory with hplain | hslash
  · rw [hplain]
    exact ⟨hzero.1, by omega⟩
  · rw [hslash, List.any_append, hzero.1, text_append hp, String.utf8ByteSize_append,
      String.utf8ByteSize_append, String.utf8ByteSize_empty]
    exact ⟨rfl, by omega⟩

/-- A path below a directory can be taken unless it has too many bytes. -/
theorem checkPath_join_iff {t : Tree} {directory name : String}
    (hdirectory : t.get? directory = some .directory) (hname : IsPlain name)
    (hzero : '\x00' ∉ name.toList) :
    checkPath (Path.ofText (join directory name)) = .ok () ↔
      (join directory name).utf8ByteSize ≤ 4095 := by
  rw [checkPath_eq_ok_iff, text_ofText]
  obtain ⟨p, hpath, hparts⟩ := ofText_join_cases directory hname
  have hclean := (checkPath_eq_ok_iff.1 (find?_eq_some hdirectory).1).2.1
  have hp : p.any (·.toList.contains '\x00') = false := by
    rcases hparts with hparts | hparts
    · rwa [← hparts]
    · rw [hparts, List.any_append, Bool.or_eq_false_iff] at hclean
      exact hclean.1
  have hall : (p ++ [name]).any (·.toList.contains '\x00') = false := by
    rw [List.any_append, hp]
    simpa using hzero
  have hne : p ++ [name] ≠ [""] := by
    intro hempty
    have hlast := congrArg List.getLast? hempty
    rw [List.getLast?_concat] at hlast
    exact hname.ne_empty (Option.some.inj hlast)
  rw [hpath, and_iff_right hne]
  exact and_iff_right hall

/-- Where a file can be created below a path, the path leads to a directory. -/
theorem get?_of_create {t t' : Tree} {directory name text : String} (hname : IsPlain name)
    (hne : directory ≠ "") (h : t.create (join directory name) text = .ok t') :
    t.get? directory = some .directory := by
  obtain ⟨p, hpath, hdirectory⟩ := ofText_join_cases directory hname
  rw [create, putFile, hpath, spotOf_append hname.ne_empty (by simp)] at h
  obtain ⟨spot, hspot, -⟩ := bind_eq_ok.1 h
  obtain ⟨_, hcheck, hspot⟩ := bind_eq_ok.1 hspot
  obtain ⟨d, hwalk, hspot⟩ := bind_eq_ok.1 hspot
  obtain ⟨_, henter, -⟩ := bind_eq_ok.1 hspot
  have hcheck := checkPath_of_append hdirectory hne hcheck
  have hthere : t.at? d = some .directory := by
    rw [enter] at henter
    split at henter
    · assumption
    · cases henter
    · cases henter
  have hwalk' : t.walk [] (Path.ofText directory) = .ok d := by
    rcases hdirectory with hp | hp
    · rw [hp]
      exact hwalk
    · -- the empty part at the end stays in the directory
      rw [hp]
      refine walk_append.2 ⟨d, hwalk, ?_⟩
      rw [walk, henter]
      rfl
  rw [get?, find?, hcheck, hwalk']
  exact hthere

/-- A directory lists a file that has been put into it behind what it listed before. -/
theorem children_putAt {t : Tree} {directory name : String} {node : Node}
    (h : t.at? (placeIn directory name) = none) :
    (t.putAt (placeIn directory name) node).children directory =
      t.children directory ++ [(name, node)] := by
  rw [putAt_of_vacant h, children, children, List.filterMap_append]
  simp [placeIn]

end Tree

end SchemaMigration.Files
