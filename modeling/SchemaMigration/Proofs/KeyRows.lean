import Mathlib.Data.List.TakeWhile
import SchemaMigration.Proofs.CatalogOfBlueprint
import SchemaMigration.Proofs.Lists

/-
  Indexes and foreign keys read back from their rows.

  The rows of all keys of a table come in one list. Reading groups them by name
  in order of first appearance, so rows that come block by block, each block
  under a name of its own, fall into their blocks again. In an index the sequence
  numbers restore the order of the columns, whatever order its rows came in.

  Main statements: `indexesOfRows_indexRowsOf` and
  `foreignKeysOfRows_foreignKeyRowsOf`, keys with distinct names read back from
  their rows in order.
-/
namespace SchemaMigration.Catalog

open Text Sql Table Database

/-! ## Indexes -/

theorem mem_keyParts {i : Index} {p : KeyPart} (h : p ∈ keyParts i) :
    p.index = i.name ∧ p.unique = (i.kind != .index) := by
  obtain ⟨cn, -, rfl⟩ := List.mem_map.1 h
  exact ⟨rfl, rfl⟩

theorem pairwise_keyParts (i : Index) :
    (keyParts i).Pairwise fun p q => p.sequence < q.sequence := by
  rw [keyParts, List.pairwise_map, List.pairwise_iff_getElem]
  intro m n hm hn hmn
  simp only [List.getElem_zipIdx]
  omega

/-- A place in an index is taken by one part. -/
theorem eq_of_sequence_eq {i : Index} {p q : KeyPart} (hp : p ∈ keyParts i) (hq : q ∈ keyParts i)
    (h : p.sequence = q.sequence) : p = q := by
  obtain ⟨⟨c, m⟩, hc, rfl⟩ := List.mem_map.1 hp
  obtain ⟨⟨d, n⟩, hd, rfl⟩ := List.mem_map.1 hq
  have hmn : m = n := by
    simp only at h
    omega
  subst hmn
  have hcd : some c = some d :=
    (List.mem_zipIdx_iff_getElem?.1 hc).symm.trans (List.mem_zipIdx_iff_getElem?.1 hd)
  rw [Option.some.inj hcd]

theorem map_column_keyParts (i : Index) : (keyParts i).map (·.column) = i.columns := by
  rw [keyParts, List.map_map]
  exact List.zipIdx_map_fst 0 i.columns

/-- Sequence numbers put the parts of an index back in order. -/
theorem mergeSort_arrange (style : CatalogStyle) (i : Index) :
    ((style.arrange (keyParts i)).mergeSort fun a b => a.sequence ≤ b.sequence) = keyParts i := by
  have hperm : ((style.arrange (keyParts i)).mergeSort fun a b => a.sequence ≤ b.sequence).Perm
      (keyParts i) := (List.mergeSort_perm _ _).trans (style.arrange_perm _)
  have hsorted : ((style.arrange (keyParts i)).mergeSort fun a b => a.sequence ≤ b.sequence).Pairwise
      fun a b => a.sequence ≤ b.sequence :=
    pairwise_sorted (fun a b : KeyPart => a.sequence ≤ b.sequence) Int.le_trans
      (fun a b => Int.le_total a.sequence b.sequence) _
  -- Two lists in strict order with the same members are the same.
  have hstrict := pairwise_keyParts i
  refine hperm.eq_of_pairwise (fun a b ha hb hab hba => ?_) hsorted (hstrict.imp Int.le_of_lt)
  exact eq_of_sequence_eq (hperm.mem_iff.1 ha) hb (Int.le_antisymm hab hba)

/-- An index is read back from a list of parts that holds its own parts. -/
theorem indexOfParts_eq (style : CatalogStyle) {i : Index} {parts : List KeyPart}
    (hown : parts.filter (·.index = i.name) = style.arrange (keyParts i)) (hne : i.columns ≠ [])
    (hprimary : i.kind = .primary ↔ i.name = "PRIMARY") :
    indexOfParts parts i.name = i := by
  have hunique : (style.arrange (keyParts i)).head?.any (·.unique) = (i.kind != .index) := by
    cases harrange : style.arrange (keyParts i) with
    | nil =>
      have hlength := (style.arrange_perm (keyParts i)).length_eq
      rw [harrange, keyParts, List.length_map, List.length_zipIdx] at hlength
      exact absurd (List.length_eq_zero_iff.1 hlength.symm) hne
    | cons p ps =>
      have hp : p ∈ style.arrange (keyParts i) := harrange ▸ List.mem_cons_self
      exact (mem_keyParts ((style.arrange_perm _).mem_iff.1 hp)).2
  have hkind : (if i.name = "PRIMARY" then IndexKind.primary
      else if i.kind != .index then .unique else .index) = i.kind := by
    by_cases hname : i.name = "PRIMARY"
    · rw [if_pos hname, hprimary.2 hname]
    · have hother : i.kind ≠ .primary := fun h => hname (hprimary.1 h)
      rw [if_neg hname]
      cases hi : i.kind <;> simp_all
  rw [indexOfParts, hown, hunique, mergeSort_arrange, map_column_keyParts, hkind]

/-- Rows of which none indexes the start of a column are read together. -/
theorem indexesOfRows_of_whole (table : String) {rows : List Row}
    (h : ∀ e ∈ rows.map IndexRow.ofRow, e.isColumnPrefix = false) :
    let parts := (rows.map IndexRow.ofRow).filterMap IndexRow.part?
    let skipped := ((rows.map IndexRow.ofRow).filterMap IndexRow.skipped?).eraseDups
    indexesOfRows table rows = (.ok (((parts.map (·.index)).eraseDups.filter
      (!skipped.contains ·)).map (indexOfParts parts)), skipped) := by
  have hbefore : (rows.map IndexRow.ofRow).takeWhile (fun e => !e.isColumnPrefix) =
      rows.map IndexRow.ofRow := by
    apply List.takeWhile_eq_self_iff.2
    intro e he
    rw [h e he]
    rfl
  have hnone : (rows.map IndexRow.ofRow).find? IndexRow.isColumnPrefix = none := by
    apply List.find?_eq_none.2
    intro e he
    rw [h e he]
    exact Bool.false_ne_true
  simp only [indexesOfRows, hbefore, hnone]

/-- Parts of whole columns are all that matters of their rows. -/
theorem indexesOfRows_parts {table : String} {rows : List Row} {parts : List KeyPart}
    (h : rows.map IndexRow.ofRow = parts.map .part) :
    indexesOfRows table rows =
      (.ok (((parts.map (·.index)).eraseDups).map (indexOfParts parts)), []) := by
  have hwhole : ∀ e ∈ rows.map IndexRow.ofRow, e.isColumnPrefix = false := by
    rw [h]
    intro e he
    obtain ⟨p, -, rfl⟩ := List.mem_map.1 he
    rfl
  have hskipped : (parts.map IndexRow.part).filterMap IndexRow.skipped? = [] := by
    apply List.filterMap_eq_nil_iff.2
    intro e he
    obtain ⟨p, -, rfl⟩ := List.mem_map.1 he
    rfl
  have hparts : (parts.map IndexRow.part).filterMap IndexRow.part? = parts := by
    rw [List.filterMap_map]
    exact List.filterMap_some
  have hkept : ∀ names : List String,
      names.filter (fun name => !([] : List String).contains name) = names :=
    fun names => List.filter_eq_self.2 fun _ _ => rfl
  rw [indexesOfRows_of_whole table hwhole]
  simp only [h, hskipped, hparts, List.eraseDups_nil, hkept]

/-- The rows of indexes with distinct names read back as those indexes. -/
theorem indexesOfRows_indexRowsOf (style : CatalogStyle) (table : String) {indexes : List Index}
    (hnodup : (indexes.map (·.name)).Nodup) (hne : ∀ i ∈ indexes, i.columns ≠ [])
    (hprimary : ∀ i ∈ indexes, i.kind = .primary ↔ i.name = "PRIMARY") :
    indexesOfRows table (indexes.flatMap (indexRowsOf style table)) = (.ok indexes, []) := by
  have hentries : (indexes.flatMap (indexRowsOf style table)).map IndexRow.ofRow =
      (indexes.flatMap fun i => style.arrange (keyParts i)).map .part := by
    rw [List.map_flatMap, List.map_flatMap]
    congr 1
    funext i
    rw [indexRowsOf, List.map_map]
    apply List.map_congr_left
    intro p _
    rw [Function.comp_apply, Memory.ofRow_indexRow, Bool.not_not]
  have hname : ∀ i ∈ indexes, ∀ p ∈ style.arrange (keyParts i), p.index = i.name :=
    fun i _ p hp => (mem_keyParts ((style.arrange_perm _).mem_iff.1 hp)).1
  -- The rows come in blocks, one for each index, whatever their order inside is.
  have hblocks : ∀ i ∈ indexes, style.arrange (keyParts i) ≠ [] := by
    intro i hi hnil
    have hlength := (style.arrange_perm (keyParts i)).length_eq
    rw [hnil, keyParts, List.length_map, List.length_zipIdx] at hlength
    exact hne i hi (List.length_eq_zero_iff.1 hlength.symm)
  have hindex : ∀ i ∈ indexes,
      indexOfParts (indexes.flatMap fun i => style.arrange (keyParts i)) i.name = i :=
    fun i hi => indexOfParts_eq style (filter_blocks hname hnodup hi) (hne i hi) (hprimary i hi)
  have hindexes : (indexes.map (·.name)).map
      (indexOfParts (indexes.flatMap fun i => style.arrange (keyParts i))) = indexes := by
    rw [List.map_map]
    calc indexes.map _ = indexes.map id := List.map_congr_left hindex
      _ = indexes := List.map_id indexes
  rw [indexesOfRows_parts hentries, eraseDups_blocks hblocks hname hnodup, hindexes]

/-! ## Foreign keys -/

theorem filterMap_eq_self {α : Type} {f : α → Option α} {l : List α}
    (h : ∀ a ∈ l, f a = some a) : l.filterMap f = l := by
  induction l with
  | nil => rfl
  | cons a l ih =>
    rw [List.filterMap_cons_some (h a List.mem_cons_self),
      ih fun b hb => h b (List.mem_cons_of_mem a hb)]

/-- What the rows of a foreign key say. -/
def referenceRows (fk : ForeignKey) : List ReferenceRow :=
  (fk.columns.zip fk.referencesColumns).map fun cr =>
    ⟨fk.name, cr.1, fk.referencesTable, cr.2, fk.onDelete, fk.onUpdate⟩

theorem filterMap_foreignKeyRowsOf (fks : List ForeignKey) :
    (fks.flatMap foreignKeyRowsOf).filterMap ReferenceRow.ofRow? = fks.flatMap referenceRows := by
  rw [List.filterMap_flatMap]
  congr 1
  funext fk
  rw [foreignKeyRowsOf, List.filterMap_map, referenceRows, ← List.filterMap_eq_map]
  congr 1
  funext cr
  exact Memory.ofRow?_foreignKeyRow ..

/-- The rows of foreign keys with distinct names read back as those keys. -/
theorem foreignKeysOfRows_foreignKeyRowsOf {fks : List ForeignKey}
    (hnodup : (fks.map (·.name)).Nodup) (hne : ∀ fk ∈ fks, fk.columns ≠ [])
    (hpaired : ∀ fk ∈ fks, fk.columns.length = fk.referencesColumns.length) :
    foreignKeysOfRows (fks.flatMap foreignKeyRowsOf) = fks := by
  have hname : ∀ fk ∈ fks, ∀ r ∈ referenceRows fk, r.name = fk.name := by
    rintro fk - r hr
    obtain ⟨cr, -, rfl⟩ := List.mem_map.1 hr
    rfl
  have hblocks : ∀ fk ∈ fks, referenceRows fk ≠ [] := by
    intro fk hfk hnil
    have hzip : fk.columns.zip fk.referencesColumns = [] := List.map_eq_nil_iff.1 hnil
    have hlength := congrArg List.length hzip
    rw [List.length_zip, ← hpaired fk hfk, Nat.min_self] at hlength
    exact hne fk hfk (List.length_eq_zero_iff.1 hlength)
  have hkey : ∀ fk ∈ fks, ((fks.flatMap referenceRows).find? (·.name = fk.name)).map
      (foreignKeyOfRows (fks.flatMap referenceRows)) = some fk := by
    intro fk hfk
    -- The first row under the name of the key speaks for the whole key.
    have hown := filter_blocks hname hnodup hfk
    obtain ⟨r, rs, hrows⟩ := List.exists_cons_of_ne_nil (hblocks fk hfk)
    have hr : r ∈ referenceRows fk := hrows ▸ List.mem_cons_self
    have hcolumns : (referenceRows fk).map (·.column) = fk.columns := by
      rw [referenceRows, List.map_map]
      exact List.map_fst_zip (Nat.le_of_eq (hpaired fk hfk))
    have hreferenced : (referenceRows fk).map (·.referencesColumn) = fk.referencesColumns := by
      rw [referenceRows, List.map_map]
      exact List.map_snd_zip (Nat.le_of_eq (hpaired fk hfk).symm)
    rw [← List.head?_filter, hown, hrows, List.head?_cons, Option.map_some]
    obtain ⟨cr, -, rfl⟩ := List.mem_map.1 hr
    simp only [foreignKeyOfRows, hown, hcolumns, hreferenced]
  rw [foreignKeysOfRows, filterMap_foreignKeyRowsOf]
  simp only [eraseDups_blocks hblocks hname hnodup]
  rw [List.filterMap_map]
  exact filterMap_eq_self hkey

end SchemaMigration.Catalog
