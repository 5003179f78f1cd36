import Mathlib
import SchemaMigration.Proofs.GatheredRows

/-
  Indexes from rows in any order.

  The catalog shows one row for each column of an index, and the rows of an index may come
  in any order and between those of others. A name is left out if any of its rows makes the
  index inexpressible, whether that row comes first or last. Any other name stands where it
  first appeared, and its columns follow the places that the rows state.

  Rows of one index have places of their own, so only one order of its columns is right, and
  they agree on whether the index is unique, so any of them can say so. Therefore an index
  depends on which rows there are and not on their order.

  Rows may be read one after the other or together, which comes to the same.

  Main statements: `ofRow_cases`, what a row can say; `describe_of_whole`, reading finds what
  the rows describe; `Describe.perm`, which does not depend on their order;
  `indexes_described`.
-/
namespace SchemaMigration.Catalog

open Text Sql Table Database

/-! ## What a row says -/

/-- The place of a row's column in the index; a row that states none has the place zero. -/
def sequenceOf (row : Row) : Int := (row.int? "Seq_in_index").getD 0

/-- The index of the row has no form in a blueprint, as its type has none or the row no
column. -/
def IsInexpressible (row : Row) : Prop :=
  IndexRow.isSpecialType ((row.text? "Index_type").getD "") = true ∨ row.text? "Column_name" = none

/-- The row indexes the start of a column only. -/
def IsPrefixPart (row : Row) : Prop :=
  (row.text? "Key_name").isSome ∧ ¬IsInexpressible row ∧ (row.int? "Sub_part").isSome

/-- The part of an index that a row states. -/
def partOf (row : Row) : KeyPart where
  index := (row.text? "Key_name").getD ""
  column := (row.text? "Column_name").getD ""
  sequence := sequenceOf row
  unique := row.int? "Non_unique" = some 0

/-- What a row can say. -/
theorem ofRow_cases (row : Row) :
    (row.text? "Key_name" = none ∧ IndexRow.ofRow row = .nameless) ∨
    ∃ name, row.text? "Key_name" = some name ∧
      (IsInexpressible row ∧ IndexRow.ofRow row = .inexpressible name ∨
      ¬IsInexpressible row ∧
        ((∃ column length, row.int? "Sub_part" = some length ∧
          IndexRow.ofRow row = .columnPrefix name column length) ∨
        row.int? "Sub_part" = none ∧ IndexRow.ofRow row = .part (partOf row))) := by
  cases hname : row.text? "Key_name" with
  | none => exact .inl ⟨rfl, by simp only [IndexRow.ofRow, hname]⟩
  | some name =>
    refine .inr ⟨name, rfl, ?_⟩
    -- The order is that of reading: the type of the index is looked at before its column.
    by_cases hspecial : IndexRow.isSpecialType ((row.text? "Index_type").getD "") = true
    · exact .inl ⟨.inl hspecial, by simp only [IndexRow.ofRow, hname, hspecial, if_true]⟩
    · cases hcolumn : row.text? "Column_name" with
      | none =>
        exact .inl ⟨.inr hcolumn, by simp only [IndexRow.ofRow, hname, hcolumn, ite_self]⟩
      | some column =>
        have hexpressible : ¬IsInexpressible row := by
          rintro (h | h)
          · exact hspecial h
          · cases hcolumn.symm.trans h
        refine .inr ⟨hexpressible, ?_⟩
        cases hlength : row.int? "Sub_part" with
        | some length =>
          refine .inl ⟨column, length, rfl, ?_⟩
          simp only [IndexRow.ofRow, hname, hspecial, hcolumn, hlength, Bool.false_eq_true,
            if_false]
        | none =>
          refine .inr ⟨rfl, ?_⟩
          simp only [IndexRow.ofRow, hname, hspecial, hcolumn, hlength, partOf, sequenceOf,
            Option.getD_some, Bool.false_eq_true, if_false]

theorem isColumnPrefix_ofRow {row : Row} :
    (IndexRow.ofRow row).isColumnPrefix = true ↔ IsPrefixPart row := by
  rw [IsPrefixPart]
  rcases ofRow_cases row with ⟨hname, h⟩ |
    ⟨name, hname, ⟨hnone, h⟩ | ⟨hexpressible, ⟨column, length, hlength, h⟩ | ⟨hlength, h⟩⟩⟩
  · simp [h, hname, IndexRow.isColumnPrefix]
  · simp [h, hnone, IndexRow.isColumnPrefix]
  · simp [h, hname, hexpressible, hlength, IndexRow.isColumnPrefix]
  · simp [h, hlength, IndexRow.isColumnPrefix]

theorem skipped?_ofRow {row : Row} {name : String} :
    (IndexRow.ofRow row).skipped? = some name ↔
      row.text? "Key_name" = some name ∧ IsInexpressible row := by
  rcases ofRow_cases row with ⟨hname, h⟩ |
    ⟨name, hname, ⟨hnone, h⟩ | ⟨hexpressible, ⟨column, length, hlength, h⟩ | ⟨hlength, h⟩⟩⟩
  · simp [h, hname, IndexRow.skipped?]
  · simp [h, hname, hnone, IndexRow.skipped?]
  · simp [h, hexpressible, IndexRow.skipped?]
  · simp [h, hexpressible, IndexRow.skipped?]

/-- What a row of a whole column can say. -/
theorem ofRow_cases_of_whole {row : Row} (h : ¬IsPrefixPart row) :
    (row.text? "Key_name" = none ∧ IndexRow.ofRow row = .nameless) ∨
    ∃ name, row.text? "Key_name" = some name ∧
      (IsInexpressible row ∧ IndexRow.ofRow row = .inexpressible name ∨
        ¬IsInexpressible row ∧ IndexRow.ofRow row = .part (partOf row)) := by
  rcases ofRow_cases row with hnameless |
    ⟨name, hname, hnone | ⟨hexpressible, ⟨column, length, hlength, -⟩ | ⟨-, hpart⟩⟩⟩
  · exact .inl hnameless
  · exact .inr ⟨name, hname, .inl hnone⟩
  · refine absurd ⟨?_, hexpressible, ?_⟩ h
    · rw [hname]
      rfl
    · rw [hlength]
      rfl
  · exact .inr ⟨name, hname, .inr ⟨hexpressible, hpart⟩⟩

/-! ## Rows of whole columns -/

section Whole
variable {rows : List Row}

/-- The names of indexes that a row makes inexpressible. -/
def inexpressibleNames (rows : List Row) : List String :=
  ((rows.map IndexRow.ofRow).filterMap IndexRow.skipped?).eraseDups

/-- The parts that rows state. -/
def partsOf (rows : List Row) : List KeyPart := (rows.map IndexRow.ofRow).filterMap IndexRow.part?

theorem mem_inexpressibleNames {name : String} : name ∈ inexpressibleNames rows ↔
    ∃ row ∈ rows, row.text? "Key_name" = some name ∧ IsInexpressible row := by
  rw [inexpressibleNames, List.mem_eraseDups, List.filterMap_map, List.mem_filterMap]
  simp only [Function.comp_apply, skipped?_ofRow]

/-- Reading fails at a row that indexes the start of a column. -/
theorem indexesOfRows_eq_error_iff {table : String} :
    (∃ e, (indexesOfRows table rows).1 = .error e) ↔ ∃ row ∈ rows, IsPrefixPart row := by
  simp only [indexesOfRows]
  cases hfind : (rows.map IndexRow.ofRow).find? IndexRow.isColumnPrefix with
  | none =>
    constructor
    · intro h
      obtain ⟨e, he⟩ := h
      cases he
    · intro h
      obtain ⟨row, hrow, hprefix⟩ := h
      have := List.find?_eq_none.1 hfind _ (List.mem_map_of_mem hrow)
      exact absurd (isColumnPrefix_ofRow.2 hprefix) this
  | some entry =>
    have hprefix := List.find?_some hfind
    obtain ⟨row, hrow, rfl⟩ := List.mem_map.1 (List.mem_of_find?_eq_some hfind)
    refine ⟨fun _ => ⟨row, hrow, isColumnPrefix_ofRow.1 hprefix⟩, fun _ => ?_⟩
    cases hentry : IndexRow.ofRow row with
    | columnPrefix index column length => exact ⟨_, rfl⟩
    | nameless => simp [hentry, IndexRow.isColumnPrefix] at hprefix
    | inexpressible index => simp [hentry, IndexRow.isColumnPrefix] at hprefix
    | part p => simp [hentry, IndexRow.isColumnPrefix] at hprefix

variable (hwhole : ∀ row ∈ rows, ¬IsPrefixPart row)
include hwhole

/-- The names in order of first appearance, without those of inexpressible indexes. -/
theorem names_partsOf : ((partsOf rows).map (·.index)).eraseDups.filter
      (!(inexpressibleNames rows).contains ·) =
    (rows.filterMap (·.text? "Key_name")).eraseDups.filter
      (!(inexpressibleNames rows).contains ·) := by
  have hskipped : ∀ row ∈ rows, IsInexpressible row → ∀ name, row.text? "Key_name" = some name →
      name ∈ inexpressibleNames rows :=
    fun row hrow hnone name hname => mem_inexpressibleNames.2 ⟨row, hrow, hname, hnone⟩
  rw [filter_eraseDups, filter_eraseDups, partsOf, List.filterMap_map, List.map_filterMap,
    List.filter_filterMap, List.filter_filterMap]
  congr 1
  apply List.filterMap_congr
  intro row hrow
  rcases ofRow_cases_of_whole (hwhole row hrow) with
    ⟨hname, h⟩ | ⟨name, hname, ⟨hnone, h⟩ | ⟨-, h⟩⟩
  · simp [h, hname, IndexRow.part?]
  · simp [h, hname, IndexRow.part?, Option.filter, hskipped row hrow hnone name hname]
  · simp [h, hname, IndexRow.part?, partOf]

/-- The parts of an expressible index are those of all its rows. -/
theorem filter_partsOf {name : String} (hname : name ∉ inexpressibleNames rows) :
    (partsOf rows).filter (·.index = name) =
      (rows.filter fun row => row.text? "Key_name" = some name).map partOf := by
  rw [partsOf, List.filterMap_map, List.filter_filterMap, ← List.filterMap_eq_map,
    ← List.filterMap_eq_filter, List.filterMap_filterMap]
  apply List.filterMap_congr
  intro row hrow
  rcases ofRow_cases_of_whole (hwhole row hrow) with
    ⟨hnameless, h⟩ | ⟨other, hother, ⟨hnone, h⟩ | ⟨-, h⟩⟩
  · simp [h, hnameless, IndexRow.part?, Option.guard]
  · have hne : other ≠ name := by
      rintro rfl
      exact hname (mem_inexpressibleNames.2 ⟨row, hrow, hother, hnone⟩)
    simp [h, hother, hne, IndexRow.part?, Option.guard]
  · by_cases hsame : other = name
    · simp [h, hother, hsame, IndexRow.part?, partOf, Option.guard]
    · simp [h, hother, hsame, IndexRow.part?, partOf, Option.guard, Option.filter]

theorem indexesOfRows_whole (table : String) : (indexesOfRows table rows).1 =
    .ok (((rows.filterMap (·.text? "Key_name")).eraseDups.filter
      (!(inexpressibleNames rows).contains ·)).map (indexOfParts (partsOf rows))) := by
  have hnone : ∀ e ∈ rows.map IndexRow.ofRow, e.isColumnPrefix = false := by
    intro e he
    obtain ⟨row, hrow, rfl⟩ := List.mem_map.1 he
    exact Bool.eq_false_iff.2 fun h => hwhole row hrow (isColumnPrefix_ofRow.1 h)
  rw [← names_partsOf hwhole, indexesOfRows_of_whole table hnone]
  rfl

end Whole

/-! ## Groups -/

/-- The rows of one index. -/
def rowsOf (rows : List Row) (name : String) : List Row :=
  rows.filter fun row => row.text? "Key_name" = some name

theorem mem_rowsOf {rows : List Row} {name : String} {row : Row} :
    row ∈ rowsOf rows name ↔ row ∈ rows ∧ row.text? "Key_name" = some name := by
  rw [rowsOf, List.mem_filter, decide_eq_true_eq]

theorem mem_keyNames {rows : List Row} {name : String} :
    name ∈ rows.filterMap (·.text? "Key_name") ↔ rowsOf rows name ≠ [] := by
  rw [List.mem_filterMap]
  constructor
  · intro hmem
    obtain ⟨row, hrow, hname⟩ := hmem
    exact List.ne_nil_of_mem (mem_rowsOf.2 ⟨hrow, hname⟩)
  · intro hne
    obtain ⟨row, hrow⟩ := List.exists_mem_of_ne_nil _ hne
    exact ⟨row, mem_rowsOf.1 hrow⟩

theorem not_mem_inexpressibleNames {rows : List Row} {name : String} :
    name ∉ inexpressibleNames rows ↔ ∀ row ∈ rowsOf rows name, ¬IsInexpressible row := by
  rw [mem_inexpressibleNames]
  constructor
  · intro hnot row hrow hnone
    obtain ⟨hmem, hname⟩ := mem_rowsOf.1 hrow
    exact hnot ⟨row, hmem, hname, hnone⟩
  · intro hall h
    obtain ⟨row, hrow, hname, hnone⟩ := h
    exact hall row (mem_rowsOf.2 ⟨hrow, hname⟩) hnone

/-- The names that are left have rows, and all their rows are expressible. -/
theorem mem_expressibleNames {rows : List Row} {name : String} :
    name ∈ (rows.filterMap (·.text? "Key_name")).eraseDups.filter
        (!(inexpressibleNames rows).contains ·) ↔
      rowsOf rows name ≠ [] ∧ ∀ row ∈ rowsOf rows name, ¬IsInexpressible row := by
  rw [← mem_keyNames, ← not_mem_inexpressibleNames, List.mem_filter, List.mem_eraseDups]
  simp

/-- Rows of one index have places of their own and agree on whether it is unique. -/
def WellNumbered (rows : List Row) : Prop :=
  rows.Pairwise fun a b => a.text? "Key_name" ≠ none → a.text? "Key_name" = b.text? "Key_name" →
    sequenceOf a ≠ sequenceOf b ∧ a.int? "Non_unique" = b.int? "Non_unique"

instance (rows : List Row) : Decidable (WellNumbered rows) :=
  inferInstanceAs (Decidable (List.Pairwise _ _))

theorem WellNumbered.perm {rows rows' : List Row} (h : WellNumbered rows) (hperm : rows'.Perm rows) :
    WellNumbered rows' := by
  refine (hperm.pairwise_iff fun {a b} hab hname hsame => ?_).2 h
  obtain ⟨hsequence, hunique⟩ := hab (hsame ▸ hname) hsame.symm
  exact ⟨hsequence.symm, hunique.symm⟩

/-- Two rows of one index have different places and agree on whether it is unique. -/
theorem WellNumbered.pairwise_rowsOf {rows : List Row} (h : WellNumbered rows) (name : String) :
    (rowsOf rows name).Pairwise fun a b =>
      sequenceOf a ≠ sequenceOf b ∧ a.int? "Non_unique" = b.int? "Non_unique" := by
  refine (h.filter _).imp_of_mem fun {a b} ha hb hab => hab ?_ ?_
  · rw [(mem_rowsOf.1 ha).2]
    exact Option.some_ne_none name
  · rw [(mem_rowsOf.1 ha).2, (mem_rowsOf.1 hb).2]

/-- Indexes are those that rows describe: each name once, in order of first appearance, unless
a row makes the index inexpressible, with the columns of all its rows in the order of their
places. -/
structure Describe (rows : List Row) (indexes : List Index) : Prop where
  distinct : (indexes.map (·.name)).Nodup
  names : ∀ name, name ∈ indexes.map (·.name) ↔ rowsOf rows name ≠ [] ∧
    ∀ row ∈ rowsOf rows name, ¬IsInexpressible row
  ordered : (indexes.map (·.name)).Sublist (rows.filterMap (·.text? "Key_name")).eraseDups
  columns : ∀ i ∈ indexes, ∃ own : List Row, own.Perm (rowsOf rows i.name) ∧
    own.Pairwise (sequenceOf · < sequenceOf ·) ∧
      own.map (·.text? "Column_name") = i.columns.map some
  primary : ∀ i ∈ indexes, i.kind = .primary ↔ i.name = "PRIMARY"
  unique : ∀ i ∈ indexes, i.name ≠ "PRIMARY" → ∀ row ∈ rowsOf rows i.name,
    (i.kind = .unique ↔ row.int? "Non_unique" = some 0)

/-- Rows in strict order of their places are told by their members. -/
theorem eq_of_perm_of_sequences {as bs : List Row} (hperm : as.Perm bs)
    (has : as.Pairwise (sequenceOf · < sequenceOf ·))
    (hbs : bs.Pairwise (sequenceOf · < sequenceOf ·)) : as = bs :=
  hperm.eq_of_pairwise (fun _ _ _ _ hab hba => absurd hba (Int.lt_asymm hab)) has hbs

namespace Describe

variable {rows rows' : List Row} {indexes indexes' : List Index}

section SameIndex
variable (h : Describe rows indexes) (h' : Describe rows' indexes') {i j : Index}
  (hi : i ∈ indexes) (hj : j ∈ indexes') (hname : i.name = j.name)
  (hown : (rowsOf rows' j.name).Perm (rowsOf rows i.name))
include h h' hi hj hown

theorem columns_eq : i.columns = j.columns := by
  obtain ⟨as, hasperm, hassorted, hascolumns⟩ := h.columns i hi
  obtain ⟨bs, hbsperm, hbssorted, hbscolumns⟩ := h'.columns j hj
  have hsame : bs = as := eq_of_perm_of_sequences ((hbsperm.trans hown).trans hasperm.symm)
    hbssorted hassorted
  rw [hsame, hascolumns] at hbscolumns
  exact List.map_injective_iff.2 (fun _ _ => Option.some.inj) hbscolumns

include hname

theorem kind_eq : i.kind = j.kind := by
  have hprimary : i.kind = .primary ↔ j.kind = .primary := by
    rw [h.primary i hi, h'.primary j hj, hname]
  by_cases hkey : i.name = "PRIMARY"
  · rw [(h.primary i hi).2 hkey, (h'.primary j hj).2 (hname ▸ hkey)]
  · obtain ⟨row, hrow⟩ := List.exists_mem_of_ne_nil _
      ((h.names i.name).1 (List.mem_map_of_mem hi)).1
    have hunique : i.kind = .unique ↔ j.kind = .unique := by
      rw [h.unique i hi hkey row hrow, h'.unique j hj (hname ▸ hkey) row (hown.mem_iff.2 hrow)]
    cases hi : i.kind <;> cases hj : j.kind <;> simp_all

/-- The rows of its name tell an index. -/
theorem index_eq : i = j := by
  have hcolumns := h.columns_eq h' hi hj hown
  have hkind := h.kind_eq h' hi hj hname hown
  obtain ⟨kind, name, columns⟩ := i
  obtain ⟨kind', name', columns'⟩ := j
  simp only at hname hcolumns hkind
  rw [hname, hcolumns, hkind]

end SameIndex

theorem nodup (h : Describe rows indexes) : indexes.Nodup :=
  List.Pairwise.of_map _ (fun _ _ hne heq => hne (congrArg _ heq)) h.distinct

/-- Rows in another order describe the same indexes. -/
theorem perm (h : Describe rows indexes) (h' : Describe rows' indexes') (hperm : rows'.Perm rows) :
    indexes'.Perm indexes := by
  have hown : ∀ name, (rowsOf rows' name).Perm (rowsOf rows name) := fun name => hperm.filter _
  have hnames : ∀ name, name ∈ indexes'.map (·.name) ↔ name ∈ indexes.map (·.name) := by
    intro name
    rw [h'.names, h.names, Ne, ← List.length_eq_zero_iff, (hown name).length_eq,
      List.length_eq_zero_iff]
    simp only [(hown name).mem_iff]
  refine (List.perm_ext_iff_of_nodup h'.nodup h.nodup).2 fun i => ⟨?_, ?_⟩
  · intro hi
    obtain ⟨j, hj, hname⟩ := List.mem_map.1 ((hnames i.name).1 (List.mem_map_of_mem hi))
    exact h.index_eq h' hj hi hname (hname ▸ hown j.name) ▸ hj
  · intro hi
    obtain ⟨j, hj, hname⟩ := List.mem_map.1 ((hnames i.name).2 (List.mem_map_of_mem hi))
    exact h.index_eq h' hi hj hname.symm (hname ▸ hown j.name) ▸ hj

end Describe

/-! ## Reading -/

/-- Rows in the order of their places. -/
def byPlace (rows : List Row) : List Row := rows.mergeSort fun a b => sequenceOf a ≤ sequenceOf b

section Reading
variable {rows : List Row}

/-- The columns of an index are those of its rows, in the order of their places. -/
theorem columns_indexOfParts {parts : List KeyPart} {own : List Row} {name : String}
    (hparts : parts.filter (·.index = name) = own.map partOf)
    (hcolumn : ∀ row ∈ own, row.text? "Column_name" ≠ none) :
    (byPlace own).map (·.text? "Column_name") = (indexOfParts parts name).columns.map some := by
  have hsort : (byPlace own).map partOf =
      (own.map partOf).mergeSort fun a b => a.sequence ≤ b.sequence :=
    List.map_mergeSort fun _ _ _ _ => rfl
  rw [indexOfParts, hparts, ← hsort, List.map_map, List.map_map]
  apply List.map_congr_left
  intro row hrow
  obtain ⟨column, h⟩ := Option.ne_none_iff_exists'.1 (hcolumn row (List.mem_mergeSort.1 hrow))
  simp [partOf, h]

theorem pairwise_byPlace (h : WellNumbered rows) (name : String) :
    (byPlace (rowsOf rows name)).Pairwise (sequenceOf · < sequenceOf ·) := by
  have hsorted : (byPlace (rowsOf rows name)).Pairwise (sequenceOf · ≤ sequenceOf ·) :=
    pairwise_sorted (sequenceOf · ≤ sequenceOf ·) Int.le_trans
      (fun a b => Int.le_total (sequenceOf a) (sequenceOf b)) _
  have hdistinct : (byPlace (rowsOf rows name)).Pairwise (sequenceOf · ≠ sequenceOf ·) := by
    refine ((List.mergeSort_perm _ _).pairwise_iff fun {a b} hab => hab.symm).2 ?_
    exact (h.pairwise_rowsOf name).imp And.left
  exact (hsorted.and hdistinct).imp Int.lt_iff_le_and_ne.2

/-- Rows of one index agree on whether it is unique. -/
theorem nonUnique_eq (h : WellNumbered rows) {name : String} {a b : Row} (ha : a ∈ rowsOf rows name)
    (hb : b ∈ rowsOf rows name) : a.int? "Non_unique" = b.int? "Non_unique" := by
  have hagree : ((rowsOf rows name).map (·.int? "Non_unique")).Pairwise (· = ·) :=
    List.pairwise_map.2 ((h.pairwise_rowsOf name).imp And.right)
  exact List.Pairwise.forall_of_forall (fun _ _ => rfl) hagree (List.mem_map_of_mem ha)
    (List.mem_map_of_mem hb)

theorem kind_eq_primary_iff {parts : List KeyPart} {name : String} :
    (indexOfParts parts name).kind = .primary ↔ name = "PRIMARY" := by
  by_cases hkey : name = "PRIMARY"
  · simp [indexOfParts, hkey]
  · refine iff_of_false ?_ hkey
    simp only [indexOfParts, if_neg hkey]
    split
    · decide
    · decide

/-- The first row of an index says whether it is unique, and the others agree. -/
theorem kind_eq_unique_iff {parts : List KeyPart} {own : List Row} {name : String} {row : Row}
    (hkey : name ≠ "PRIMARY") (hparts : parts.filter (·.index = name) = own.map partOf)
    (hagree : ∀ a ∈ own, ∀ b ∈ own, a.int? "Non_unique" = b.int? "Non_unique") (hrow : row ∈ own) :
    (indexOfParts parts name).kind = .unique ↔ row.int? "Non_unique" = some 0 := by
  cases own with
  | nil => exact absurd hrow List.not_mem_nil
  | cons first own =>
    rw [hagree row hrow first List.mem_cons_self]
    simp only [indexOfParts, if_neg hkey, hparts, List.map_cons, List.head?_cons, Option.any_some,
      partOf, decide_eq_true_eq]
    split
    · next h => simp [h]
    · next h => simp [h]

/-- What reading finds is what the rows describe. -/
theorem describe_of_whole (h : WellNumbered rows) (hwhole : ∀ row ∈ rows, ¬IsPrefixPart row)
    {table : String} {indexes : List Index} (hread : (indexesOfRows table rows).1 = .ok indexes) :
    Describe rows indexes := by
  rw [indexesOfRows_whole hwhole] at hread
  obtain rfl := Except.ok.inj hread
  have hnames : ∀ names : List String,
      (names.map (indexOfParts (partsOf rows))).map (·.name) = names := by
    intro names
    rw [List.map_map]
    exact List.map_id names
  constructor
  case distinct =>
    rw [hnames]
    exact (nodup_eraseDups _).filter _
  case names =>
    intro name
    rw [hnames, mem_expressibleNames]
  case ordered =>
    rw [hnames]
    exact List.filter_sublist
  case columns =>
    intro i hi
    obtain ⟨name, hname, rfl⟩ := List.mem_map.1 hi
    have hown := (mem_expressibleNames.1 hname).2
    refine ⟨byPlace (rowsOf rows name), List.mergeSort_perm _ _, pairwise_byPlace h name, ?_⟩
    -- A name that is expressible has only rows with a column.
    apply columns_indexOfParts (filter_partsOf hwhole (not_mem_inexpressibleNames.2 hown))
    exact fun row hrow hnone => hown row hrow (.inr hnone)
  case primary =>
    intro i hi
    obtain ⟨name, -, rfl⟩ := List.mem_map.1 hi
    exact kind_eq_primary_iff
  case unique =>
    intro i hi hkey row hrow
    obtain ⟨name, hname, rfl⟩ := List.mem_map.1 hi
    have hown := (mem_expressibleNames.1 hname).2
    exact kind_eq_unique_iff hkey (filter_partsOf hwhole (not_mem_inexpressibleNames.2 hown))
      (fun a ha b hb => nonUnique_eq h ha hb) hrow

end Reading

/-- To read rows one after the other is to read them together. Reading fails, in whatever order
the rows come, if a row indexes the start of a column. Otherwise it finds the indexes that the
rows describe, and rows in another order give the same indexes in the order of their own first
appearances. -/
theorem indexes_described (table : String) {rows : List Row} (h : WellNumbered rows) :
    (∀ rows' : List Row,
      readEach table {} (rows'.map IndexRow.ofRow) = indexesOfRows table rows') ∧
    (∀ rows' : List Row, rows'.Perm rows →
      ((∃ e, (indexesOfRows table rows').1 = .error e) ↔ ∃ row ∈ rows, IsPrefixPart row)) ∧
    ∀ indexes, (indexesOfRows table rows).1 = .ok indexes → Describe rows indexes ∧
      ∀ rows' : List Row, rows'.Perm rows → ∃ indexes', (indexesOfRows table rows').1 = .ok indexes' ∧
        Describe rows' indexes' ∧ indexes'.Perm indexes := by
  have hfails : ∀ rows' : List Row, rows'.Perm rows →
      ((∃ e, (indexesOfRows table rows').1 = .error e) ↔ ∃ row ∈ rows, IsPrefixPart row) := by
    intro rows' hperm
    rw [indexesOfRows_eq_error_iff]
    simp only [hperm.mem_iff]
  refine ⟨readEach_eq table, hfails, fun indexes hread => ?_⟩
  have hwhole : ∀ row ∈ rows, ¬IsPrefixPart row := by
    intro row hrow hprefix
    obtain ⟨e, he⟩ := (hfails rows (List.Perm.refl rows)).2 ⟨row, hrow, hprefix⟩
    cases he.symm.trans hread
  have hdescribe := describe_of_whole h hwhole hread
  refine ⟨hdescribe, fun rows' hperm => ?_⟩
  have hwhole' : ∀ row ∈ rows', ¬IsPrefixPart row :=
    fun row hrow => hwhole row (hperm.mem_iff.1 hrow)
  have hread' := indexesOfRows_whole hwhole' table
  have hdescribe' := describe_of_whole (h.perm hperm) hwhole' hread'
  exact ⟨_, hread', hdescribe', hdescribe.perm hdescribe' hperm⟩

/-- Rows of four indexes, mixed; a part of `b` is no column. -/
def mixedRows : List Row :=
  [Memory.indexRow "t" "a" 2 "y" true none, Memory.indexRow "t" "b" 1 "u" true none,
    Memory.indexRow "t" "PRIMARY" 1 "id" false none,
    .ofFields [("Key_name", .text "b"), ("Seq_in_index", .int 2), ("Column_name", .null),
      ("Non_unique", .int 1)],
    Memory.indexRow "t" "a" 1 "x" true none, Memory.indexRow "t" "c" 1 "z" false none]

/-- The rows give three indexes, and so do they in reverse. -/
theorem indexes_described_mixed :
    WellNumbered mixedRows ∧
    (indexesOfRows "t" mixedRows).1 = .ok [⟨.index, "a", ["x", "y"]⟩, ⟨.primary, "PRIMARY", ["id"]⟩,
      ⟨.unique, "c", ["z"]⟩] ∧
    ∃ indexes, (indexesOfRows "t" mixedRows.reverse).1 = .ok indexes ∧
      indexes.Perm [⟨.index, "a", ["x", "y"]⟩, ⟨.primary, "PRIMARY", ["id"]⟩,
        ⟨.unique, "c", ["z"]⟩] := by
  have hnumbered : WellNumbered mixedRows := by decide
  have hread : (indexesOfRows "t" mixedRows).1 = .ok [⟨.index, "a", ["x", "y"]⟩,
      ⟨.primary, "PRIMARY", ["id"]⟩, ⟨.unique, "c", ["z"]⟩] := by
    have hentries : mixedRows.map IndexRow.ofRow =
        [.part ⟨"a", "y", 2, false⟩, .part ⟨"b", "u", 1, false⟩, .part ⟨"PRIMARY", "id", 1, true⟩,
          .inexpressible "b", .part ⟨"a", "x", 1, false⟩, .part ⟨"c", "z", 1, true⟩] := by decide
    rw [indexesOfRows, hentries]
    cbv
  obtain ⟨-, hothers⟩ := (indexes_described "t" hnumbered).2.2 _ hread
  obtain ⟨indexes, hreverse, -, hperm⟩ := hothers _ (List.reverse_perm mixedRows)
  exact ⟨hnumbered, hread, indexes, hreverse, hperm⟩

end SchemaMigration.Catalog
