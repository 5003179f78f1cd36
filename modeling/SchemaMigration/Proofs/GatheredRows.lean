import SchemaMigration.Proofs.KeyRows

/-
  The rows of indexes, read one after the other.

  What is kept while rows are read are groups, one for each index of which a part has come,
  and the names of indexes that have turned out to be inexpressible. A part goes to the group
  of its index or starts one, whether or not its index is inexpressible. Groups of
  inexpressible indexes are left out at the end, so it does not matter whether such an index
  is found out before or after its parts.

  After any rows, the groups are those of the names of their parts, in order of first
  appearance, with the columns of all parts of the name. So to read the rows in turn is to
  take their parts together.

  Main statements: `gather_groupsOf`, one part; `progressOf_concat`, one row; `readEach_eq`,
  all rows.
-/
namespace SchemaMigration.Catalog

open Text Sql Table Database

/-- An index under way, and the places of its columns. -/
structure Gathered where
  index : Index
  sequences : List Int

namespace Gathered

/-- An index of which the first part has come. -/
def start (p : KeyPart) : Gathered where
  index :=
    { kind := if p.index = "PRIMARY" then .primary else if p.unique then .unique else .index
      name := p.index
      columns := [p.column] }
  sequences := [p.sequence]

/-- The index with one more part. -/
def push (g : Gathered) (p : KeyPart) : Gathered where
  index := { g.index with columns := g.index.columns ++ [p.column] }
  sequences := g.sequences ++ [p.sequence]

/-- The index with its columns in the order of their places. -/
def finish (g : Gathered) : Index :=
  { g.index with
    columns := ((g.sequences.zip g.index.columns).mergeSort fun a b => a.1 ≤ b.1).map Prod.snd }

end Gathered

/-- Puts a part to the group of its index, or starts one. -/
def gather (p : KeyPart) : List Gathered → List Gathered
  | [] => [.start p]
  | g :: groups => if g.index.name = p.index then g.push p :: groups else g :: gather p groups

/-- What is kept while rows are read. -/
structure Progress where
  groups : List Gathered := []
  skipped : List String := []

/-- What is kept after one more row. -/
def Progress.add (s : Progress) : IndexRow → Progress
  | .inexpressible index =>
    if s.skipped.contains index then s else { s with skipped := s.skipped ++ [index] }
  | .part p => { s with groups := gather p s.groups }
  | _ => s

/-- The indexes of rows and the names of those left out, read row by row. -/
def readEach (table : String) (s : Progress) : List IndexRow → Except Error (List Index) × List String
  | [] => (.ok ((s.groups.filter fun g => !s.skipped.contains g.index.name).map (·.finish)),
      s.skipped)
  | .columnPrefix index column length :: _ =>
    (.error (.unsupportedIndex table index
      ("key part `" ++ column ++ "(" ++ intText length ++ ")` indexes a column prefix")), s.skipped)
  | e :: rest => readEach table (s.add e) rest

theorem readEach_cons {e : IndexRow} (he : e.isColumnPrefix = false) (table : String) (s : Progress)
    (rest : List IndexRow) : readEach table s (e :: rest) = readEach table (s.add e) rest := by
  cases e with
  | columnPrefix index column length => cases he
  | nameless => rfl
  | inexpressible index => rfl
  | part p => rfl

/-! ## One row -/

/-- The group of a name, from the parts of all. -/
def groupOf (parts : List KeyPart) (name : String) : Gathered :=
  let own := parts.filter (·.index = name)
  { index :=
      { kind :=
          if name = "PRIMARY" then .primary
          else if own.head?.any (·.unique) then .unique
          else .index
        name
        columns := own.map (·.column) }
    sequences := own.map (·.sequence) }

/-- The groups of parts, in order of first appearance. -/
def groupsOf (parts : List KeyPart) : List Gathered :=
  ((parts.map (·.index)).eraseDups).map (groupOf parts)

@[simp] theorem name_groupOf (parts : List KeyPart) (name : String) :
    (groupOf parts name).index.name = name := rfl

theorem finish_groupOf (parts : List KeyPart) (name : String) :
    (groupOf parts name).finish = indexOfParts parts name := by
  have hsort : ∀ own : List KeyPart,
      ((own.map fun p => (p.sequence, p.column)).mergeSort fun a b => a.1 ≤ b.1) =
        (own.mergeSort fun a b => a.sequence ≤ b.sequence).map fun p => (p.sequence, p.column) :=
    fun own => (List.map_mergeSort (r := fun (a b : KeyPart) => decide (a.sequence ≤ b.sequence))
      fun _ _ _ _ => rfl).symm
  simp only [Gathered.finish, groupOf, List.zip_map', hsort, List.map_map, indexOfParts]
  rfl

theorem groupOf_concat_of_ne {parts : List KeyPart} {p : KeyPart} {name : String}
    (h : name ≠ p.index) : groupOf (parts ++ [p]) name = groupOf parts name := by
  have hown : (parts ++ [p]).filter (·.index = name) = parts.filter (·.index = name) := by
    rw [List.filter_append, List.filter_cons_of_neg (by simpa using h.symm), List.filter_nil,
      List.append_nil]
  rw [groupOf, groupOf, hown]

/-- The first part of an index has said what kind it is of. -/
theorem groupOf_concat_self {parts : List KeyPart} {p : KeyPart}
    (h : p.index ∈ parts.map (·.index)) :
    groupOf (parts ++ [p]) p.index = (groupOf parts p.index).push p := by
  have hown : (parts ++ [p]).filter (·.index = p.index) =
      parts.filter (·.index = p.index) ++ [p] := by
    rw [List.filter_append, List.filter_cons_of_pos (by simp), List.filter_nil]
  obtain ⟨q, hq, hname⟩ := List.mem_map.1 h
  have hmem : q ∈ parts.filter (·.index = p.index) :=
    List.mem_filter.2 ⟨hq, decide_eq_true hname⟩
  obtain ⟨first, others, hfirst⟩ := List.exists_cons_of_ne_nil (List.ne_nil_of_mem hmem)
  simp only [groupOf, hown, hfirst, Gathered.push, List.cons_append, List.head?_cons,
    List.map_append, List.map_cons, List.map_nil]

theorem groupOf_concat_new {parts : List KeyPart} {p : KeyPart}
    (h : p.index ∉ parts.map (·.index)) : groupOf (parts ++ [p]) p.index = .start p := by
  have hnone : parts.filter (·.index = p.index) = [] := by
    apply List.filter_eq_nil_iff.2
    intro q hq hname
    exact h (List.mem_map.2 ⟨q, hq, by simpa using hname⟩)
  simp [groupOf, hnone, Gathered.start]

/-- A part changes the group of its index and starts one only if there is none. -/
theorem gather_map_groupOf {parts : List KeyPart} {p : KeyPart} {names : List String}
    (hnodup : names.Nodup) (hnames : ∀ name ∈ names, name ∈ parts.map (·.index)) :
    gather p (names.map (groupOf parts)) =
      names.map (groupOf (parts ++ [p])) ++ if p.index ∈ names then [] else [.start p] := by
  induction names with
  | nil => rfl
  | cons name names ih =>
    obtain ⟨hfresh, hnodup⟩ := List.nodup_cons.1 hnodup
    obtain ⟨hname, hnames⟩ := List.forall_mem_cons.1 hnames
    rw [List.map_cons, gather, List.map_cons, name_groupOf]
    by_cases hown : name = p.index
    · subst hown
      have hothers : names.map (groupOf (parts ++ [p])) = names.map (groupOf parts) :=
        List.map_congr_left fun other hother =>
          groupOf_concat_of_ne (fun heq => hfresh (heq ▸ hother))
      rw [if_pos rfl, if_pos List.mem_cons_self, hothers, groupOf_concat_self hname,
        List.append_nil]
    · have hmem : p.index ∈ name :: names ↔ p.index ∈ names := by
        simp [Ne.symm hown]
      rw [if_neg hown, ih hnodup hnames, groupOf_concat_of_ne hown, List.cons_append]
      simp only [hmem]

/-- Groups of parts with one more part are the groups of all. -/
theorem gather_groupsOf (parts : List KeyPart) (p : KeyPart) :
    gather p (groupsOf parts) = groupsOf (parts ++ [p]) := by
  rw [groupsOf, gather_map_groupOf (nodup_eraseDups _) fun name => List.mem_eraseDups.1, groupsOf,
    List.map_append, List.map_cons, List.map_nil, eraseDups_concat]
  by_cases hold : p.index ∈ parts.map (·.index)
  · rw [if_pos (List.mem_eraseDups.2 hold), if_pos (List.contains_iff_mem.2 hold), List.append_nil]
  · rw [if_neg fun h => hold (List.mem_eraseDups.1 h), if_neg fun h => hold (List.contains_iff_mem.1 h),
      List.map_append, List.map_cons, List.map_nil, groupOf_concat_new hold]

/-! ## All rows -/

/-- What is kept after some rows. -/
def progressOf (entries : List IndexRow) : Progress where
  groups := groupsOf (entries.filterMap IndexRow.part?)
  skipped := (entries.filterMap IndexRow.skipped?).eraseDups

theorem progressOf_concat (before : List IndexRow) (e : IndexRow) :
    progressOf (before ++ [e]) = (progressOf before).add e := by
  simp only [progressOf, List.filterMap_append, List.filterMap_cons, List.filterMap_nil]
  cases e with
  | nameless => simp [IndexRow.part?, IndexRow.skipped?, Progress.add]
  | columnPrefix index column length => simp [IndexRow.part?, IndexRow.skipped?, Progress.add]
  | part p => simp [IndexRow.part?, IndexRow.skipped?, Progress.add, gather_groupsOf]
  | inexpressible index =>
    simp only [IndexRow.part?, IndexRow.skipped?, List.append_nil, eraseDups_concat, Progress.add,
      List.contains_eq_mem, List.mem_eraseDups]
    split
    · rfl
    · rfl

/-- The groups that are left at the end are the indexes of the parts. -/
theorem finish_groupsOf (parts : List KeyPart) (skipped : List String) :
    ((groupsOf parts).filter fun g => !skipped.contains g.index.name).map (·.finish) =
      (((parts.map (·.index)).eraseDups.filter (!skipped.contains ·)).map (indexOfParts parts)) := by
  rw [groupsOf, List.filter_map, List.map_map]
  exact List.map_congr_left fun name _ => finish_groupOf parts name

/-- From what is kept after some rows, the others are read as all are read together. -/
theorem readEach_progressOf (table : String) {before : List Row}
    (hbefore : ∀ e ∈ before.map IndexRow.ofRow, e.isColumnPrefix = false) (rest : List Row) :
    readEach table (progressOf (before.map IndexRow.ofRow)) (rest.map IndexRow.ofRow) =
      indexesOfRows table (before ++ rest) := by
  induction rest generalizing before with
  | nil =>
    rw [List.append_nil, List.map_nil, readEach, progressOf, finish_groupsOf,
      indexesOfRows_of_whole table hbefore]
  | cons row rest ih =>
    by_cases hrow : (IndexRow.ofRow row).isColumnPrefix = false
    · have hnext : ∀ e ∈ (before ++ [row]).map IndexRow.ofRow, e.isColumnPrefix = false := by
        intro e he
        rw [List.map_append] at he
        rcases List.mem_append.1 he with he | he
        · exact hbefore e he
        · exact List.mem_singleton.1 he ▸ hrow
      have hcut : before ++ row :: rest = (before ++ [row]) ++ rest := List.append_cons ..
      rw [List.map_cons, readEach_cons hrow, ← progressOf_concat, hcut, ← ih hnext,
        List.map_append, List.map_cons, List.map_nil]
    · -- The row is the first of its kind, so all names before it have been noted.
      cases hentry : IndexRow.ofRow row with
      | nameless => exact absurd (hentry ▸ rfl) hrow
      | inexpressible index => exact absurd (hentry ▸ rfl) hrow
      | part p => exact absurd (hentry ▸ rfl) hrow
      | columnPrefix index column length =>
        have htake : ((before ++ row :: rest).map IndexRow.ofRow).takeWhile
            (fun e => !e.isColumnPrefix) = before.map IndexRow.ofRow := by
          rw [List.map_append, List.takeWhile_append_of_pos fun e he => by simp [hbefore e he],
            List.map_cons, hentry]
          exact List.append_nil _
        have hnone : (before.map IndexRow.ofRow).find? IndexRow.isColumnPrefix = none :=
          List.find?_eq_none.2 fun e he => by simp [hbefore e he]
        have hfind : ((before ++ row :: rest).map IndexRow.ofRow).find? IndexRow.isColumnPrefix =
            some (.columnPrefix index column length) := by
          rw [List.map_append, List.find?_append, hnone, List.map_cons, hentry]
          rfl
        rw [List.map_cons, hentry]
        simp only [indexesOfRows, htake, hfind]
        rfl

/-- To read rows in turn is to read them together. -/
theorem readEach_eq (table : String) (rows : List Row) :
    readEach table {} (rows.map IndexRow.ofRow) = indexesOfRows table rows := by
  have hempty : ∀ e ∈ ([] : List Row).map IndexRow.ofRow, e.isColumnPrefix = false :=
    fun e he => absurd he List.not_mem_nil
  exact readEach_progressOf table hempty rows

end SchemaMigration.Catalog
