import Mathlib
import SchemaMigration.Database.NameMap
import SchemaMigration.Proofs.CanonicalOrder

/-
  The order of tables, found by counting.

  Each table has a counter, which says how many of the tables that it refers to are not
  placed. A table is ready when its counter is zero. The first ready table by name is
  placed, and the counters of the tables that refer to it are lowered by one. What does
  not become ready is left, and a warning names it.

  A counter that is to be lowered counts the table that is placed, so none is lowered below
  zero. No counter is raised, and a table that becomes ready lowers the sum of the counters
  by one, so the loop ends.

  Main statements: `Counts.step`, a step keeps the counters right; `exists_countDown?`, so
  does the loop, and it places the tables one after the other; `dependencyOrder_canonical`.
-/
namespace SchemaMigration.Catalog

open Database

/-! ## Counting -/

/-- A set of names, by name. -/
def nameSet (names : List String) : NameMap Unit :=
  names.foldl (fun set a => set.insert a ()) ∅

/-- The other listed tables that a table refers to, each once. -/
def suppliersOf (tables : List TableReferences) (t : TableReferences) : NameMap Unit :=
  nameSet (t.references.filter fun r => r != t.name && (nameSet (tables.map (·.name))).contains r)

/-- The tables that refer to a table, as they are listed. -/
def dependents (tables : List TableReferences) (a : String) : List String :=
  (tables.filter fun t => (suppliersOf tables t).contains a).map (·.name)

/-- For each table how many of the tables that it refers to are not placed, and the tables
that can be placed. -/
structure Counters where
  degrees : NameMap Nat
  ready : NameMap Unit

namespace Counters

/-- The counters when no table is placed. -/
def first (tables : List TableReferences) : Counters :=
  let degrees := tables.foldl
    (fun degrees t => degrees.insert t.name (suppliersOf tables t).entries.length) ∅
  ⟨degrees, nameSet ((degrees.entries.filter (·.2 = 0)).map Prod.fst)⟩

/-- The counter of a table, if it has one, is lowered by one. There is no result below
zero. -/
def lower (c : Counters) (a : String) : Option Counters :=
  match c.degrees.get? a with
  | none => some c
  | some 0 => none
  | some (n + 1) =>
    some ⟨c.degrees.insert a n, if n = 0 then c.ready.insert a () else c.ready⟩

/-- The table is placed, and the counters of those that refer to it are lowered. -/
def place (tables : List TableReferences) (c : Counters) (a : String) : Option Counters :=
  (dependents tables a).foldlM lower { c with ready := c.ready.erase a }

/-- The tables whose counter is not zero. -/
def waiting (c : Counters) : List String := (c.degrees.entries.filter (0 < ·.2)).map Prod.fst

/-- What the loop lowers. -/
def size (c : Counters) : Nat := c.degrees.values.sum + c.ready.entries.length

/-- A value in another's place changes the sum by their difference. -/
theorem sum_insertEntry {a : String} {v n : Nat} {l : List (String × Nat)}
    (hsorted : l.Pairwise fun d e => d.1 < e.1) (hmem : (a, n) ∈ l) :
    ((NameMap.insertEntry a v l).map Prod.snd).sum + n = (l.map Prod.snd).sum + v := by
  induction l with
  | nil => exact absurd hmem List.not_mem_nil
  | cons e l ih =>
    obtain ⟨hfirst, hrest⟩ := List.pairwise_cons.1 hsorted
    rcases List.mem_cons.1 hmem with rfl | hmem
    · simp only [NameMap.insertEntry, if_neg (String.lt_irrefl a), if_true, List.map_cons,
        List.sum_cons]
      omega
    · have hlt := hfirst _ hmem
      have hih := ih hrest hmem
      simp only [NameMap.insertEntry, if_neg (String.lt_asymm hlt), if_neg (String.ne_of_lt hlt),
        List.map_cons, List.sum_cons]
      omega

theorem size_lower_le {c c' : Counters} {a : String} (h : c.lower a = some c') :
    c'.size ≤ c.size := by
  rw [lower] at h
  split at h
  · exact Option.some.inj h ▸ Nat.le_refl _
  · cases h
  · rename_i n hdegree
    obtain rfl := Option.some.inj h
    have hsum : (c.degrees.insert a n).values.sum + (n + 1) = c.degrees.values.sum + n :=
      sum_insertEntry c.degrees.sorted (NameMap.get?_eq_some_iff.1 hdegree)
    have hlength : (if n = 0 then c.ready.insert a () else c.ready).entries.length ≤
        c.ready.entries.length + 1 := by
      split
      · exact NameMap.length_insertEntry_le a () _
      · exact Nat.le_succ _
    simp only [size]
    omega

theorem size_foldlM_lower_le {names : List String} {c c' : Counters}
    (h : names.foldlM lower c = some c') : c'.size ≤ c.size := by
  induction names generalizing c with
  | nil => exact Option.some.inj h ▸ Nat.le_refl _
  | cons a names ih =>
    obtain ⟨c₁, hlower, hrest⟩ := Option.bind_eq_some_iff.1 h
    exact Nat.le_trans (ih hrest) (size_lower_le hlower)

theorem size_place_lt {tables : List TableReferences} {c c' : Counters} {a : String}
    (ha : a ∈ c.ready.keys) (h : c.place tables a = some c') : c'.size < c.size := by
  have hle := size_foldlM_lower_le h
  have hlt := NameMap.length_erase_lt ha
  simp only [size] at hle ⊢
  omega

end Counters

/-- Tables are placed until none is ready. The result are these tables in their order and the
counters in the end. -/
def countDown? (tables : List TableReferences) (c : Counters) : Option (List String × Counters) :=
  match _hready : c.ready.keys with
  | [] => some ([], c)
  | a :: _ =>
    match _hplace : c.place tables a with
    | none => none
    | some c' => (countDown? tables c').map fun result => (a :: result.1, result.2)
termination_by c.size
decreasing_by exact Counters.size_place_lt (_hready ▸ List.mem_cons_self) _hplace

/-- The order of the tables, and the warning if some cannot be placed. -/
def orderByCounting? (tables : List TableReferences) : Option (List String × Option String) := do
  let (placed, last) ← countDown? tables (.first tables)
  if placed.length = last.degrees.entries.length then
    return (placed, none)
  return (placed ++ last.waiting, some (cycleWarning last.waiting))

/-! ## What is missing -/

/-- The tables that a table refers to and that are not placed. -/
def missing (tables : List TableReferences) (placed : List String) (t : TableReferences) :
    List String :=
  (suppliersOf tables t).keys.filter fun b => !placed.contains b

theorem mem_nameSet {names : List String} {a : String} : a ∈ (nameSet names).keys ↔ a ∈ names := by
  rw [nameSet, NameMap.mem_keys_foldl_insert, NameMap.keys_empty]
  simp

theorem listed_dependents {tables : List TableReferences} {a b : String}
    (h : b ∈ dependents tables a) : b ∈ tables.map (·.name) :=
  (List.filter_sublist.map _).subset h

theorem nodup_missing (tables : List TableReferences) (placed : List String)
    (t : TableReferences) : (missing tables placed t).Nodup :=
  (NameMap.nodup_keys _).filter _

theorem missing_snoc (tables : List TableReferences) (placed : List String) (a : String)
    (t : TableReferences) :
    missing tables (placed ++ [a]) t = (missing tables placed t).erase a := by
  rw [(nodup_missing tables placed t).erase_eq_filter, missing, missing, List.filter_filter]
  refine List.filter_congr fun b _ => ?_
  rw [List.contains_eq_mem, List.contains_eq_mem, Bool.eq_iff_iff]
  simp [and_comm]

section
variable {tables : List TableReferences} (hnames : (tables.map (·.name)).Nodup)
include hnames

theorem mem_suppliersOf {t : TableReferences} (ht : t ∈ tables) {b : String} :
    b ∈ (suppliersOf tables t).keys ↔ Refers tables t.name b := by
  rw [refers_iff_awaited hnames ht, mem_awaited, suppliersOf, mem_nameSet, List.mem_filter,
    Bool.and_eq_true, bne_iff_ne, NameMap.contains, ← NameMap.mem_keys_iff, mem_nameSet]

theorem mem_dependents {t : TableReferences} (ht : t ∈ tables) {a : String} :
    t.name ∈ dependents tables a ↔ Refers tables t.name a := by
  rw [← mem_suppliersOf hnames ht, NameMap.mem_keys_iff, dependents, List.mem_map]
  constructor
  · rintro ⟨u, hu, hname⟩
    obtain ⟨hu, hrefers⟩ := List.mem_filter.1 hu
    obtain rfl := List.inj_on_of_nodup_map hnames hu ht hname
    exact hrefers
  · exact fun h => ⟨t, List.mem_filter.2 ⟨ht, h⟩, rfl⟩

theorem nodup_dependents (a : String) : (dependents tables a).Nodup :=
  hnames.sublist (List.filter_sublist.map _)

theorem mem_missing {t : TableReferences} (ht : t ∈ tables) {placed : List String} {b : String} :
    b ∈ missing tables placed t ↔ Refers tables t.name b ∧ b ∉ placed := by
  rw [missing, List.mem_filter, mem_suppliersOf hnames ht]
  simp

/-- A table is ready when it is not placed and nothing is missing. -/
theorem ready_iff_missing {t : TableReferences} (ht : t ∈ tables) {placed : List String} :
    Ready tables placed t.name ↔ t.name ∉ placed ∧ (missing tables placed t).length = 0 := by
  rw [List.length_eq_zero_iff, List.eq_nil_iff_forall_not_mem]
  constructor
  · exact fun h => ⟨h.fresh, fun b hb =>
      ((mem_missing hnames ht).1 hb).2 (h.supplied b ((mem_missing hnames ht).1 hb).1)⟩
  · exact fun h => ⟨List.mem_map_of_mem ht, h.1, fun b hb =>
      Decidable.byContradiction fun hb' => h.2 b ((mem_missing hnames ht).2 ⟨hb, hb'⟩)⟩

end

/-! ## The counters are right -/

/-- The counters say what is missing. What a placed table refers to is placed too. -/
structure Counts (tables : List TableReferences) (placed : List String) (c : Counters) :
    Prop where
  degree : ∀ t ∈ tables, c.degrees.get? t.name = some (missing tables placed t).length
  listed : ∀ a ∈ c.degrees.keys, a ∈ tables.map (·.name)
  ready : ∀ a, a ∈ c.ready.keys ↔ Ready tables placed a
  settled : ∀ a ∈ placed, ∀ b, Refers tables a b → b ∈ placed

/-- Counters above zero are lowered, each once. Those that were one are ready. -/
theorem Counters.exists_foldlM_lower {names : List String} (hnodup : names.Nodup) {c : Counters}
    (hpositive : ∀ a ∈ names, ∃ n, c.degrees.get? a = some (n + 1)) :
    ∃ c', names.foldlM lower c = some c' ∧
      (∀ a, c'.degrees.get? a =
        if a ∈ names then (c.degrees.get? a).map (· - 1) else c.degrees.get? a) ∧
      ∀ a, a ∈ c'.ready.keys ↔ a ∈ c.ready.keys ∨ a ∈ names ∧ c.degrees.get? a = some 1 := by
  induction names generalizing c with
  | nil => exact ⟨c, rfl, by simp, by simp⟩
  | cons a names ih =>
    obtain ⟨hnot, hnodup⟩ := List.nodup_cons.1 hnodup
    obtain ⟨⟨n, hn⟩, hpositive⟩ := List.forall_mem_cons.1 hpositive
    -- The names are all different, so the counters of the others are still what they were.
    let c₁ : Counters := ⟨c.degrees.insert a n, if n = 0 then c.ready.insert a () else c.ready⟩
    have hlower : c.lower a = some c₁ := by rw [lower, hn]
    have hdegree : ∀ b, c₁.degrees.get? b = if a = b then some n else c.degrees.get? b :=
      fun b => NameMap.get?_insert c.degrees a b n
    have hother : ∀ b ∈ names, c₁.degrees.get? b = c.degrees.get? b := fun b hb => by
      rw [hdegree, if_neg]
      rintro rfl
      exact hnot hb
    have hready : ∀ b, b ∈ c₁.ready.keys ↔ b ∈ c.ready.keys ∨ b = a ∧ n = 0 := by
      intro b
      show b ∈ (if n = 0 then c.ready.insert a () else c.ready).keys ↔ _
      by_cases hzero : n = 0
      · rw [if_pos hzero, NameMap.mem_keys_insert, and_iff_left hzero, or_comm]
      · rw [if_neg hzero, or_iff_left fun h => hzero h.2]
    obtain ⟨c', hrest, hdegree', hready'⟩ := ih hnodup fun b hb => by
      rw [hother b hb]
      exact hpositive b hb
    refine ⟨c', by rw [List.foldlM_cons, hlower]; exact hrest, fun b => ?_, fun b => ?_⟩
    · rw [hdegree']
      by_cases hb : b ∈ names
      · rw [if_pos hb, if_pos (List.mem_cons_of_mem a hb), hother b hb]
      · rw [if_neg hb, hdegree]
        by_cases hab : a = b
        · subst hab
          simp [hn]
        · simp [hab, Ne.symm hab, hb]
    · rw [hready', hready, List.mem_cons]
      by_cases hb : b ∈ names
      · have hba : b ≠ a := fun h => hnot (h ▸ hb)
        simp [hb, hba, hother b hb]
      · by_cases hba : b = a
        · subst hba
          simp [hb, hn]
        · simp [hb, hba]

section
variable {tables : List TableReferences} (hnames : (tables.map (·.name)).Nodup)
include hnames

section
variable {placed : List String} {c : Counters} {a : String}

/-- When a table is placed, each table that refers to it misses one less. -/
theorem length_missing_snoc {t : TableReferences} (ht : t ∈ tables) (ha : a ∉ placed) :
    (missing tables (placed ++ [a]) t).length =
      if t.name ∈ dependents tables a then (missing tables placed t).length - 1
      else (missing tables placed t).length := by
  rw [missing_snoc, List.length_erase]
  have hiff : a ∈ missing tables placed t ↔ t.name ∈ dependents tables a := by
    rw [mem_missing hnames ht, mem_dependents hnames ht, and_iff_left ha]
  by_cases hmem : a ∈ missing tables placed t
  · rw [if_pos hmem, if_pos (hiff.1 hmem)]
  · rw [if_neg hmem, if_neg (mt hiff.2 hmem)]

/-- Placing a ready table keeps the counters right, and lowers none below zero. -/
theorem Counts.step (h : Counts tables placed c) (ha : Ready tables placed a) :
    ∃ c', c.place tables a = some c' ∧ Counts tables (placed ++ [a]) c' := by
  have hmissing : ∀ t ∈ tables, t.name ∈ dependents tables a →
      0 < (missing tables placed t).length := fun t ht hdependent =>
    List.length_pos_of_mem ((mem_missing hnames ht).2
      ⟨(mem_dependents hnames ht).1 hdependent, ha.fresh⟩)
  obtain ⟨c', hplace, hdegree, hready⟩ := Counters.exists_foldlM_lower
    (nodup_dependents hnames a) (c := { c with ready := c.ready.erase a }) fun b hb => by
      obtain ⟨t, ht, rfl⟩ := List.mem_map.1 (listed_dependents hb)
      exact ⟨_, (h.degree t ht).trans
        (congrArg some (Nat.sub_add_cancel (hmissing t ht hb)).symm)⟩
  refine ⟨c', hplace, fun t ht => ?_, fun b hb => ?_, fun b => ?_, fun b hb d hd => ?_⟩
  · rw [hdegree, length_missing_snoc hnames ht ha.fresh]
    simp only [h.degree t ht, Option.map_some]
    split <;> rfl
  · rw [NameMap.mem_keys_iff, hdegree] at hb
    refine h.listed b (NameMap.mem_keys_iff.2 ?_)
    split at hb
    · rwa [Option.isSome_map] at hb
    · exact hb
  · rw [hready, NameMap.mem_keys_erase, h.ready]
    by_cases hlisted : b ∈ tables.map (·.name)
    · obtain ⟨t, ht, rfl⟩ := List.mem_map.1 hlisted
      rw [ready_iff_missing hnames ht, ready_iff_missing hnames ht,
        length_missing_snoc hnames ht ha.fresh, h.degree t ht, List.mem_append,
        List.mem_singleton, Option.some_inj]
      by_cases hdependent : t.name ∈ dependents tables a
      · -- it waited for the table that is placed, so it was neither placed nor ready
        have hpositive := hmissing t ht hdependent
        have hrefers := (mem_dependents hnames ht).1 hdependent
        have hfresh : t.name ∉ placed := fun hplaced =>
          ha.fresh (h.settled t.name hplaced a hrefers)
        have hne : t.name ≠ a := by
          obtain ⟨-, -, -, -, hne, -⟩ := hrefers
          exact hne.symm
        simp only [hdependent, hfresh, hne, if_true, not_false_iff, true_and, or_self]
        omega
      · simp only [hdependent, if_false, false_and, or_false, not_or]
        exact and_right_comm
    · have hnone : ∀ placed, ¬Ready tables placed b := fun placed hb => hlisted hb.listed
      have hindependent : b ∉ dependents tables a := fun hb => hlisted (listed_dependents hb)
      simp only [hnone, hindependent, false_and, or_false]
  · rcases List.mem_append.1 hb with hb | hb
    · exact List.mem_append_left _ (h.settled b hb d hd)
    · exact List.mem_append_left _ (ha.supplied d (List.mem_singleton.1 hb ▸ hd))

/-- So the loop ends with a result and places the tables one after the other. -/
theorem exists_countDown? (h : Counts tables placed c) :
    ∃ rest last, countDown? tables c = some (rest, last) ∧ Places tables placed rest ∧
      Counts tables (placed ++ rest) last := by
  fun_induction countDown? tables c generalizing placed with
  | case1 c hnone =>
    refine ⟨[], c, rfl, .done fun a ha => ?_, by rwa [List.append_nil]⟩
    exact List.not_mem_nil (hnone ▸ (h.ready a).2 ha)
  | case2 c a tail hready hplace =>
    have ha : Ready tables placed a := (h.ready a).1 (hready ▸ List.mem_cons_self)
    -- While the counts are right no table that is ready fails to be placed.
    obtain ⟨c', hplace', -⟩ := h.step hnames ha
    exact absurd (hplace.symm.trans hplace') (Option.some_ne_none c').symm
  | case3 c a tail hready c₁ hplace ih =>
    have ha : Ready tables placed a := (h.ready a).1 (hready ▸ List.mem_cons_self)
    -- The ready names are kept in order, so the one taken is the least.
    have hleast : ∀ b, Ready tables placed b → a ≤ b := by
      intro b hb
      have hsorted : (a :: tail).Pairwise (· < ·) := hready ▸ List.pairwise_map.2 c.ready.sorted
      rcases List.mem_cons.1 (hready ▸ (h.ready b).2 hb) with rfl | hb
      · exact String.le_refl _
      · exact String.not_lt.1 (String.lt_asymm ((List.pairwise_cons.1 hsorted).1 b hb))
    obtain ⟨c', hplace', hcounts⟩ := h.step hnames ha
    obtain rfl := Option.some.inj (hplace.symm.trans hplace')
    obtain ⟨rest, last, hrun, hrest, hlast⟩ := ih hcounts
    refine ⟨a :: rest, last, by rw [hrun]; rfl, .next ha hleast hrest, ?_⟩
    rwa [List.append_assoc] at hlast

end

/-- Each table has one counter, the one that is put in for it. -/
theorem get?_foldl_insert (f : TableReferences → Nat) (m : NameMap Nat) :
    (∀ t ∈ tables, (tables.foldl (fun m t => m.insert t.name (f t)) m).get? t.name =
      some (f t)) ∧
    ∀ a ∉ tables.map (·.name),
      (tables.foldl (fun m t => m.insert t.name (f t)) m).get? a = m.get? a := by
  induction tables generalizing m with
  | nil => exact ⟨fun t ht => absurd ht List.not_mem_nil, fun a _ => rfl⟩
  | cons t tables ih =>
    obtain ⟨hnot, hnames⟩ := List.nodup_cons.1 hnames
    obtain ⟨hlisted, hother⟩ := ih hnames (m.insert t.name (f t))
    refine ⟨List.forall_mem_cons.2 ⟨?_, hlisted⟩, fun a ha => ?_⟩
    · rw [List.foldl_cons, hother t.name hnot, NameMap.get?_insert, if_pos rfl]
    · obtain ⟨hne, ha⟩ := not_or.1 (mt List.mem_cons.2 ha)
      rw [List.foldl_cons, hother a ha, NameMap.get?_insert, if_neg (Ne.symm hne)]

/-- At first everything is missing. -/
theorem counts_first : Counts tables [] (.first tables) := by
  obtain ⟨hdegree, hother⟩ := get?_foldl_insert hnames
    (fun t => (suppliersOf tables t).entries.length) ∅
  have hmissing : ∀ t ∈ tables, (Counters.first tables).degrees.get? t.name =
      some (missing tables [] t).length := by
    intro t ht
    have hall : missing tables [] t = (suppliersOf tables t).keys :=
      List.filter_eq_self.2 fun b _ => rfl
    rw [hall, NameMap.keys, List.length_map]
    exact hdegree t ht
  have hnone : ∀ a ∉ tables.map (·.name), (Counters.first tables).degrees.get? a = none := hother
  refine ⟨hmissing, fun a ha => ?_, fun a => ?_, fun a ha => absurd ha List.not_mem_nil⟩
  · refine Decidable.byContradiction fun hnot => ?_
    rw [NameMap.mem_keys_iff, hnone a hnot] at ha
    exact Bool.false_ne_true ha
  · have hzero : a ∈ (Counters.first tables).ready.keys ↔
        (Counters.first tables).degrees.get? a = some 0 := by
      rw [NameMap.get?_eq_some_iff, Counters.first, mem_nameSet, List.mem_map]
      constructor
      · rintro ⟨⟨b, n⟩, he, rfl⟩
        obtain ⟨he, hn⟩ := List.mem_filter.1 he
        obtain rfl : n = 0 := of_decide_eq_true hn
        exact he
      · exact fun h => ⟨(a, 0), List.mem_filter.2 ⟨h, rfl⟩, rfl⟩
    rw [hzero]
    by_cases hlisted : a ∈ tables.map (·.name)
    · obtain ⟨t, ht, rfl⟩ := List.mem_map.1 hlisted
      rw [ready_iff_missing hnames ht, hmissing t ht, Option.some_inj]
      exact (and_iff_right List.not_mem_nil).symm
    · rw [hnone a hlisted]
      exact iff_of_false (Option.some_ne_none 0).symm fun ha => hlisted ha.listed

end

/-! ## The end of the loop -/

theorem Counters.mem_waiting {c : Counters} {a : String} :
    a ∈ c.waiting ↔ ∃ n, 0 < n ∧ c.degrees.get? a = some n := by
  rw [waiting, List.mem_map]
  constructor
  · rintro ⟨⟨b, n⟩, he, rfl⟩
    obtain ⟨he, hn⟩ := List.mem_filter.1 he
    exact ⟨n, of_decide_eq_true hn, NameMap.get?_eq_some_iff.2 he⟩
  · rintro ⟨n, hn, hdegree⟩
    exact ⟨(a, n), List.mem_filter.2 ⟨NameMap.get?_eq_some_iff.1 hdegree, decide_eq_true hn⟩, rfl⟩

theorem Counters.sorted_waiting (c : Counters) : c.waiting.Pairwise (· < ·) :=
  List.pairwise_map.2 (c.degrees.sorted.filter _)

section
variable {tables : List TableReferences} (hnames : (tables.map (·.name)).Nodup)
include hnames

section
variable {placed : List String} {last : Counters}

/-- A table whose counter is not zero is not placed, and in the end all others are. -/
theorem Counts.arranged (h : Counts tables placed last) (hplaces : Places tables [] placed) :
    Arranged tables placed last.waiting := by
  have hwaiting : ∀ t ∈ tables, t.name ∈ last.waiting ↔ 0 < (missing tables placed t).length := by
    intro t ht
    simp only [Counters.mem_waiting, h.degree t ht, Option.some_inj, exists_eq_right']
  have hlisted : ∀ a ∈ last.waiting, a ∈ tables.map (·.name) := by
    intro a ha
    obtain ⟨n, -, hdegree⟩ := Counters.mem_waiting.1 ha
    exact h.listed a (NameMap.mem_keys_iff.2 (Option.isSome_iff_exists.2 ⟨n, hdegree⟩))
  -- A placed table waits for nothing: all that it refers to was placed before it.
  have hdisjoint : ∀ a ∈ placed, ∀ b ∈ last.waiting, a ≠ b := by
    rintro a ha _ hb rfl
    obtain ⟨t, ht, rfl⟩ := List.mem_map.1 (hlisted a hb)
    obtain ⟨b, hmissing⟩ := List.exists_mem_of_length_pos ((hwaiting t ht).1 hb)
    obtain ⟨hrefers, hnot⟩ := (mem_missing hnames ht).1 hmissing
    exact hnot (h.settled t.name ha b hrefers)
  have hnodup : (placed ++ last.waiting).Nodup :=
    List.nodup_append.2 ⟨hplaces.nodup List.nodup_nil,
      last.sorted_waiting.imp fun hlt => String.ne_of_lt hlt, hdisjoint⟩
  refine ⟨hplaces, (List.perm_ext_iff_of_nodup hnodup hnames).2 fun a => ⟨fun ha => ?_, fun ha => ?_⟩,
    last.sorted_waiting.imp fun hlt => String.not_lt.1 (String.lt_asymm hlt)⟩
  · exact (List.mem_append.1 ha).elim (hplaces.listed a) (hlisted a)
  · obtain ⟨t, ht, rfl⟩ := List.mem_map.1 ha
    refine List.mem_append.2 (Decidable.or_iff_not_imp_left.2 fun hfresh => ?_)
    refine (hwaiting t ht).2 (Nat.pos_of_ne_zero fun hzero => ?_)
    exact hplaces.not_ready t.name ((ready_iff_missing hnames ht).2 ⟨hfresh, hzero⟩)

/-- Each table has a counter, so as many tables are left as are not placed. -/
theorem Counts.length_entries (h : Counts tables placed last)
    (harranged : Arranged tables placed last.waiting) :
    last.degrees.entries.length = placed.length + last.waiting.length := by
  have hkeys : last.degrees.keys.Perm (tables.map (·.name)) := by
    refine (List.perm_ext_iff_of_nodup (NameMap.nodup_keys _) hnames).2 fun a => ⟨h.listed a, ?_⟩
    intro ha
    obtain ⟨t, ht, rfl⟩ := List.mem_map.1 ha
    rw [NameMap.mem_keys_iff, h.degree t ht]
    rfl
  rw [← List.length_append, (harranged.perm.trans hkeys.symm).length_eq, NameMap.keys,
    List.length_map]

end

/-- What is said about the tables that are left. -/
def warningAbout (left : List String) : Option String :=
  if left = [] then none else some (cycleWarning left)

/-- Counting gives the order, and warns if a table is left. -/
theorem orderByCounting?_eq : orderByCounting? tables =
    some ((dependencyOrder tables).1, warningAbout (dependencyOrder tables).2) := by
  obtain ⟨placed, last, hrun, hplaces, hcounts⟩ := exists_countDown? hnames (counts_first hnames)
  rw [List.nil_append] at hcounts
  have harranged := hcounts.arranged hnames hplaces
  have hlength := hcounts.length_entries hnames harranged
  rw [dependencyOrder_eq_of_arranged hnames harranged, orderByCounting?, hrun, warningAbout]
  show (if placed.length = last.degrees.entries.length then _ else _) = _
  by_cases hleft : last.waiting = []
  · have hall : placed.length = last.degrees.entries.length := by
      rw [hlength, hleft, List.length_nil, Nat.add_zero]
    rw [if_pos hall, if_pos hleft, hleft, List.append_nil]
    rfl
  · have hsome : placed.length ≠ last.degrees.entries.length := by
      have hpositive := List.length_pos_iff.2 hleft
      omega
    rw [if_neg hsome, if_neg hleft]
    rfl

/-- For tables of distinct names, whatever they refer to: counting ends, lowers no counter below
zero, and gives all tables in an order that does not depend on how they and their references
are listed. Without a circle it is the first one by name of the orders in which each table
follows what it refers to. There is a warning exactly if there is a circle. -/
theorem dependencyOrder_canonical :
    orderByCounting? tables =
      some ((dependencyOrder tables).1, warningAbout (dependencyOrder tables).2) ∧
    (dependencyOrder tables).1.Perm (tables.map (·.name)) ∧
    (∀ others, Relisted tables others → dependencyOrder others = dependencyOrder tables) ∧
    (Acyclic tables → Supplied tables (dependencyOrder tables).1 ∧
      ∀ order : List String, order.Perm (tables.map (·.name)) → Supplied tables order →
        (dependencyOrder tables).1 = order ∨ (dependencyOrder tables).1 < order) ∧
    (warningAbout (dependencyOrder tables).2 = none ↔ Acyclic tables) := by
  refine ⟨orderByCounting?_eq hnames, dependencyOrder_perm hnames,
    fun others h => dependencyOrder_relisted hnames h, fun h => ⟨dependencyOrder_supplied hnames h,
      fun order hperm hsupplied => dependencyOrder_le hnames h hperm hsupplied⟩, ?_⟩
  rw [← cyclic_eq_nil_iff hnames, warningAbout]
  split
  · exact iff_of_true rfl ‹_›
  · exact iff_of_false (Option.some_ne_none _) ‹_›

end

/-- Orders refer to users, regions and themselves, some of them twice. -/
def shop : List TableReferences :=
  [⟨"order_items", ["products", "orders", "orders"]⟩,
   ⟨"orders", ["users", "orders", "regions", "users"]⟩, ⟨"products", []⟩, ⟨"users", []⟩]

theorem dependencyOrder_canonical_shop :
    (shop.map (·.name)).Nodup ∧
      orderByCounting? shop = some (["products", "users", "orders", "order_items"], none) ∧
      Acyclic shop ∧
      ∀ order : List String, order.Perm (shop.map (·.name)) → Supplied shop order →
        ["products", "users", "orders", "order_items"] = order ∨
          ["products", "users", "orders", "order_items"] < order := by
  have hnames : (shop.map (·.name)).Nodup := by decide
  have horder : dependencyOrder shop = (["products", "users", "orders", "order_items"], []) := by
    have hsorted : shop.mergeSort (fun a b => decide (a.name ≤ b.name)) = shop :=
      List.mergeSort_of_pairwise (by decide)
    rw [dependencyOrder, latest_eq_self hnames, hsorted]
    decide +kernel
  obtain ⟨hcounted, -, -, hfirst, hwarning⟩ := dependencyOrder_canonical hnames
  rw [horder] at hcounted hfirst hwarning
  have hacyclic : Acyclic shop := hwarning.1 rfl
  exact ⟨hnames, hcounted, hacyclic, (hfirst hacyclic).2⟩

end SchemaMigration.Catalog
