import Mathlib.Data.List.Nodup
import Mathlib.Logic.Relation
import SchemaMigration.Catalog.DependencyOrder
import SchemaMigration.Proofs.Lists

/-
  Tables are placed behind the tables they refer to.

  A table is placed when all that it waits for is placed. So every table with a place has
  what it refers to in front of it, and when none is ready each table that is left refers
  to another one that is left. There are finitely many of them, so some of them refer to
  each other in a circle.

  The order is one of all tables, each once.

  Main statements: `dependencyOrder_perm`; `dependencyOrder_supplied`, without a circle
  each table follows what it refers to.
-/
namespace SchemaMigration.Catalog

open Relation

/-! ## References -/

/-- A listed table refers to another listed table. -/
def Refers (tables : List TableReferences) (a b : String) : Prop :=
  ∃ t ∈ tables, t.name = a ∧ b ∈ t.references ∧ b ≠ a ∧ b ∈ tables.map (·.name)

/-- No table is led back to by references. -/
def Acyclic (tables : List TableReferences) : Prop := ∀ a, ¬TransGen (Refers tables) a a

theorem mem_awaited {t : TableReferences} {all : List String} {r : String} :
    r ∈ t.awaited all ↔ r ∈ t.references ∧ r ≠ t.name ∧ r ∈ all := by
  rw [TableReferences.awaited, List.mem_eraseDups, List.mem_filter, Bool.and_eq_true, bne_iff_ne,
    List.contains_iff_mem]

section
variable {tables : List TableReferences} (hnames : (tables.map (·.name)).Nodup)
include hnames

theorem refers_iff_awaited {t : TableReferences} (ht : t ∈ tables) {b : String} :
    Refers tables t.name b ↔ b ∈ t.awaited (tables.map (·.name)) := by
  rw [mem_awaited]
  constructor
  · rintro ⟨u, hu, hname, hb⟩
    obtain rfl := List.inj_on_of_nodup_map hnames hu ht hname
    exact hb
  · exact fun hb => ⟨t, ht, rfl, hb⟩

/-- A table is ready when all that it refers to is placed. -/
theorem ready_iff_refers {t : TableReferences} (ht : t ∈ tables) (placed : List String) :
    (PendingTable.ofEntry tables t).ready placed = true ↔ ∀ b, Refers tables t.name b → b ∈ placed := by
  rw [ready_pending_iff hnames ht]
  exact forall_congr' fun b => by rw [refers_iff_awaited hnames ht]

end

/-! ## Placing -/

/-- In an order each table follows what it refers to. -/
def Supplied (tables : List TableReferences) (order : List String) : Prop :=
  ∀ before a behind, order = before ++ a :: behind → ∀ b, Refers tables a b → b ∈ before

theorem supplied_nil (tables : List TableReferences) : Supplied tables [] :=
  fun _ _ _ h => absurd (congrArg List.length h) (by simp)

theorem Supplied.snoc {tables : List TableReferences} {order : List String} {a : String}
    (h : Supplied tables order) (ha : ∀ b, Refers tables a b → b ∈ order) :
    Supplied tables (order ++ [a]) := by
  intro before c behind hcut b hb
  rcases List.eq_nil_or_concat behind with rfl | ⟨behind, last, rfl⟩
  · obtain ⟨rfl, hlast⟩ := List.append_inj' hcut rfl
    obtain rfl := List.head_eq_of_cons_eq hlast
    exact ha b hb
  · rw [List.concat_eq_append, ← List.cons_append, ← List.append_assoc] at hcut
    obtain ⟨rfl, -⟩ := List.append_inj' hcut rfl
    exact h before c behind rfl b hb

/-- What is placed and what is left are all tables, each once. -/
theorem placeReady_perm (placed : List String) (waiting : List PendingTable) :
    ((placeReady placed waiting).1 ++ (placeReady placed waiting).2).Perm
      (placed ++ waiting.map (·.name)) := by
  fun_induction placeReady placed waiting with
  | case1 => exact .refl _
  | case2 placed waiting t hfind ih =>
    have herase := (List.perm_cons_erase (List.mem_of_find?_eq_some hfind)).map (·.name)
    refine ih.trans ?_
    rw [List.append_assoc]
    exact herase.symm.append_left placed

/-- What is left is not ready. -/
theorem not_ready_of_left (placed : List String) (waiting : List PendingTable) :
    ∀ a ∈ (placeReady placed waiting).2, ∃ t ∈ waiting, t.name = a ∧
      t.ready (placeReady placed waiting).1 = false := by
  fun_induction placeReady placed waiting with
  | case1 placed waiting hfind =>
    intro a ha
    obtain ⟨t, ht, rfl⟩ := List.mem_map.1 ha
    exact ⟨t, ht, rfl, by simpa using List.find?_eq_none.1 hfind t ht⟩
  | case2 placed waiting t hfind ih =>
    intro a ha
    obtain ⟨u, hu, hname⟩ := ih a ha
    exact ⟨u, List.mem_of_mem_erase hu, hname⟩

theorem placeReady_supplied {tables : List TableReferences}
    (hnames : (tables.map (·.name)).Nodup) (placed : List String) (waiting : List PendingTable)
    (hwaiting : ∀ p ∈ waiting, ∃ t ∈ tables, p = PendingTable.ofEntry tables t)
    (hplaced : Supplied tables placed) : Supplied tables (placeReady placed waiting).1 := by
  fun_induction placeReady placed waiting with
  | case1 => exact hplaced
  | case2 placed waiting p hfind ih =>
    obtain ⟨t, ht, rfl⟩ := hwaiting p (List.mem_of_find?_eq_some hfind)
    refine ih (fun q hq => hwaiting q (List.mem_of_mem_erase hq)) (hplaced.snoc ?_)
    exact (ready_iff_refers hnames ht placed).1 (List.find?_some hfind)

/-! ## Circles -/

/-- Among finitely many things some one leads to none of them, unless one leads to itself. -/
theorem exists_end {α : Type} {r : α → α → Prop} (hacyclic : ∀ a, ¬TransGen r a a) {l : List α}
    (hne : l ≠ []) : ∃ a ∈ l, ∀ b ∈ l, ¬TransGen r a b := by
  induction l with
  | nil => exact absurd rfl hne
  | cons x l ih =>
    by_cases hl : l = []
    · subst hl
      refine ⟨x, List.mem_cons_self, fun b hb => ?_⟩
      rw [List.mem_singleton.1 hb]
      exact hacyclic x
    · obtain ⟨a, ha, hlast⟩ := ih hl
      by_cases hax : TransGen r a x
      · refine ⟨x, List.mem_cons_self, fun b hb hxb => ?_⟩
        rcases List.mem_cons.1 hb with rfl | hb
        · exact hacyclic _ hxb
        · exact hlast b hb (hax.trans hxb)
      · refine ⟨a, List.mem_cons_of_mem x ha, fun b hb => ?_⟩
        rcases List.mem_cons.1 hb with rfl | hb
        · exact hax
        · exact hlast b hb

/-! ## The order -/

/-- The tables by name, as they wait at first. -/
def awaiting (tables : List TableReferences) : List PendingTable :=
  ((latest tables).mergeSort fun a b => decide (a.name ≤ b.name)).map (PendingTable.ofEntry tables)

theorem dependencyOrder_eq (tables : List TableReferences) :
    dependencyOrder tables = ((placeReady [] (awaiting tables)).1 ++
      (placeReady [] (awaiting tables)).2, (placeReady [] (awaiting tables)).2) := rfl

theorem pairwise_mergeSort_name (l : List TableReferences) :
    (l.mergeSort fun a b => decide (a.name ≤ b.name)).Pairwise fun a b => a.name ≤ b.name :=
  pairwise_sorted (fun a b => a.name ≤ b.name) String.le_trans
    (fun a b => String.le_total a.name b.name) l

section
variable {tables : List TableReferences} (hnames : (tables.map (·.name)).Nodup)
include hnames

theorem mem_awaiting {p : PendingTable} (hp : p ∈ awaiting tables) :
    ∃ t ∈ tables, p = PendingTable.ofEntry tables t := by
  rw [awaiting, latest_eq_self hnames] at hp
  obtain ⟨t, ht, rfl⟩ := List.mem_map.1 hp
  exact ⟨t, (List.mergeSort_perm _ _).mem_iff.1 ht, rfl⟩

/-- All tables have their place in the order, each once. -/
theorem dependencyOrder_perm : (dependencyOrder tables).1.Perm (tables.map (·.name)) := by
  rw [dependencyOrder_eq]
  refine (placeReady_perm [] (awaiting tables)).trans ?_
  rw [List.nil_append, awaiting, latest_eq_self hnames, List.map_map]
  exact (List.mergeSort_perm _ _).map _

/-- A table that is left refers to one that is left too. -/
theorem refers_left {a : String} (ha : a ∈ (dependencyOrder tables).2) :
    ∃ b ∈ (dependencyOrder tables).2, Refers tables a b := by
  obtain ⟨p, hp, rfl, hready⟩ := not_ready_of_left [] (awaiting tables) a ha
  obtain ⟨t, ht, rfl⟩ := mem_awaiting hnames hp
  have hblocked : ¬∀ b, Refers tables t.name b → b ∈ (placeReady [] (awaiting tables)).1 := by
    rw [← ready_iff_refers hnames ht, hready]
    exact Bool.false_ne_true
  simp only [Classical.not_forall] at hblocked
  obtain ⟨b, hrefers, hplaced⟩ := hblocked
  have hlisted : b ∈ (dependencyOrder tables).1 := by
    obtain ⟨-, -, -, -, -, hb⟩ := hrefers
    exact (dependencyOrder_perm hnames).mem_iff.2 hb
  rw [dependencyOrder_eq] at hlisted
  exact ⟨b, (List.mem_append.1 hlisted).resolve_left hplaced, hrefers⟩

/-- Where no table is led back to, none is left. -/
theorem cyclic_eq_nil (hacyclic : Acyclic tables) : (dependencyOrder tables).2 = [] := by
  apply Decidable.byContradiction
  intro hne
  obtain ⟨a, ha, hend⟩ := exists_end hacyclic hne
  obtain ⟨b, hb, hrefers⟩ := refers_left hnames ha
  exact hend b hb (.single hrefers)

/-- Where none is left, each follows what it refers to. -/
theorem supplied_of_cyclic_eq_nil (hcyclic : (dependencyOrder tables).2 = []) :
    Supplied tables (dependencyOrder tables).1 := by
  rw [dependencyOrder_eq] at hcyclic ⊢
  simp only at hcyclic
  simp only [hcyclic, List.append_nil]
  exact placeReady_supplied hnames [] _ (fun p hp => mem_awaiting hnames hp) (supplied_nil tables)

/-- Where no table is led back to, each follows what it refers to. -/
theorem dependencyOrder_supplied (hacyclic : Acyclic tables) :
    Supplied tables (dependencyOrder tables).1 :=
  supplied_of_cyclic_eq_nil hnames (cyclic_eq_nil hnames hacyclic)

end

end SchemaMigration.Catalog
