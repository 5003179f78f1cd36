import Mathlib.Data.Multiset.Defs
import SchemaMigration.Proofs.ReferenceOrder

/-
  The order of tables is the first one by name.

  A table is ready when it is not placed and all that it refers to is. The ready table that
  comes first by name is placed next, until none is ready. These steps leave no choice, so
  there is one way to place tables, however they and their references are listed.

  An order that puts each table behind what it refers to places a ready table at every
  point. Where it first differs from the steps, it places one that comes later by name.

  Main statements: `Places.unique`; `Places.le`; `dependencyOrder_relisted`;
  `dependencyOrder_le`; `cyclic_eq_nil_iff`, none is left exactly if there is no circle.
-/
namespace SchemaMigration.Catalog

open Relation

/-! ## Placing one table after the other -/

/-- The table can be placed next: it is not placed, and all that it refers to is. -/
structure Ready (tables : List TableReferences) (placed : List String) (a : String) : Prop where
  listed : a ∈ tables.map (·.name)
  fresh : a ∉ placed
  supplied : ∀ b, Refers tables a b → b ∈ placed

/-- Behind what is placed the ready table that comes first by name is placed, and so on until
none is ready. -/
inductive Places (tables : List TableReferences) : List String → List String → Prop
  | done {placed : List String} : (∀ a, ¬Ready tables placed a) → Places tables placed []
  | next {placed rest : List String} {a : String} : Ready tables placed a →
      (∀ b, Ready tables placed b → a ≤ b) → Places tables (placed ++ [a]) rest →
      Places tables placed (a :: rest)

namespace Places

variable {tables others : List TableReferences} {placed rest : List String}

/-- There is one way to go on. -/
theorem unique (h : Places tables placed rest) {rest' : List String}
    (h' : Places tables placed rest') : rest = rest' := by
  induction h generalizing rest' with
  | done hnone =>
    cases h' with
    | done _ => rfl
    | next hready _ _ => exact absurd hready (hnone _)
  | next hready hleast _ ih =>
    cases h' with
    | done hnone => exact absurd hready (hnone _)
    | next hready' hleast' hrest' =>
      obtain rfl := String.le_antisymm (hleast _ hready') (hleast' _ hready)
      rw [ih hrest']

/-- Only what tables refer to counts, not how they are listed. -/
theorem congr (h : Places tables placed rest)
    (hready : ∀ placed a, Ready tables placed a ↔ Ready others placed a) :
    Places others placed rest := by
  induction h with
  | done hnone => exact .done fun a ha => hnone a ((hready _ a).2 ha)
  | next ha hleast _ ih =>
    exact .next ((hready _ _).1 ha) (fun b hb => hleast b ((hready _ b).2 hb)) ih

/-- In the end no table is ready. -/
theorem not_ready (h : Places tables placed rest) (a : String) :
    ¬Ready tables (placed ++ rest) a := by
  induction h with
  | done hnone => exact (List.append_nil _).symm ▸ hnone a
  | next _ _ _ ih => rwa [List.append_cons]

theorem listed (h : Places tables placed rest) : ∀ a ∈ rest, a ∈ tables.map (·.name) := by
  induction h with
  | done _ => exact fun a ha => absurd ha List.not_mem_nil
  | next hready _ _ ih => exact List.forall_mem_cons.2 ⟨hready.listed, ih⟩

theorem nodup (h : Places tables placed rest) (hplaced : placed.Nodup) :
    (placed ++ rest).Nodup := by
  induction h with
  | done _ => rwa [List.append_nil]
  | next hready _ _ ih =>
    rw [List.append_cons]
    exact ih (List.nodup_append.2 ⟨hplaced, List.nodup_singleton _, fun a ha b hb heq =>
      hready.fresh (List.mem_singleton.1 hb ▸ heq ▸ ha)⟩)

/-- An order that puts each table behind what it refers to is not smaller. -/
theorem le (h : Places tables placed rest) {order : List String}
    (hnodup : (placed ++ order).Nodup) (hlisted : ∀ a ∈ order, a ∈ tables.map (·.name))
    (hsupplied : Supplied tables (placed ++ order)) (hlength : rest.length = order.length) :
    rest = order ∨ rest < order := by
  induction h generalizing order with
  | done _ => exact .inl (List.length_eq_zero_iff.1 hlength.symm).symm
  | @next placed rest a hready hleast _ ih =>
    cases order with
    | nil => cases hlength
    | cons b order =>
      have hb : Ready tables placed b :=
        ⟨hlisted b List.mem_cons_self,
          fun hplaced => (List.nodup_append.1 hnodup).2.2 b hplaced b List.mem_cons_self rfl,
          hsupplied placed b order rfl⟩
      by_cases hab : a = b
      · subst hab
        rw [List.append_cons] at hnodup hsupplied
        rcases ih hnodup (fun c hc => hlisted c (List.mem_cons_of_mem a hc)) hsupplied
          (Nat.succ.inj hlength) with heq | hlt
        · exact .inl (congrArg (a :: ·) heq)
        · exact .inr (List.Lex.cons hlt)
      · have hlt : a < b :=
          String.not_le.1 fun hle => hab (String.le_antisymm (hleast b hb) hle)
        exact .inr (List.Lex.rel hlt)

end Places

/-! ## The order places one table after the other -/

/-- What is left stands by name. -/
theorem pairwise_left (placed : List String) (waiting : List PendingTable)
    (hsorted : waiting.Pairwise fun p q => p.name ≤ q.name) :
    (placeReady placed waiting).2.Pairwise (· ≤ ·) := by
  fun_induction placeReady placed waiting with
  | case1 => exact List.pairwise_map.2 hsorted
  | case2 placed waiting p hfind ih => exact ih (hsorted.sublist List.erase_sublist)

section
variable {tables : List TableReferences} (hnames : (tables.map (·.name)).Nodup)
include hnames

section
variable {placed : List String} {waiting : List PendingTable}
  (hwaiting : ∀ p ∈ waiting, ∃ t ∈ tables, p = PendingTable.ofEntry tables t)
  (hperm : (placed ++ waiting.map (·.name)).Perm (tables.map (·.name)))
include hwaiting hperm

theorem ready_iff_of_waiting {p : PendingTable} (hp : p ∈ waiting) :
    p.ready placed = true ↔ Ready tables placed p.name := by
  obtain ⟨t, ht, rfl⟩ := hwaiting p hp
  rw [ready_iff_refers hnames ht]
  refine ⟨fun h => ⟨List.mem_map_of_mem ht, fun hplaced => ?_, h⟩, fun h => h.supplied⟩
  exact (List.nodup_append.1 (hperm.nodup_iff.2 hnames)).2.2 _ hplaced _ (List.mem_map_of_mem hp) rfl

/-- What is ready waits. -/
theorem exists_waiting_of_ready {a : String} (ha : Ready tables placed a) :
    ∃ p ∈ waiting, p.name = a ∧ p.ready placed = true := by
  obtain ⟨p, hp, rfl⟩ := List.mem_map.1
    ((List.mem_append.1 (hperm.mem_iff.2 ha.listed)).resolve_left ha.fresh)
  exact ⟨p, hp, rfl, (ready_iff_of_waiting hnames hwaiting hperm hp).2 ha⟩

end

theorem places_placeReady (placed : List String) (waiting : List PendingTable)
    (hwaiting : ∀ p ∈ waiting, ∃ t ∈ tables, p = PendingTable.ofEntry tables t)
    (hsorted : waiting.Pairwise fun p q => p.name ≤ q.name)
    (hperm : (placed ++ waiting.map (·.name)).Perm (tables.map (·.name))) :
    ∃ rest, (placeReady placed waiting).1 = placed ++ rest ∧ Places tables placed rest := by
  fun_induction placeReady placed waiting with
  | case1 placed waiting hfind =>
    refine ⟨[], (List.append_nil _).symm, .done fun a ha => ?_⟩
    obtain ⟨p, hp, -, hready⟩ := exists_waiting_of_ready hnames hwaiting hperm ha
    exact List.find?_eq_none.1 hfind p hp hready
  | case2 placed waiting p hfind ih =>
    have hp := List.mem_of_find?_eq_some hfind
    have herase := ((List.perm_cons_erase hp).map (·.name)).append_left placed
    rw [List.map_cons, List.append_cons] at herase
    obtain ⟨rest, hplaced, hrest⟩ := ih (fun q hq => hwaiting q (List.mem_of_mem_erase hq))
      (hsorted.sublist List.erase_sublist) (herase.symm.trans hperm)
    refine ⟨p.name :: rest, by rw [hplaced, List.append_assoc]; rfl, .next ?_ (fun a ha => ?_) hrest⟩
    · exact (ready_iff_of_waiting hnames hwaiting hperm hp).1 (List.find?_some hfind)
    · -- no table in front of the one that is found is ready
      obtain ⟨q, hq, rfl, hready⟩ := exists_waiting_of_ready hnames hwaiting hperm ha
      obtain ⟨-, before, behind, rfl, hbefore⟩ := List.find?_eq_some_iff_append.1 hfind
      rcases List.mem_append.1 hq with hq | hq
      · exact absurd hready (by simpa using hbefore q hq)
      · rcases List.mem_cons.1 hq with rfl | hq
        · exact String.le_refl _
        · exact (List.pairwise_cons.1 (List.pairwise_append.1 hsorted).2.1).1 q hq

end

/-! ## What is left -/

/-- The steps are taken as far as they go. What is left follows by name. -/
structure Arranged (tables : List TableReferences) (placed left : List String) : Prop where
  places : Places tables [] placed
  perm : (placed ++ left).Perm (tables.map (·.name))
  sorted : left.Pairwise (· ≤ ·)

theorem Arranged.unique {tables : List TableReferences} {placed left placed' left' : List String}
    (h : Arranged tables placed left) (h' : Arranged tables placed' left') :
    placed = placed' ∧ left = left' := by
  obtain rfl := h.places.unique h'.places
  have hperm : left.Perm left' := (List.perm_append_left_iff placed).1 (h.perm.trans h'.perm.symm)
  exact ⟨rfl, hperm.eq_of_pairwise (fun a b _ _ => String.le_antisymm) h.sorted h'.sorted⟩

section
variable {tables : List TableReferences} (hnames : (tables.map (·.name)).Nodup)
include hnames

theorem arranged_placeReady :
    Arranged tables (placeReady [] (awaiting tables)).1 (placeReady [] (awaiting tables)).2 := by
  have hsorted : (awaiting tables).Pairwise fun p q => p.name ≤ q.name := by
    rw [awaiting, List.pairwise_map]
    exact pairwise_mergeSort_name (latest tables)
  have hperm : ((awaiting tables).map (·.name)).Perm (tables.map (·.name)) := by
    rw [awaiting, latest_eq_self hnames, List.map_map]
    exact (List.mergeSort_perm _ _).map _
  obtain ⟨rest, hplaced, hrest⟩ :=
    places_placeReady hnames [] (awaiting tables) (fun p hp => mem_awaiting hnames hp) hsorted hperm
  rw [List.nil_append] at hplaced
  exact ⟨hplaced ▸ hrest, (placeReady_perm [] (awaiting tables)).trans hperm,
    pairwise_left [] (awaiting tables) hsorted⟩

/-- However the tables are placed, the order is this one. -/
theorem dependencyOrder_eq_of_arranged {placed left : List String}
    (h : Arranged tables placed left) : dependencyOrder tables = (placed ++ left, left) := by
  obtain ⟨rfl, rfl⟩ := h.unique (arranged_placeReady hnames)
  exact dependencyOrder_eq tables

end

/-! ## Listing -/

/-- A table's name and what it refers to, in no order. -/
def TableReferences.contents (t : TableReferences) : String × Multiset String :=
  (t.name, t.references)

/-- The tables in another order, each with its references in another order. -/
def Relisted (tables others : List TableReferences) : Prop :=
  (tables.map (·.contents)).Perm (others.map (·.contents))

theorem map_name_contents (tables : List TableReferences) :
    (tables.map (·.contents)).map Prod.fst = tables.map (·.name) := by
  rw [List.map_map]
  rfl

theorem refers_iff_contents {tables : List TableReferences} {a b : String} :
    Refers tables a b ↔ (∃ c ∈ tables.map (·.contents), c.1 = a ∧ b ∈ c.2) ∧ b ≠ a ∧
      b ∈ (tables.map (·.contents)).map Prod.fst := by
  rw [map_name_contents, Refers]
  constructor
  · rintro ⟨t, ht, hname, hb, hne, hlisted⟩
    exact ⟨⟨t.contents, List.mem_map_of_mem ht, hname, Multiset.mem_coe.2 hb⟩, hne, hlisted⟩
  · rintro ⟨⟨c, hc, hname, hb⟩, hne, hlisted⟩
    obtain ⟨t, ht, rfl⟩ := List.mem_map.1 hc
    exact ⟨t, ht, hname, Multiset.mem_coe.1 hb, hne, hlisted⟩

namespace Relisted

variable {tables others : List TableReferences} (h : Relisted tables others)
include h

theorem names : (tables.map (·.name)).Perm (others.map (·.name)) := by
  rw [← map_name_contents tables, ← map_name_contents others]
  exact h.map Prod.fst

theorem refers_iff (a b : String) : Refers tables a b ↔ Refers others a b := by
  simp only [refers_iff_contents, h.mem_iff, (h.map Prod.fst).mem_iff]

theorem ready_iff (placed : List String) (a : String) :
    Ready tables placed a ↔ Ready others placed a := by
  constructor
  · exact fun ha => ⟨h.names.mem_iff.1 ha.listed, ha.fresh,
      fun b hb => ha.supplied b ((h.refers_iff a b).2 hb)⟩
  · exact fun ha => ⟨h.names.mem_iff.2 ha.listed, ha.fresh,
      fun b hb => ha.supplied b ((h.refers_iff a b).1 hb)⟩

theorem arranged {placed left : List String} (harranged : Arranged tables placed left) :
    Arranged others placed left :=
  ⟨harranged.places.congr h.ready_iff, harranged.perm.trans h.names, harranged.sorted⟩

end Relisted

theorem relisted_of_perm {tables others : List TableReferences} (h : tables.Perm others) :
    Relisted tables others :=
  h.map _

section
variable {tables : List TableReferences} (hnames : (tables.map (·.name)).Nodup)
include hnames

/-- The order does not depend on how the tables and their references are listed. -/
theorem dependencyOrder_relisted {others : List TableReferences} (h : Relisted tables others) :
    dependencyOrder others = dependencyOrder tables := by
  rw [dependencyOrder_eq_of_arranged (h.names.nodup_iff.1 hnames)
    (h.arranged (arranged_placeReady hnames))]
  exact (dependencyOrder_eq tables).symm

/-! ## The first order -/

/-- Among the orders that put each table behind what it refers to, it comes first. -/
theorem dependencyOrder_le (hacyclic : Acyclic tables) {order : List String}
    (hperm : order.Perm (tables.map (·.name))) (hsupplied : Supplied tables order) :
    (dependencyOrder tables).1 = order ∨ (dependencyOrder tables).1 < order := by
  have hplaced : Places tables [] (dependencyOrder tables).1 := by
    have hcyclic := cyclic_eq_nil hnames hacyclic
    rw [dependencyOrder_eq] at hcyclic ⊢
    simp only at hcyclic
    simp only [hcyclic, List.append_nil]
    exact (arranged_placeReady hnames).places
  exact hplaced.le (hperm.nodup_iff.2 hnames) (fun a ha => hperm.mem_iff.1 ha) hsupplied
    ((dependencyOrder_perm hnames).trans hperm.symm).length_eq

end

/-- In an order all that a table leads to stands in front of it. -/
theorem mem_before_of_supplied {tables : List TableReferences} {order : List String}
    (hsupplied : Supplied tables order) {a b : String} (hab : TransGen (Refers tables) a b)
    {before behind : List String} (hcut : order = before ++ a :: behind) : b ∈ before := by
  induction hab with
  | single hrefers => exact hsupplied before a behind hcut _ hrefers
  | @tail b c _ hrefers ih =>
    obtain ⟨first, second, rfl⟩ := List.append_of_mem ih
    rw [List.append_assoc, List.cons_append] at hcut
    exact List.mem_append_left _ (hsupplied first b _ hcut c hrefers)

theorem acyclic_of_supplied {tables : List TableReferences} {order : List String}
    (hnodup : order.Nodup) (hlisted : ∀ a ∈ tables.map (·.name), a ∈ order)
    (hsupplied : Supplied tables order) : Acyclic tables := by
  intro a hcircle
  obtain ⟨b, ⟨t, ht, hname, -⟩, -⟩ := TransGen.head'_iff.1 hcircle
  obtain ⟨before, behind, rfl⟩ := List.append_of_mem
    (hlisted a (hname ▸ List.mem_map_of_mem ht))
  exact (List.nodup_append.1 hnodup).2.2 a (mem_before_of_supplied hsupplied hcircle rfl) a
    List.mem_cons_self rfl

/-- A table is left exactly if some table is led back to. -/
theorem cyclic_eq_nil_iff {tables : List TableReferences}
    (hnames : (tables.map (·.name)).Nodup) :
    (dependencyOrder tables).2 = [] ↔ Acyclic tables := by
  have hperm := dependencyOrder_perm hnames
  refine ⟨fun h => ?_, cyclic_eq_nil hnames⟩
  exact acyclic_of_supplied (hperm.nodup_iff.2 hnames) (fun a ha => hperm.mem_iff.2 ha)
    (supplied_of_cyclic_eq_nil hnames h)

end SchemaMigration.Catalog
