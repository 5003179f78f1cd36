import SchemaMigration.Proofs.CanonicalOrder

/-
  What circles of references do to the order.

  A table that is left refers to one that is left, and there are finitely many of them, so
  it leads to a circle. A table with a place has all that it leads to in front of it, so it
  leads to none. The tables that are left are therefore those on a circle together with
  those that only lead to one, and all of them follow by name.

  So a table may stand in front of one that it refers to even if it is on no circle itself:
  it is enough that the other leads to a circle and comes later by name.

  Main statements: `mem_left_iff`; `precedes_iff_of_refers`, which references are kept;
  `early_behind_circle`, a table that is on no circle and comes too early.
-/
namespace SchemaMigration.Catalog

open Relation

/-- The table is led back to itself. -/
def OnCircle (tables : List TableReferences) (a : String) : Prop :=
  TransGen (Refers tables) a a

/-- The table is on a circle or is led to one. -/
def LeadsToCircle (tables : List TableReferences) (a : String) : Prop :=
  ∃ c, ReflTransGen (Refers tables) a c ∧ OnCircle tables c

/-- In an order `b` stands in front of `a`. -/
def Precedes (order : List String) (b a : String) : Prop := [b, a].Sublist order

instance (order : List String) (b a : String) : Decidable (Precedes order b a) :=
  inferInstanceAs (Decidable ([b, a].Sublist order))

/-! ## Standing in front -/

namespace Precedes

variable {order rest : List String} {a b : String}

theorem append_right (h : Precedes order b a) : Precedes (order ++ rest) b a :=
  h.trans (List.sublist_append_left order rest)

theorem append_left (h : Precedes rest b a) : Precedes (order ++ rest) b a :=
  h.trans (List.sublist_append_right order rest)

theorem of_mem_append (hb : b ∈ order) (ha : a ∈ rest) : Precedes (order ++ rest) b a :=
  (List.singleton_sublist.2 hb).append (List.singleton_sublist.2 ha)

/-- Of two names that occur once only one stands in front of the other. -/
theorem asymm (hnodup : order.Nodup) (h : Precedes order b a) : ¬Precedes order a b := by
  induction order with
  | nil => exact absurd (h.subset List.mem_cons_self) List.not_mem_nil
  | cons c order ih =>
    obtain ⟨hfresh, hnodup⟩ := List.nodup_cons.1 hnodup
    intro h'
    cases h with
    | cons _ h =>
      cases h' with
      | cons _ h' => exact ih hnodup h h'
      | cons_cons _ _ => exact hfresh (h.subset (by simp))
    | cons_cons _ h =>
      cases h' with
      | cons _ h' => exact hfresh (h'.subset (by simp))
      | cons_cons _ _ => exact hfresh (h.subset List.mem_cons_self)

/-- By name the smaller one stands in front. -/
theorem of_lt (hsorted : order.Pairwise (· ≤ ·)) (ha : a ∈ order) (hb : b ∈ order)
    (hlt : b < a) : Precedes order b a := by
  obtain ⟨before, behind, rfl⟩ := List.append_of_mem ha
  have hlast : ∀ c ∈ a :: behind, a ≤ c :=
    List.forall_mem_cons.2 ⟨String.le_refl a,
      (List.pairwise_cons.1 (List.pairwise_append.1 hsorted).2.1).1⟩
  refine of_mem_append ((List.mem_append.1 hb).resolve_right fun hb => ?_) List.mem_cons_self
  exact String.not_lt.2 (hlast b hb) hlt

end Precedes

/-! ## Circles -/

/-- Where each of finitely many things leads on to one of them, each leads to a circle. -/
theorem exists_circle {α : Type} {r : α → α → Prop} {l : List α}
    (hnext : ∀ x ∈ l, ∃ y ∈ l, r x y) {a : α} (ha : a ∈ l) :
    ∃ c, ReflTransGen r a c ∧ TransGen r c c := by
  classical
  by_contra hnone
  -- From `a` on there is no circle, so some thing that `a` leads to leads to no other.
  let s : α → α → Prop := fun x y => ReflTransGen r a x ∧ r x y
  have hacyclic : ∀ x, ¬TransGen s x x := by
    intro x hcircle
    obtain ⟨y, ⟨hax, -⟩, -⟩ := TransGen.head'_iff.1 hcircle
    exact hnone ⟨x, hax, TransGen.mono (fun u v huv => huv.2) x x hcircle⟩
  have hreached : a ∈ l.filter fun x => decide (ReflTransGen r a x) :=
    List.mem_filter.2 ⟨ha, decide_eq_true .refl⟩
  obtain ⟨e, he, hend⟩ := exists_end hacyclic (List.ne_nil_of_mem hreached)
  obtain ⟨hel, hae⟩ := List.mem_filter.1 he
  have hae : ReflTransGen r a e := of_decide_eq_true hae
  obtain ⟨y, hy, hey⟩ := hnext e hel
  exact hend y (List.mem_filter.2 ⟨hy, decide_eq_true (hae.tail hey)⟩) (.single ⟨hae, hey⟩)

theorem LeadsToCircle.of_refers {tables : List TableReferences} {a b : String}
    (hrefers : Refers tables a b) (h : LeadsToCircle tables b) : LeadsToCircle tables a := by
  obtain ⟨c, hbc, hc⟩ := h
  exact ⟨c, .head hrefers hbc, hc⟩

theorem LeadsToCircle.listed {tables : List TableReferences} {a : String}
    (h : LeadsToCircle tables a) : a ∈ tables.map (·.name) := by
  obtain ⟨c, hac, hc⟩ := h
  have hstart : ∃ b, Refers tables a b := by
    rcases ReflTransGen.cases_head hac with rfl | ⟨b, hab, -⟩
    · obtain ⟨b, hab, -⟩ := TransGen.head'_iff.1 hc
      exact ⟨b, hab⟩
    · exact ⟨b, hab⟩
  obtain ⟨b, t, ht, rfl, -⟩ := hstart
  exact List.mem_map_of_mem ht

/-- A table with a place behind all that it refers to leads to no circle. -/
theorem not_leadsToCircle_of_supplied {tables : List TableReferences} {order : List String}
    (hnodup : order.Nodup) (hsupplied : Supplied tables order) {a : String} (ha : a ∈ order) :
    ¬LeadsToCircle tables a := by
  intro h
  obtain ⟨c, hac, hcircle⟩ := h
  have hc : c ∈ order := by
    rcases reflTransGen_iff_eq_or_transGen.1 hac with rfl | hac
    · exact ha
    · obtain ⟨before, behind, hcut⟩ := List.append_of_mem ha
      rw [hcut]
      exact List.mem_append_left _ (mem_before_of_supplied hsupplied hac hcut)
  obtain ⟨before, behind, rfl⟩ := List.append_of_mem hc
  exact (List.nodup_append.1 hnodup).2.2 c (mem_before_of_supplied hsupplied hcircle rfl) c
    List.mem_cons_self rfl

/-! ## The tables that are left -/

section
variable {tables : List TableReferences} (hnames : (tables.map (·.name)).Nodup)
include hnames

/-- The order is what is placed, each table behind what it refers to, and what is left. -/
theorem exists_placed : ∃ placed, (dependencyOrder tables).1 = placed ++ (dependencyOrder tables).2 ∧
    Supplied tables placed ∧ (placed ++ (dependencyOrder tables).2).Nodup ∧
      (dependencyOrder tables).2.Pairwise (· ≤ ·) := by
  have harranged := arranged_placeReady hnames
  refine ⟨(placeReady [] (awaiting tables)).1, rfl, ?_, harranged.perm.nodup_iff.2 hnames,
    harranged.sorted⟩
  exact placeReady_supplied hnames [] _ (fun p hp => mem_awaiting hnames hp) (supplied_nil tables)

/-- What is left are the tables on a circle and those that lead to one. -/
theorem mem_left_iff (a : String) : a ∈ (dependencyOrder tables).2 ↔ LeadsToCircle tables a := by
  constructor
  · intro ha
    exact exists_circle (fun x hx => refers_left hnames hx) ha
  · intro ha
    obtain ⟨placed, horder, hsupplied, hnodup, -⟩ := exists_placed hnames
    have hlisted : a ∈ placed ++ (dependencyOrder tables).2 :=
      horder ▸ (dependencyOrder_perm hnames).mem_iff.2 ha.listed
    refine (List.mem_append.1 hlisted).resolve_left fun hplaced => ?_
    exact not_leadsToCircle_of_supplied (List.nodup_append.1 hnodup).1 hsupplied hplaced ha

/-- A table follows one that it refers to exactly if the other leads to no circle or comes
first by name. -/
theorem precedes_iff_of_refers {a b : String} (hrefers : Refers tables a b) :
    Precedes (dependencyOrder tables).1 b a ↔ (LeadsToCircle tables b → b < a) := by
  obtain ⟨placed, horder, hsupplied, hnodup, hsorted⟩ := exists_placed hnames
  have hlisted : ∀ c ∈ tables.map (·.name), c ∈ placed ++ (dependencyOrder tables).2 :=
    fun c hc => horder ▸ (dependencyOrder_perm hnames).mem_iff.2 hc
  obtain ⟨t, ht, hname, -, hne, hb⟩ := id hrefers
  have ha : a ∈ placed ++ (dependencyOrder tables).2 := hlisted a (hname ▸ List.mem_map_of_mem ht)
  rw [horder]
  by_cases hcircle : LeadsToCircle tables b
  · -- both are left, and what is left follows by name
    have hbleft := (mem_left_iff hnames b).2 hcircle
    have haleft := (mem_left_iff hnames a).2 (hcircle.of_refers hrefers)
    constructor
    · intro hprecedes _
      apply String.not_le.1
      intro hle
      have hlt : a < b := String.not_le.1 fun hba => hne (String.le_antisymm hba hle)
      exact hprecedes.asymm hnodup (Precedes.of_lt hsorted hbleft haleft hlt).append_left
    · intro hlt
      exact (Precedes.of_lt hsorted haleft hbleft (hlt hcircle)).append_left
  · have hplaced : b ∈ placed :=
      (List.mem_append.1 (hlisted b hb)).resolve_right fun hleft =>
        hcircle ((mem_left_iff hnames b).1 hleft)
    refine iff_of_true ?_ fun h => absurd h hcircle
    rcases List.mem_append.1 ha with haplaced | haleft
    · obtain ⟨before, behind, hcut⟩ := List.append_of_mem haplaced
      rw [hcut]
      exact (Precedes.of_mem_append (hsupplied before a behind hcut b hrefers)
        List.mem_cons_self).append_right
    · exact .of_mem_append hplaced haleft

/-- For tables of distinct names: each has its place in the order, those without a place of
their own are those that lead to a circle, and a table follows one that it refers to exactly
if the other leads to no circle or comes first by name. -/
theorem references_kept_iff :
    (dependencyOrder tables).1.Perm (tables.map (·.name)) ∧
    (∀ a, a ∈ (dependencyOrder tables).2 ↔ LeadsToCircle tables a) ∧
    ∀ a b, Refers tables a b →
      (Precedes (dependencyOrder tables).1 b a ↔ (LeadsToCircle tables b → b < a)) :=
  ⟨dependencyOrder_perm hnames, mem_left_iff hnames,
    fun _ _ hrefers => precedes_iff_of_refers hnames hrefers⟩

end

/-- Banks and cards refer to each other. Accounts and users only lead to them. -/
def bank : List TableReferences :=
  [⟨"accounts", ["banks"]⟩, ⟨"banks", ["cards"]⟩, ⟨"cards", ["banks"]⟩, ⟨"roles", []⟩,
   ⟨"users", ["cards", "roles"]⟩]

theorem dependencyOrder_bank : dependencyOrder bank =
    (["roles", "accounts", "banks", "cards", "users"], ["accounts", "banks", "cards", "users"]) := by
  have hnames : (bank.map (·.name)).Nodup := by decide
  have hsorted : bank.mergeSort (fun a b => decide (a.name ≤ b.name)) = bank :=
    List.mergeSort_of_pairwise (by decide)
  rw [dependencyOrder, latest_eq_self hnames, hsorted]
  decide +kernel

theorem references_kept_bank :
    (bank.map (·.name)).Nodup ∧ LeadsToCircle bank "accounts" ∧ ¬LeadsToCircle bank "roles" ∧
      Precedes (dependencyOrder bank).1 "cards" "users" := by
  have hnames : (bank.map (·.name)).Nodup := by decide
  obtain ⟨-, hleft, hkept⟩ := references_kept_iff hnames
  have hrefers : Refers bank "users" "cards" := by
    unfold Refers
    decide
  refine ⟨hnames, (hleft "accounts").1 ?_, fun h => ?_, (hkept _ _ hrefers).2 fun _ => by decide⟩
  · rw [dependencyOrder_bank]
    decide
  · have hroles := (hleft "roles").2 h
    rw [dependencyOrder_bank] at hroles
    revert hroles
    decide

/-- Accounts are on no circle, and yet come before the banks that they refer to. -/
theorem early_behind_circle :
    (bank.map (·.name)).Nodup ∧ ¬OnCircle bank "accounts" ∧ Refers bank "accounts" "banks" ∧
      ¬Precedes (dependencyOrder bank).1 "banks" "accounts" := by
  have hnone : ∀ t ∈ bank, "accounts" ∉ t.references := by decide
  refine ⟨by decide, fun hcircle => ?_, ?_, ?_⟩
  · obtain ⟨b, -, t, ht, -, hmem, -⟩ := TransGen.tail'_iff.1 hcircle
    exact hnone t ht hmem
  · unfold Refers
    decide
  · rw [dependencyOrder_bank]
    decide

end SchemaMigration.Catalog
