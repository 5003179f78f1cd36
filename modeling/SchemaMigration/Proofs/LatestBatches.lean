import Mathlib.Data.Finset.Card
import Mathlib.Data.List.Sort
import SchemaMigration.Proofs.Lists
import SchemaMigration.Proofs.LedgerStatements
import SchemaMigration.Proofs.ManagerPlans

/-
  The latest batches of the ledger.

  A batch is among the latest if few enough batches are greater; how many rows a batch
  has and in which order they stand does not matter. The manager sorts the different
  batches and takes the first ones, and in a list that descends strictly an element is
  one of the first exactly if few elements are greater.

  To take the latest batches away leaves the others in their order, so the latest of what
  is left are those that come next.

  Main statements: `ofLatest_eq` and `latestBatches_add`.
-/
namespace SchemaMigration.Migration

open Text Sql Database

/-- Fewer different batches are greater than a number says. -/
def AmongLatest (steps : Nat) (batches : List Int) (batch : Int) : Prop :=
  (batches.toFinset.filter (batch < ·)).card < steps

instance (steps : Nat) (batches : List Int) (batch : Int) :
    Decidable (AmongLatest steps batches batch) :=
  inferInstanceAs (Decidable (_ < _))

/-- The different batches of some rows, the latest first. -/
def batchesOf (entries : List LedgerEntry) : List Int :=
  ((entries.map (·.batch)).eraseDups).mergeSort fun a b => decide (b ≤ a)

theorem latestBatches_eq (steps : Nat) (entries : List LedgerEntry) :
    Manager.latestBatches steps entries = (batchesOf entries).take steps := rfl

theorem mem_batchesOf {entries : List LedgerEntry} {b : Int} :
    b ∈ batchesOf entries ↔ ∃ e ∈ entries, e.batch = b := by
  rw [batchesOf, List.mem_mergeSort, List.mem_eraseDups, List.mem_map]

theorem descending_batchesOf (entries : List LedgerEntry) :
    (batchesOf entries).Pairwise (· > ·) := by
  have hsorted : (batchesOf entries).Pairwise (· ≥ ·) :=
    pairwise_sorted (fun a b => b ≤ a) (fun hab hbc => Int.le_trans hbc hab)
      (fun a b => Int.le_total b a) _
  have hdistinct : (batchesOf entries).Pairwise (· ≠ ·) := by
    rw [← List.nodup_iff_pairwise_ne, batchesOf]
    exact (List.mergeSort_perm _ _).nodup_iff.2 (nodup_eraseDups _)
  exact hsorted.imp₂ (fun a b hle hne => lt_of_le_of_ne hle (Ne.symm hne)) hdistinct

theorem toFinset_batchesOf (entries : List LedgerEntry) :
    (batchesOf entries).toFinset = (entries.map (·.batch)).toFinset := by
  ext b
  rw [List.mem_toFinset, mem_batchesOf, List.mem_toFinset, List.mem_map]

theorem length_batchesOf (entries : List LedgerEntry) :
    (batchesOf entries).length = (entries.map (·.batch)).toFinset.card := by
  rw [← toFinset_batchesOf, List.toFinset_card_of_nodup (descending_batchesOf entries).nodup]

/-! ## The first elements of a descending list -/

theorem mem_take_iff_of_descending {l : List Int} (h : l.Pairwise (· > ·)) {k : Nat} {x : Int}
    (hx : x ∈ l) : x ∈ l.take k ↔ (l.filter (x < ·)).length < k := by
  induction l generalizing k with
  | nil => exact absurd hx List.not_mem_nil
  | cons a l ih =>
    obtain ⟨hfirst, hrest⟩ := List.pairwise_cons.1 h
    cases k with
    | zero => exact ⟨fun h => absurd h List.not_mem_nil, fun h => absurd h (Nat.not_lt_zero _)⟩
    | succ k =>
      rw [List.take_succ_cons, List.mem_cons]
      rcases List.mem_cons.1 hx with rfl | hx
      · -- nothing is greater than the first element
        have hnone : ((x :: l).filter (x < ·)) = [] := by
          refine List.filter_eq_nil_iff.2 fun y hy => ?_
          rw [decide_eq_true_eq, not_lt]
          rcases List.mem_cons.1 hy with rfl | hy
          · exact le_refl _
          · exact le_of_lt (hfirst y hy)
        rw [hnone]
        exact ⟨fun _ => Nat.succ_pos k, fun _ => .inl rfl⟩
      · have hlt := hfirst x hx
        rw [List.filter_cons, if_pos (decide_eq_true hlt), List.length_cons, Nat.succ_lt_succ_iff,
          ← ih hrest hx]
        exact or_iff_right (ne_of_lt hlt)

theorem mem_latestBatches {steps : Nat} {entries : List LedgerEntry} {e : LedgerEntry}
    (he : e ∈ entries) : e.batch ∈ Manager.latestBatches steps entries ↔
      AmongLatest steps (entries.map (·.batch)) e.batch := by
  have hcount : ((batchesOf entries).filter (e.batch < ·)).length =
      ((entries.map (·.batch)).toFinset.filter (e.batch < ·)).card := by
    rw [← toFinset_batchesOf, List.filter_toFinset,
      List.toFinset_card_of_nodup ((descending_batchesOf entries).nodup.filter _)]
  rw [latestBatches_eq, mem_take_iff_of_descending (descending_batchesOf entries)
    (mem_batchesOf.2 ⟨e, he, rfl⟩), hcount, AmongLatest]

/-- The manager selects the rows whose batch is among the latest. -/
theorem ofLatest_eq (steps : Nat) (entries : List LedgerEntry) :
    ofLatest steps entries =
      entries.filter fun e => AmongLatest steps (entries.map (·.batch)) e.batch := by
  refine List.filter_congr fun e he => ?_
  rw [Bool.eq_iff_iff, List.contains_iff_mem, decide_eq_true_eq, mem_latestBatches he]

/-- With as many steps as there are batches, all rows are selected. -/
theorem ofLatest_eq_self {steps : Nat} {entries : List LedgerEntry}
    (h : (entries.map (·.batch)).toFinset.card ≤ steps) : ofLatest steps entries = entries := by
  rw [← length_batchesOf] at h
  refine List.filter_eq_self.2 fun e he => ?_
  rw [latestBatches_eq, List.take_of_length_le h]
  exact List.contains_iff_mem.2 (mem_batchesOf.2 ⟨e, he, rfl⟩)

/-! ## The latest batch -/

theorem latestBatches_one {entries : List LedgerEntry} {b : Int}
    (hthere : ∃ e ∈ entries, e.batch = b) (hgreatest : ∀ e ∈ entries, e.batch ≤ b) :
    Manager.latestBatches 1 entries = [b] := by
  have hb := mem_batchesOf.2 hthere
  have hsorted := descending_batchesOf entries
  rw [latestBatches_eq]
  -- The head of the batches is at least `b`, and no batch is greater.
  cases hbatches : batchesOf entries with
  | nil =>
    rw [hbatches] at hb
    exact absurd hb List.not_mem_nil
  | cons x rest =>
    obtain ⟨e, he, hx⟩ := mem_batchesOf.1 (hbatches ▸ List.mem_cons_self : x ∈ batchesOf entries)
    rw [hbatches] at hb hsorted
    have hle : b ≤ x := by
      rcases List.mem_cons.1 hb with rfl | hb
      · exact le_refl _
      · exact le_of_lt ((List.pairwise_cons.1 hsorted).1 b hb)
    rw [le_antisymm (hx ▸ hgreatest e he) hle]
    rfl

/-- Rows of a new batch are the latest, whatever batches there were. -/
theorem ofLatest_one_append {old new : List LedgerEntry} (hnew : new ≠ [])
    (hbatch : ∀ e ∈ new, e.batch = lastBatch old + 1) : ofLatest 1 (old ++ new) = new := by
  have hold : ∀ e ∈ old, e.batch < lastBatch old + 1 := fun e he =>
    Int.lt_add_one_of_le (le_lastBatch he)
  have hlatest : Manager.latestBatches 1 (old ++ new) = [lastBatch old + 1] := by
    obtain ⟨e, he⟩ := List.exists_mem_of_ne_nil new hnew
    refine latestBatches_one ⟨e, List.mem_append_right old he, hbatch e he⟩ fun e he => ?_
    rcases List.mem_append.1 he with he | he
    · exact Int.le_of_lt (hold e he)
    · exact Int.le_of_eq (hbatch e he)
  have hnone : (old.filter fun e => [lastBatch old + 1].contains e.batch) = [] := by
    apply List.filter_eq_nil_iff.2
    intro e he hlast
    have := hold e he
    have := List.mem_singleton.1 (List.contains_iff_mem.1 hlast)
    omega
  have hall : (new.filter fun e => [lastBatch old + 1].contains e.batch) = new := by
    apply List.filter_eq_self.2
    intro e he
    rw [hbatch e he]
    exact List.contains_iff_mem.2 (List.mem_singleton_self _)
  rw [ofLatest, hlatest, List.filter_append, hnone, hall, List.nil_append]

/-! ## The latest batches and the next -/

/-- The rows that are left without the latest batches. -/
def notLatest (steps : Nat) (entries : List LedgerEntry) : List LedgerEntry :=
  entries.filter fun e => !(Manager.latestBatches steps entries).contains e.batch

theorem batchesOf_notLatest (steps : Nat) (entries : List LedgerEntry) :
    batchesOf (notLatest steps entries) = (batchesOf entries).drop steps := by
  have hnodup := (descending_batchesOf entries).nodup
  rw [← List.take_append_drop steps (batchesOf entries)] at hnodup
  refine List.Pairwise.eq_of_mem_iff (descending_batchesOf _)
    ((descending_batchesOf entries).sublist (List.drop_sublist _ _)) fun b => ?_
  rw [mem_batchesOf]
  constructor
  · rintro ⟨e, he, rfl⟩
    obtain ⟨he, hleft⟩ := List.mem_filter.1 he
    have hall : e.batch ∈ (batchesOf entries).take steps ++ (batchesOf entries).drop steps := by
      rw [List.take_append_drop]
      exact mem_batchesOf.2 ⟨e, he, rfl⟩
    rw [Bool.not_eq_true', Bool.eq_false_iff, Ne, List.contains_iff_mem, latestBatches_eq] at hleft
    exact (List.mem_append.1 hall).resolve_left hleft
  · intro hb
    obtain ⟨e, he, rfl⟩ := mem_batchesOf.1 (List.mem_of_mem_drop hb)
    refine ⟨e, List.mem_filter.2 ⟨he, ?_⟩, rfl⟩
    rw [Bool.not_eq_true', Bool.eq_false_iff, Ne, List.contains_iff_mem, latestBatches_eq]
    exact fun htake => List.disjoint_of_nodup_append hnodup htake hb

/-- The latest batches are the first of them and then the latest of what is left. -/
theorem latestBatches_add (a b : Nat) (entries : List LedgerEntry) :
    Manager.latestBatches (a + b) entries =
      Manager.latestBatches a entries ++ Manager.latestBatches b (notLatest a entries) := by
  rw [latestBatches_eq, latestBatches_eq, latestBatches_eq, batchesOf_notLatest, List.take_add]

theorem notLatest_eq (steps : Nat) (entries : List LedgerEntry) :
    notLatest steps entries =
      entries.filter fun e => ¬AmongLatest steps (entries.map (·.batch)) e.batch := by
  refine List.filter_congr fun e he => ?_
  rw [Bool.eq_iff_iff, Bool.not_eq_true', Bool.eq_false_iff, Ne, List.contains_iff_mem,
    mem_latestBatches he, decide_eq_true_eq]

theorem AmongLatest.mono {a b : Nat} {batches : List Int} {x y : Int}
    (h : AmongLatest a batches x) (hab : a ≤ b) (hxy : x ≤ y) : AmongLatest b batches y := by
  refine Nat.lt_of_le_of_lt (Finset.card_le_card fun z hz => ?_) (Nat.lt_of_lt_of_le h hab)
  obtain ⟨hz, hlt⟩ := Finset.mem_filter.1 hz
  exact Finset.mem_filter.2 ⟨hz, lt_of_le_of_lt hxy hlt⟩

/-- A batch that is not among the first of the latest can be among the next. -/
theorem amongLatest_add {a b : Nat} {entries : List LedgerEntry} {e : LedgerEntry}
    (he : e ∈ entries) (hnot : ¬AmongLatest a (entries.map (·.batch)) e.batch) :
    AmongLatest (a + b) (entries.map (·.batch)) e.batch ↔
      AmongLatest b ((notLatest a entries).map (·.batch)) e.batch := by
  have hleft : e ∈ notLatest a entries := by
    rw [notLatest_eq]
    exact List.mem_filter.2 ⟨he, decide_eq_true hnot⟩
  rw [← mem_latestBatches he, latestBatches_add, List.mem_append, mem_latestBatches he,
    or_iff_right hnot, mem_latestBatches hleft]

end SchemaMigration.Migration
