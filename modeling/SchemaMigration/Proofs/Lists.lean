/-
  Lists that are sorted, without repetitions, or in blocks.

  To erase repetitions keeps the first occurrence of each element, so the elements stay in
  the order in which they first appeared. A list of blocks, in which each block has members
  under a name of its own, gives the names of the blocks and falls into its blocks again.

  Main statements: `pairwise_sorted`; `nodup_eraseDups` and `filter_eraseDups`;
  `eraseDups_concat`, one element more; `eraseDups_blocks` and `filter_blocks`.
-/
namespace SchemaMigration

/-- A sorted list is in order. -/
theorem pairwise_sorted {α : Type} (le : α → α → Prop) [DecidableRel le]
    (htrans : ∀ {a b c}, le a b → le b c → le a c) (htotal : ∀ a b, le a b ∨ le b a) (l : List α) :
    (l.mergeSort fun a b => decide (le a b)).Pairwise le := by
  have hsorted : (l.mergeSort fun a b => decide (le a b)).Pairwise
      fun a b => decide (le a b) = true := by
    apply List.pairwise_mergeSort
    · intro a b c hab hbc
      exact decide_eq_true (htrans (of_decide_eq_true hab) (of_decide_eq_true hbc))
    · intro a b
      rw [Bool.or_eq_true, decide_eq_true_eq, decide_eq_true_eq]
      exact htotal a b
  exact hsorted.imp of_decide_eq_true

/-! ## First occurrences -/

/-- The rest of a list has lost all copies of the first element before its own are erased. -/
theorem erasing_induction {α : Type} [BEq α] {motive : List α → Prop} (nil : motive [])
    (cons : ∀ a l, motive (l.filter fun b => !b == a) → motive (a :: l)) (l : List α) :
    motive l := by
  induction hn : l.length using Nat.strongRecOn generalizing l with
  | _ n ih =>
    cases l with
    | nil => exact nil
    | cons a l =>
      subst hn
      exact cons a l (ih _ (Nat.lt_succ_of_le (List.length_filter_le _ _)) _ rfl)

section FirstOccurrences
variable {α : Type} [BEq α] [LawfulBEq α]

theorem nodup_eraseDups (l : List α) : l.eraseDups.Nodup := by
  induction l using erasing_induction with
  | nil => exact List.nodup_nil
  | cons a l ih =>
    rw [List.eraseDups_cons, List.nodup_cons, List.mem_eraseDups, List.mem_filter]
    refine ⟨fun h => ?_, ih⟩
    rw [beq_self_eq_true] at h
    exact Bool.false_ne_true h.2

/-- It does not matter whether elements are taken out or repetitions erased first. -/
theorem filter_eraseDups (p : α → Bool) (l : List α) :
    l.eraseDups.filter p = (l.filter p).eraseDups := by
  induction l using erasing_induction with
  | nil => rfl
  | cons a l ih =>
    rw [List.eraseDups_cons, List.filter_cons, List.filter_cons, ih, List.filter_filter]
    split
    · rw [List.eraseDups_cons, List.filter_filter]
      simp only [Bool.and_comm]
    · next ha =>
      have hother : (l.filter fun b => p b && !b == a) = l.filter p := by
        apply List.filter_congr
        intro b _
        by_cases hb : b = a
        · subst hb
          simp [ha]
        · simp [hb]
      rw [hother]

theorem eraseDups_concat (l : List α) (a : α) :
    (l ++ [a]).eraseDups = if l.contains a then l.eraseDups else l.eraseDups ++ [a] := by
  rw [List.eraseDups_append, List.removeAll, List.filter_cons]
  split
  · next h =>
    rw [if_neg (by simpa using h)]
    rfl
  · next h =>
    rw [if_pos (by simpa using h)]
    exact List.append_nil _

end FirstOccurrences

/-! ## Blocks under one name each -/

section Blocks
variable {α β : Type} {blocks : List α} {members : α → List β} {blockName : α → String}
  {name : β → String}

/-- The names of members, each once, are the names of the blocks. -/
theorem eraseDups_blocks (hne : ∀ a ∈ blocks, members a ≠ [])
    (hname : ∀ a ∈ blocks, ∀ b ∈ members a, name b = blockName a)
    (hnodup : (blocks.map blockName).Nodup) :
    ((blocks.flatMap members).map name).eraseDups = blocks.map blockName := by
  induction blocks with
  | nil => rfl
  | cons a rest ih =>
    obtain ⟨hfresh, hrest⟩ := List.nodup_cons.1 hnodup
    -- The first block has one name throughout, which no other block has.
    have hhead : ((members a).map name).eraseDups = [blockName a] := by
      obtain ⟨b, bs, hb⟩ := List.exists_cons_of_ne_nil (hne a List.mem_cons_self)
      have hall : ∀ c ∈ b :: bs, name c = blockName a :=
        fun c hc => hname a List.mem_cons_self c (hb ▸ hc)
      have hrepeated : (bs.map name).filter (fun n => !n == name b) = [] := by
        apply List.filter_eq_nil_iff.2
        intro n hn
        obtain ⟨c, hc, rfl⟩ := List.mem_map.1 hn
        simp [hall c (List.mem_cons_of_mem b hc), hall b List.mem_cons_self]
      rw [hb, List.map_cons, List.eraseDups_cons, hrepeated, hall b List.mem_cons_self]
      rfl
    have hother : ((rest.flatMap members).map name).removeAll ((members a).map name) =
        (rest.flatMap members).map name := by
      apply List.filter_eq_self.2
      intro n hn
      obtain ⟨c, hc, rfl⟩ := List.mem_map.1 hn
      obtain ⟨d, hd, hcd⟩ := List.mem_flatMap.1 hc
      have hne : ∀ b ∈ members a, name b ≠ name c := by
        intro b hb heq
        rw [hname a List.mem_cons_self b hb, hname d (List.mem_cons_of_mem a hd) c hcd] at heq
        exact hfresh (heq ▸ List.mem_map_of_mem hd)
      simpa using hne
    rw [List.flatMap_cons, List.map_append, List.eraseDups_append, hhead, hother,
      ih (fun c hc => hne c (List.mem_cons_of_mem _ hc))
        (fun c hc => hname c (List.mem_cons_of_mem _ hc)) hrest]
    rfl

/-- The members under the name of a block are the members of that block. -/
theorem filter_blocks (hname : ∀ a ∈ blocks, ∀ b ∈ members a, name b = blockName a)
    (hnodup : (blocks.map blockName).Nodup) {a : α} (ha : a ∈ blocks) :
    (blocks.flatMap members).filter (name · = blockName a) = members a := by
  induction blocks with
  | nil => exact absurd ha List.not_mem_nil
  | cons c rest ih =>
    obtain ⟨hfresh, hrest⟩ := List.nodup_cons.1 hnodup
    have hrestname : ∀ a ∈ rest, ∀ b ∈ members a, name b = blockName a :=
      fun d hd => hname d (List.mem_cons_of_mem c hd)
    rw [List.flatMap_cons, List.filter_append]
    -- The block is the first, and no other has its name, or it is among the rest.
    rcases List.mem_cons.1 ha with rfl | ha
    · have hown : (members a).filter (name · = blockName a) = members a :=
        List.filter_eq_self.2 fun b hb => decide_eq_true (hname a List.mem_cons_self b hb)
      have hother : (rest.flatMap members).filter (name · = blockName a) = [] := by
        apply List.filter_eq_nil_iff.2
        intro b hb heq
        obtain ⟨d, hd, hbd⟩ := List.mem_flatMap.1 hb
        rw [decide_eq_true_eq, hrestname d hd b hbd] at heq
        exact hfresh (heq ▸ List.mem_map_of_mem hd)
      rw [hown, hother, List.append_nil]
    · have hother : (members c).filter (name · = blockName a) = [] := by
        apply List.filter_eq_nil_iff.2
        intro b hb heq
        rw [decide_eq_true_eq, hname c List.mem_cons_self b hb] at heq
        exact hfresh (heq ▸ List.mem_map_of_mem ha)
      rw [hother, List.nil_append, ih hrestname hrest ha]

end Blocks

end SchemaMigration
