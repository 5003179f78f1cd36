/-
  Finite maps from names, kept as lists of entries in ascending order of names.

  Each name occurs once, so a map has one list: maps that answer alike are equal.

  Main statements: `get?_insert` and `get?_erase`, what a map answers after a
  change; `get?_eq_some_iff`, a map answers with its entries; `ext_get?`, equality
  from equal answers.
-/
namespace SchemaMigration.Database

/-- A finite map from names. -/
structure NameMap (β : Type) where
  entries : List (String × β)
  sorted : entries.Pairwise (fun a b => a.1 < b.1)

namespace NameMap

variable {β : Type}

/-- The map without entries. -/
def empty : NameMap β := ⟨[], List.Pairwise.nil⟩

instance : EmptyCollection (NameMap β) := ⟨empty⟩

instance : Inhabited (NameMap β) := ⟨empty⟩

/-- The value of a name. -/
def get? (m : NameMap β) (k : String) : Option β :=
  (m.entries.find? (fun e => e.1 == k)).map Prod.snd

/-- Whether a name has a value. -/
def contains (m : NameMap β) (k : String) : Bool := (m.get? k).isSome

/-- The names, in ascending order. -/
def keys (m : NameMap β) : List String := m.entries.map Prod.fst

/-- The values, in ascending order of their names. -/
def values (m : NameMap β) : List β := m.entries.map Prod.snd

/-- A list of entries with a value put in its place. -/
def insertEntry (k : String) (v : β) : List (String × β) → List (String × β)
  | [] => [(k, v)]
  | e :: rest =>
    if k < e.1 then (k, v) :: e :: rest
    else if e.1 = k then (k, v) :: rest
    else e :: insertEntry k v rest

theorem mem_insertEntry {k : String} {v : β} {l : List (String × β)} {e : String × β}
    (h : e ∈ insertEntry k v l) : e = (k, v) ∨ e ∈ l := by
  induction l with
  | nil => simpa [insertEntry] using h
  | cons a l ih =>
    rw [insertEntry] at h
    split at h
    · simpa using h
    · split at h
      · rcases List.mem_cons.1 h with h | h
        · exact .inl h
        · exact .inr (List.mem_cons_of_mem _ h)
      · rcases List.mem_cons.1 h with h | h
        · exact .inr (h ▸ List.mem_cons_self)
        · exact (ih h).imp_right (List.mem_cons_of_mem _)

theorem sorted_insertEntry {k : String} {v : β} {l : List (String × β)}
    (h : l.Pairwise (fun a b => a.1 < b.1)) :
    (insertEntry k v l).Pairwise (fun a b => a.1 < b.1) := by
  induction l with
  | nil => simp [insertEntry]
  | cons a l ih =>
    obtain ⟨ha, hl⟩ := List.pairwise_cons.1 h
    rw [insertEntry]
    split
    · rename_i hk
      refine List.pairwise_cons.2 ⟨fun e he => ?_, h⟩
      rcases List.mem_cons.1 he with rfl | he
      · exact hk
      · exact String.lt_trans hk (ha e he)
    · rename_i hk
      split
      · rename_i hak
        exact List.pairwise_cons.2 ⟨fun e he => hak ▸ ha e he, hl⟩
      · rename_i hak
        refine List.pairwise_cons.2 ⟨fun e he => ?_, ih hl⟩
        rcases mem_insertEntry he with rfl | he
        · exact String.not_le.1 fun hle => hak (String.le_antisymm (String.not_lt.1 hk) hle)
        · exact ha e he

/-- The map in which a name has a value, whether or not it had one. -/
def insert (m : NameMap β) (k : String) (v : β) : NameMap β :=
  ⟨insertEntry k v m.entries, sorted_insertEntry m.sorted⟩

/-- The map in which a name has no value. -/
def erase (m : NameMap β) (k : String) : NameMap β :=
  ⟨m.entries.filter (fun e => e.1 != k), m.sorted.filter _⟩

@[simp] theorem get?_empty (k : String) : (∅ : NameMap β).get? k = none := rfl

theorem find?_insertEntry {k j : String} {v : β} {l : List (String × β)}
    (h : l.Pairwise (fun a b => a.1 < b.1)) :
    ((insertEntry k v l).find? (fun e => e.1 == j)).map Prod.snd =
      if k = j then some v else (l.find? (fun e => e.1 == j)).map Prod.snd := by
  induction l with
  | nil => by_cases hkj : k = j <;> simp [insertEntry, hkj]
  | cons a l ih =>
    obtain ⟨_, hl⟩ := List.pairwise_cons.1 h
    rw [insertEntry]
    split
    · by_cases hkj : k = j <;> simp [hkj]
    · split
      · rename_i hak
        by_cases hkj : k = j
        · simp [hkj]
        · have : a.1 ≠ j := hak ▸ hkj
          simp [hkj, this]
      · rename_i hak
        by_cases haj : a.1 = j
        · have : k ≠ j := fun hkj => hak (haj.trans hkj.symm)
          simp [haj, this]
        · simp only [List.find?_cons, show (a.1 == j) = false by simpa using haj]
          exact ih hl

@[simp] theorem get?_insert (m : NameMap β) (k j : String) (v : β) :
    (m.insert k v).get? j = if k = j then some v else m.get? j :=
  find?_insertEntry m.sorted

@[simp] theorem get?_erase (m : NameMap β) (k j : String) :
    (m.erase k).get? j = if k = j then none else m.get? j := by
  unfold get? erase
  by_cases hkj : k = j
  · subst hkj
    rw [if_pos rfl, Option.map_eq_none_iff, List.find?_eq_none]
    intro e he
    simpa using (List.mem_filter.1 he).2
  · rw [if_neg hkj, List.find?_filter]
    congr 2
    funext e
    by_cases hej : e.1 = j
    · subst hej
      simp [Ne.symm hkj]
    · simp [hej]

theorem find?_eq_none_of_lt {k : String} {l : List (String × β)} (h : ∀ e ∈ l, k < e.1) :
    l.find? (fun e => e.1 == k) = none := by
  rw [List.find?_eq_none]
  intro e he hek
  have : e.1 = k := by simpa using hek
  exact String.lt_irrefl _ (this ▸ h e he)

theorem entries_eq_of_find? {l₁ l₂ : List (String × β)}
    (h₁ : l₁.Pairwise (fun a b => a.1 < b.1)) (h₂ : l₂.Pairwise (fun a b => a.1 < b.1))
    (h : ∀ k, (l₁.find? (fun e => e.1 == k)).map Prod.snd =
      (l₂.find? (fun e => e.1 == k)).map Prod.snd) : l₁ = l₂ := by
  induction l₁ generalizing l₂ with
  | nil =>
    cases l₂ with
    | nil => rfl
    | cons b l₂ => have := h b.1; simp at this
  | cons a l₁ ih =>
    cases l₂ with
    | nil => have := h a.1; simp at this
    | cons b l₂ =>
      obtain ⟨ha, hl₁⟩ := List.pairwise_cons.1 h₁
      obtain ⟨hb, hl₂⟩ := List.pairwise_cons.1 h₂
      -- The lesser of the first keys would be found in one list only.
      have hab : a.1 = b.1 := by
        refine String.le_antisymm (String.not_lt.1 fun hlt => ?_) (String.not_lt.1 fun hlt => ?_)
        · have hk := h b.1
          rw [find?_eq_none_of_lt (l := a :: l₁) fun e he => ?_] at hk
          · simp at hk
          · rcases List.mem_cons.1 he with rfl | he
            · exact hlt
            · exact String.lt_trans hlt (ha e he)
        · have hk := h a.1
          rw [find?_eq_none_of_lt (l := b :: l₂) fun e he => ?_] at hk
          · simp at hk
          · rcases List.mem_cons.1 he with rfl | he
            · exact hlt
            · exact String.lt_trans hlt (hb e he)
      have hv : a.2 = b.2 := by have := h a.1; simpa [hab] using this
      rw [show a = b from Prod.ext hab hv, ih hl₁ hl₂ fun k => ?_]
      by_cases hk : a.1 = k
      · rw [find?_eq_none_of_lt fun e he => hk ▸ ha e he,
          find?_eq_none_of_lt fun e he => hk ▸ hab ▸ hb e he]
      · have hbk : b.1 ≠ k := hab ▸ hk
        have := h k
        simpa [hk, hbk] using this

theorem ext_get? {m n : NameMap β} (h : ∀ k, m.get? k = n.get? k) : m = n := by
  obtain ⟨l₁, h₁⟩ := m
  obtain ⟨l₂, h₂⟩ := n
  have : l₁ = l₂ := entries_eq_of_find? h₁ h₂ h
  subst this
  rfl

theorem get?_eq_some_iff {m : NameMap β} {k : String} {v : β} :
    m.get? k = some v ↔ (k, v) ∈ m.entries := by
  obtain ⟨l, hl⟩ := m
  show (l.find? fun e => e.1 == k).map Prod.snd = some v ↔ (k, v) ∈ l
  induction l with
  | nil => simp
  | cons a l ih =>
    obtain ⟨ha, hl⟩ := List.pairwise_cons.1 hl
    by_cases hk : a.1 = k
    · subst hk
      have hnot : (a.1, v) ∉ l := fun hmem => String.lt_irrefl _ (ha (a.1, v) hmem)
      simp [hnot, Prod.ext_iff, eq_comm]
    · rw [List.find?_cons_of_neg (by simpa using hk), ih hl, List.mem_cons]
      refine ⟨.inr, fun h => h.resolve_left ?_⟩
      rintro rfl
      exact hk rfl

theorem nodup_keys (m : NameMap β) : m.keys.Nodup :=
  List.pairwise_map.2 (m.sorted.imp fun h => String.ne_of_lt h)

/-! ## Names -/

@[simp] theorem keys_empty : (∅ : NameMap β).keys = [] := rfl

theorem mem_keys_iff {m : NameMap β} {k : String} : k ∈ m.keys ↔ (m.get? k).isSome = true := by
  rw [Option.isSome_iff_exists]
  constructor
  · intro h
    obtain ⟨⟨j, v⟩, hentry, rfl⟩ := List.mem_map.1 h
    exact ⟨v, get?_eq_some_iff.2 hentry⟩
  · rintro ⟨v, hv⟩
    exact List.mem_map.2 ⟨(k, v), get?_eq_some_iff.1 hv, rfl⟩

theorem mem_keys_insert {m : NameMap β} {k j : String} {v : β} :
    j ∈ (m.insert k v).keys ↔ j = k ∨ j ∈ m.keys := by
  rw [mem_keys_iff, mem_keys_iff, get?_insert]
  by_cases hkj : k = j
  · simp [hkj]
  · simp [hkj, Ne.symm hkj]

theorem mem_keys_erase {m : NameMap β} {k j : String} :
    j ∈ (m.erase k).keys ↔ j ∈ m.keys ∧ j ≠ k := by
  rw [mem_keys_iff, mem_keys_iff, get?_erase]
  by_cases hkj : k = j
  · simp [hkj]
  · simp [hkj, Ne.symm hkj]

theorem mem_keys_foldl_insert {names : List String} {m : NameMap Unit} {k : String} :
    k ∈ (names.foldl (fun acc j => acc.insert j ()) m).keys ↔ k ∈ names ∨ k ∈ m.keys := by
  induction names generalizing m with
  | nil => simp
  | cons j names ih =>
    rw [List.foldl_cons, ih, mem_keys_insert, List.mem_cons, or_left_comm, or_assoc]

/-! ## Size -/

theorem length_insertEntry_le (k : String) (v : β) (l : List (String × β)) :
    (insertEntry k v l).length ≤ l.length + 1 := by
  induction l with
  | nil => exact Nat.le_refl _
  | cons a l ih =>
    rw [insertEntry]
    split
    · exact Nat.le_refl _
    · split
      · exact Nat.le_succ _
      · exact Nat.succ_le_succ ih

theorem length_erase_lt {m : NameMap β} {k : String} (h : k ∈ m.keys) :
    (m.erase k).entries.length < m.entries.length := by
  obtain ⟨e, he, rfl⟩ := List.mem_map.1 h
  exact List.length_filter_lt_length_iff_exists.2 ⟨e, he, by simp⟩

/-! ## Taking a name out and putting it in -/

/-- To put a new name in and take it out leaves the map. -/
theorem erase_insert {m : NameMap β} {k : String} {v : β} (h : m.get? k = none) :
    (m.insert k v).erase k = m := by
  refine ext_get? fun j => ?_
  rw [get?_erase, get?_insert]
  by_cases hkj : k = j
  · rw [if_pos hkj, ← hkj, h]
  · rw [if_neg hkj, if_neg hkj]

theorem erase_eq_self {m : NameMap β} {k : String} (h : m.get? k = none) : m.erase k = m := by
  refine ext_get? fun j => ?_
  rw [get?_erase]
  by_cases hkj : k = j
  · rw [if_pos hkj, ← hkj, h]
  · rw [if_neg hkj]

end NameMap

end SchemaMigration.Database
