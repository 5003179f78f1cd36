/-
  Cutting texts at characters.

  `cutAt` cuts at the first character that satisfies a test and `cutAtLast` at
  the last; `pieces` cuts at all of them. The characters that are cut at belong
  to no part.

  Main statements: no piece holds a character that is cut at; a text is cut at
  the first character that satisfies the test, and is not cut only if none does.
-/
namespace SchemaMigration.Text

/-- A text cut at the first character that satisfies `p`, which is dropped;
`none` if there is no such character. -/
def cutAt (p : Char → Bool) : List Char → Option (List Char × List Char)
  | [] => none
  | c :: rest =>
    if p c then some ([], rest) else (cutAt p rest).map (fun ht => (c :: ht.1, ht.2))

/-- A text cut at the last character that satisfies `p`, which is dropped;
`none` if there is no such character. -/
def cutAtLast (p : Char → Bool) (cs : List Char) : Option (List Char × List Char) :=
  (cutAt p cs.reverse).map fun ht => (ht.2.reverse, ht.1.reverse)

/-- The pieces between the characters that satisfy `p`: one more than there are
such characters. -/
def pieces (p : Char → Bool) : List Char → List (List Char)
  | [] => [[]]
  | c :: rest =>
    if p c then [] :: pieces p rest
    else match pieces p rest with
      | [] => [[c]]
      | w :: ws => (c :: w) :: ws

theorem pieces_ne_nil (p : Char → Bool) (cs : List Char) : pieces p cs ≠ [] := by
  cases cs with
  | nil => simp [pieces]
  | cons c rest =>
    rw [pieces]
    split
    · simp
    · split <;> simp

theorem not_of_mem_pieces {p : Char → Bool} {cs w : List Char} (h : w ∈ pieces p cs) :
    ∀ c ∈ w, p c = false := by
  induction cs generalizing w with
  | nil => simp_all [pieces]
  | cons c rest ih =>
    rw [pieces] at h
    split at h
    · rcases List.mem_cons.1 h with rfl | h
      · simp
      · exact ih h
    · rename_i hc
      split at h
      · simp_all
      · rename_i v vs hv
        rcases List.mem_cons.1 h with rfl | h
        · intro d hd
          rcases List.mem_cons.1 hd with rfl | hd
          · simpa using hc
          · exact ih (hv ▸ List.mem_cons_self) d hd
        · exact ih (hv ▸ List.mem_cons_of_mem _ h)

theorem cutAt_eq_none_iff {p : Char → Bool} {cs : List Char} :
    cutAt p cs = none ↔ ∀ c ∈ cs, p c = false := by
  induction cs with
  | nil => simp [cutAt]
  | cons c rest ih =>
    by_cases h : p c <;> simp [cutAt, h, ih]

theorem eq_append_of_cutAt {p : Char → Bool} {cs head tail : List Char}
    (h : cutAt p cs = some (head, tail)) :
    (∀ c ∈ head, p c = false) ∧ ∃ d, p d = true ∧ cs = head ++ d :: tail := by
  induction cs generalizing head with
  | nil => simp [cutAt] at h
  | cons c rest ih =>
    by_cases hc : p c
    · simp only [cutAt, hc, if_true, Option.some.injEq, Prod.mk.injEq] at h
      obtain ⟨rfl, rfl⟩ := h
      exact ⟨by simp, c, hc, rfl⟩
    · simp only [cutAt, hc] at h
      obtain ⟨⟨a, b⟩, hab, he⟩ := Option.map_eq_some_iff.1 h
      simp only [Prod.mk.injEq] at he
      obtain ⟨rfl, rfl⟩ := he
      obtain ⟨h1, d, hd, hr⟩ := ih hab
      exact ⟨by simpa [hc] using h1, d, hd, by rw [hr, List.cons_append]⟩

theorem cutAt_append_of_not {p : Char → Bool} {cs rest : List Char} {d : Char}
    (h : ∀ c ∈ cs, p c = false) (hd : p d = true) :
    cutAt p (cs ++ d :: rest) = some (cs, rest) := by
  induction cs with
  | nil => simp [cutAt, hd]
  | cons c cs ih =>
    have hc := h c List.mem_cons_self
    simp [cutAt, hc, ih fun e he => h e (List.mem_cons_of_mem _ he)]

/-- The test of equality with a character fails on a text without it. -/
theorem beq_eq_false_of_not_mem {d : Char} {cs : List Char} (h : d ∉ cs) :
    ∀ c ∈ cs, (c == d) = false := fun _ hc => beq_eq_false_iff_ne.2 fun heq => h (heq ▸ hc)

theorem cutAtLast_append {p : Char → Bool} {cs rest : List Char} {d : Char}
    (h : ∀ c ∈ rest, p c = false) (hd : p d = true) :
    cutAtLast p (cs ++ d :: rest) = some (cs, rest) := by
  have hreverse : (cs ++ d :: rest).reverse = rest.reverse ++ d :: cs.reverse := by simp
  rw [cutAtLast, hreverse, cutAt_append_of_not (fun c hc => h c (List.mem_reverse.1 hc)) hd]
  simp

/-- A text is cut at the first of a character. -/
theorem cutAt_beq_append {d : Char} {cs : List Char} (h : d ∉ cs) (rest : List Char) :
    cutAt (· == d) (cs ++ d :: rest) = some (cs, rest) :=
  cutAt_append_of_not (beq_eq_false_of_not_mem h) (beq_self_eq_true d)

/-- A text is cut at the last of a character. -/
theorem cutAtLast_beq_append {d : Char} (cs : List Char) {rest : List Char} (h : d ∉ rest) :
    cutAtLast (· == d) (cs ++ d :: rest) = some (cs, rest) :=
  cutAtLast_append (beq_eq_false_of_not_mem h) (beq_self_eq_true d)

theorem cutAtLast_eq_none {p : Char → Bool} {cs : List Char} (h : ∀ c ∈ cs, p c = false) :
    cutAtLast p cs = none := by
  rw [cutAtLast, cutAt_eq_none_iff.2 fun c hc => h c (List.mem_reverse.1 hc)]
  rfl

theorem pieces_eq_singleton {p : Char → Bool} {cs : List Char} (h : ∀ c ∈ cs, p c = false) :
    pieces p cs = [cs] := by
  induction cs with
  | nil => rfl
  | cons c cs ih =>
    rw [pieces, h c List.mem_cons_self, if_neg Bool.false_ne_true,
      ih fun d hd => h d (List.mem_cons_of_mem _ hd)]

/-- The pieces on both sides of a cut are cut apart from each other. -/
theorem pieces_append {p : Char → Bool} {d : Char} (hd : p d = true) (cs rest : List Char) :
    pieces p (cs ++ d :: rest) = pieces p cs ++ pieces p rest := by
  induction cs with
  | nil => simp [pieces, hd]
  | cons c cs ih =>
    rw [List.cons_append, pieces, ih, pieces]
    split
    · rfl
    · obtain ⟨w, ws, hws⟩ := List.exists_cons_of_ne_nil (pieces_ne_nil p cs)
      rw [hws]
      rfl

theorem pieces_append_cons {p : Char → Bool} {cs rest : List Char} {d : Char}
    (h : ∀ c ∈ cs, p c = false) (hd : p d = true) :
    pieces p (cs ++ d :: rest) = cs :: pieces p rest := by
  rw [pieces_append hd, pieces_eq_singleton h]
  rfl

/-- The pieces of a text, put together with what they were cut at, are the text. -/
theorem intercalate_pieces (d : Char) (cs : List Char) :
    [d].intercalate (pieces (· == d) cs) = cs := by
  induction cs with
  | nil => rfl
  | cons c cs ih =>
    obtain ⟨w, ws, hws⟩ := List.exists_cons_of_ne_nil (pieces_ne_nil (· == d) cs)
    rw [hws] at ih
    rw [pieces, hws]
    split
    · next hc =>
      rw [List.intercalate_cons_cons, ih, eq_of_beq hc]
      rfl
    · cases ws with
      | nil => simpa using ih
      | cons v ws =>
        simp only [List.intercalate_cons_cons, List.cons_append] at ih ⊢
        rw [ih]

/-- Texts that are put together with what is cut at, and do not hold it, are cut apart again. -/
theorem pieces_intercalate {p : Char → Bool} {d : Char} (hd : p d = true) {ws : List (List Char)}
    (hne : ws ≠ []) (h : ∀ w ∈ ws, ∀ c ∈ w, p c = false) : pieces p ([d].intercalate ws) = ws := by
  induction ws with
  | nil => exact absurd rfl hne
  | cons w ws ih =>
    obtain ⟨hw, hws⟩ := List.forall_mem_cons.1 h
    cases ws with
    | nil => rw [List.intercalate_singleton, pieces_eq_singleton hw]
    | cons v ws =>
      rw [List.intercalate_cons_cons, List.append_assoc, List.singleton_append,
        pieces_append_cons hw hd, ih (List.cons_ne_nil v ws) hws]

/-- What is put together with separators holds nothing else. -/
theorem mem_intercalate {α : Type} {a : α} {between : List α} {ws : List (List α)}
    (h : a ∈ between.intercalate ws) : a ∈ between ∨ ∃ w ∈ ws, a ∈ w := by
  induction ws with
  | nil => exact absurd h (by simp)
  | cons w ws ih =>
    cases ws with
    | nil => exact .inr ⟨w, List.mem_cons_self, by simpa using h⟩
    | cons v ws =>
      rw [List.intercalate_cons_cons, List.append_assoc, List.mem_append, List.mem_append] at h
      rcases h with h | h | h
      · exact .inr ⟨w, List.mem_cons_self, h⟩
      · exact .inl h
      · rcases ih h with h | ⟨x, hx, ha⟩
        · exact .inl h
        · exact .inr ⟨x, List.mem_cons_of_mem w hx, ha⟩

end SchemaMigration.Text
