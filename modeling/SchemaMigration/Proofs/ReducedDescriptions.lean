import Mathlib
import SchemaMigration.Generation.Description

/-
  Reduced descriptions.

  A description is reduced to its words: one or more, of lower-case letters and digits, with
  one underscore between two of them. It has words exactly if it has a letter or a digit, and
  a text of that form is reduced to itself.

  Main statements: `normalized_cases` and `normalized_of_reduced`.
-/
namespace SchemaMigration.Generation

open Text Migration

/-! ## Words -/

/-- Whether a character can stand in a word. -/
def isSmall (c : Char) : Bool := c.isLower || c.isDigit

/-- Texts of at least one character that can stand in a word. -/
def AreWords (ws : List (List Char)) : Prop := ∀ w ∈ ws, w ≠ [] ∧ ∀ c ∈ w, isSmall c = true

theorem isAlphanum_of_isSmall {c : Char} (h : isSmall c = true) : c.isAlphanum = true := by
  rw [isSmall, Bool.or_eq_true] at h
  rw [Char.isAlphanum, Char.isAlpha]
  rcases h with h | h
  · rw [h, Bool.or_true, Bool.true_or]
  · rw [h, Bool.or_true]

theorem not_isUpper_of_isDigit {c : Char} (h : c.isDigit = true) : ¬c.isUpper = true := by
  simp only [Char.isDigit, Char.isUpper, Bool.and_eq_true, decide_eq_true_eq,
    UInt32.le_iff_toNat_le, ge_iff_le] at h ⊢
  have hbounds : 'A'.val.toNat = 65 ∧ '9'.val.toNat = 57 := ⟨rfl, rfl⟩
  omega

theorem toLower_of_isSmall {c : Char} (h : isSmall c = true) : c.toLower = c := by
  rcases Bool.or_eq_true_iff.1 h with h | h
  · exact Char.toLower_eq_of_not_isUpper (Char.not_isUpper_of_isLower h)
  · exact Char.toLower_eq_of_not_isUpper (not_isUpper_of_isDigit h)

theorem isSmall_toLower {c : Char} (h : c.isAlphanum = true) : isSmall c.toLower = true := by
  rw [isSmall, Char.isLower_toLower_eq_isAlpha]
  rcases Bool.or_eq_true_iff.1 h with h | h
  · rw [h, Bool.true_or]
  · rw [Char.toLower_eq_of_not_isUpper (not_isUpper_of_isDigit h), h, Bool.or_true]

theorem areWords_plainWords (cs : List Char) : AreWords (plainWords cs) := by
  intro w hw
  obtain ⟨v, hv, rfl⟩ := List.mem_map.1 hw
  obtain ⟨hpiece, hne⟩ := List.mem_filter.1 hv
  refine ⟨by simpa using hne, fun c hc => ?_⟩
  obtain ⟨d, hd, rfl⟩ := List.mem_map.1 hc
  have hd := not_of_mem_pieces hpiece d hd
  exact isSmall_toLower (by simpa using hd)

/-- Words with underscores between them are cut apart again, and stay as they are. -/
theorem plainWords_intercalate {ws : List (List Char)} (hne : ws ≠ []) (h : AreWords ws) :
    plainWords (['_'].intercalate ws) = ws := by
  have hcut : ∀ w ∈ ws, ∀ c ∈ w, (!c.isAlphanum) = false := by
    intro w hw c hc
    rw [isAlphanum_of_isSmall ((h w hw).2 c hc)]
    rfl
  have hfull : ∀ w ∈ ws, decide (w ≠ []) = true := fun w hw => decide_eq_true (h w hw).1
  have hlower : ∀ w ∈ ws, w.map Char.toLower = w := fun w hw =>
    (List.map_congr_left fun c hc => toLower_of_isSmall ((h w hw).2 c hc)).trans (List.map_id' w)
  rw [plainWords, pieces_intercalate (by decide) hne hcut, List.filter_eq_self.2 hfull]
  exact (List.map_congr_left hlower).trans (List.map_id' ws)

/-- There is a word exactly if there is a letter or a digit. -/
theorem plainWords_eq_nil_iff {cs : List Char} :
    plainWords cs = [] ↔ ∀ c ∈ cs, c.isAlphanum = false := by
  induction cs with
  | nil => exact iff_of_true rfl fun c hc => absurd hc List.not_mem_nil
  | cons c cs ih =>
    rw [List.forall_mem_cons, ← ih]
    cases hc : c.isAlphanum with
    | false => simp [plainWords, pieces, hc]
    | true =>
      obtain ⟨w, ws, hpieces⟩ :=
        List.exists_cons_of_ne_nil (pieces_ne_nil (fun c => !c.isAlphanum) cs)
      simp [plainWords, pieces, hc, hpieces]

/-! ## Descriptions -/

/-- A text of one word or more, with single underscores between them. -/
def IsReduced (text : String) : Prop :=
  ∃ ws, ws ≠ [] ∧ AreWords ws ∧ text.toList = ['_'].intercalate ws

theorem IsReduced.ne_nil {text : String} (h : IsReduced text) : text.toList ≠ [] := by
  obtain ⟨ws, hne, hwords, htext⟩ := h
  obtain ⟨w, ws, rfl⟩ := List.exists_cons_of_ne_nil hne
  rw [htext]
  intro hnil
  have hw := (hwords w List.mem_cons_self).1
  cases ws with
  | nil => exact hw (by simpa using hnil)
  | cons v ws => simp [List.intercalate_cons_cons] at hnil

theorem IsReduced.isNameChar {text : String} (h : IsReduced text) :
    ∀ c ∈ text.toList, isNameChar c = true := by
  obtain ⟨ws, -, hwords, htext⟩ := h
  rw [htext]
  intro c hc
  rcases mem_intercalate hc with hc | ⟨w, hw, hc⟩
  · rw [List.mem_singleton.1 hc]
    rfl
  · rw [Migration.isNameChar, isAlphanum_of_isSmall ((hwords w hw).2 c hc), Bool.true_or]

/-- A description without letters and digits is refused, and any other is reduced. -/
theorem normalized_cases (description : String) :
    ((∀ c ∈ description.toList, c.isAlphanum = false) ∧
        normalized description = .error (.malformed (.unusableDescription description))) ∨
      (∃ c ∈ description.toList, c.isAlphanum = true) ∧
        ∃ name, normalized description = .ok name ∧ IsReduced name := by
  rw [normalized]
  cases hwords : plainWords description.toList with
  | nil => exact .inl ⟨plainWords_eq_nil_iff.1 hwords, rfl⟩
  | cons w ws =>
    refine .inr ⟨?_, _, rfl, w :: ws, List.cons_ne_nil w ws, ?_, String.toList_ofList⟩
    · by_contra hnone
      have hall : ∀ c ∈ description.toList, c.isAlphanum = false := fun c hc =>
        Bool.eq_false_iff.2 fun htrue => hnone ⟨c, hc, htrue⟩
      rw [plainWords_eq_nil_iff.2 hall] at hwords
      cases hwords
    · rw [← hwords]
      exact areWords_plainWords _

theorem isReduced_of_normalized {description name : String}
    (h : normalized description = .ok name) : IsReduced name := by
  rcases normalized_cases description with ⟨-, herror⟩ | ⟨-, name', hname, hreduced⟩
  · cases herror.symm.trans h
  · cases hname.symm.trans h
    exact hreduced

/-- What is reduced stays as it is. -/
theorem normalized_of_reduced {name : String} (h : IsReduced name) :
    normalized name = .ok name := by
  obtain ⟨ws, hne, hwords, htext⟩ := h
  have hplain : plainWords name.toList = ws := by rw [htext, plainWords_intercalate hne hwords]
  obtain ⟨w, rest, rfl⟩ := List.exists_cons_of_ne_nil hne
  rw [normalized, hplain]
  dsimp only
  rw [← htext, String.ofList_toList]

end SchemaMigration.Generation
