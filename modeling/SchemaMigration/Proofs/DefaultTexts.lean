import SchemaMigration.Catalog.DefaultText
import SchemaMigration.Proofs.TypeTexts

/-
  Default texts read back.

  A catalog gives the value of a plain default and the expression of a generated
  one. Reading takes a text for null, for the current timestamp or for a quoted
  literal before the type of the column counts, so a text stands for itself only
  if it is none of these. A numeric literal never is.

  Main statements: `plainDefault?_numeric`, `plainDefault?_bool`,
  `plainDefault?_string`, `generatedDefault?_expression` and
  `generatedDefault?_currentTimestamp`, each kind of default reads back from its
  text.
-/
namespace SchemaMigration.Catalog

open Text Sql Table

/-! ## Numeric literals -/

/-- The characters of numeric literals. -/
def isNumeralChar (c : Char) : Bool := c.isDigit || "+-.eE".toList.contains c

theorem isNumeralChar_cases {c : Char} (h : isNumeralChar c = true) :
    48 ≤ c.toNat ∧ c.toNat ≤ 57 ∨ c = '+' ∨ c = '-' ∨ c = '.' ∨ c = 'e' ∨ c = 'E' := by
  rcases (Bool.or_eq_true_iff ..).1 h with hdigit | hmem
  · exact .inl (by simpa [Char.isDigit, UInt32.le_iff_toNat_le] using hdigit)
  · exact .inr (by simpa using hmem)

theorem isNumeralChar_of_allDigits {cs : List Char} (h : allDigits cs = true) :
    ∀ c ∈ cs, isNumeralChar c = true := by
  intro c hc
  rw [isNumeralChar, List.all_eq_true.1 h c hc, Bool.true_or]

theorem isNumeralChar_of_dropSign {cs : List Char}
    (h : ∀ c ∈ dropSign cs, isNumeralChar c = true) : ∀ c ∈ cs, isNumeralChar c = true := by
  cases cs with
  | nil => exact h
  | cons d ds =>
    by_cases hd : d = '-' ∨ d = '+'
    · rw [dropSign, if_pos hd] at h
      intro c hc
      rcases List.mem_cons.1 hc with rfl | hc
      · rcases hd with rfl | rfl <;> decide
      · exact h c hc
    · rwa [dropSign, if_neg hd] at h

theorem isNumeralChar_of_mantissa {cs : List Char}
    (hw : allDigits ((cutAt (· == '.') cs).getD (cs, [])).1 = true)
    (hf : allDigits ((cutAt (· == '.') cs).getD (cs, [])).2 = true) :
    ∀ c ∈ cs, isNumeralChar c = true := by
  cases hcut : cutAt (· == '.') cs with
  | none =>
    rw [hcut] at hw
    exact isNumeralChar_of_allDigits hw
  | some parts =>
    obtain ⟨whole, fraction⟩ := parts
    rw [hcut] at hw hf
    obtain ⟨-, d, hd, rfl⟩ := eq_append_of_cutAt hcut
    intro c hc
    rcases List.mem_append.1 hc with hc | hc
    · exact isNumeralChar_of_allDigits hw c hc
    · rcases List.mem_cons.1 hc with rfl | hc
      · rw [show c = '.' from by simpa using hd]
        decide
      · exact isNumeralChar_of_allDigits hf c hc

theorem isNumeralChar_of_isNumericLiteral {cs : List Char} (h : isNumericLiteral cs = true) :
    ∀ c ∈ cs, isNumeralChar c = true := by
  refine isNumeralChar_of_dropSign ?_
  unfold isNumericLiteral at h
  cases hcut : cutAt (fun c => c == 'e' || c == 'E') (dropSign cs) with
  | none =>
    simp only [hcut, Bool.and_eq_true] at h
    exact isNumeralChar_of_mantissa h.1.1.2 h.1.2
  | some parts =>
    obtain ⟨mantissa, exponent⟩ := parts
    simp only [hcut, Bool.and_eq_true] at h
    obtain ⟨⟨⟨-, hw⟩, hf⟩, -, he⟩ := h
    obtain ⟨-, d, hd, hbody⟩ := eq_append_of_cutAt hcut
    rw [hbody]
    intro c hc
    rcases List.mem_append.1 hc with hc | hc
    · exact isNumeralChar_of_mantissa hw hf c hc
    · rcases List.mem_cons.1 hc with rfl | hc
      · rcases (Bool.or_eq_true_iff ..).1 hd with hd | hd
        · rw [show c = 'e' from by simpa using hd]
          decide
        · rw [show c = 'E' from by simpa using hd]
          decide
      · exact isNumeralChar_of_dropSign (isNumeralChar_of_allDigits he) c hc

/-- In lower case a character of a numeric literal is no letter but `e`. -/
theorem toLower_ne_of_isNumeralChar {c d : Char} (h : isNumeralChar c = true) (hd : 97 ≤ d.toNat)
    (he : d ≠ 'e') : c.toLower ≠ d := by
  rintro rfl
  rcases isNumeralChar_cases h with hrange | rfl | rfl | rfl | rfl | rfl
  · rcases toLower_eq_or c with hl | ⟨hA, -, -⟩
    · rw [hl] at hd
      omega
    · omega
  · exact absurd hd (by decide)
  · exact absurd hd (by decide)
  · exact absurd hd (by decide)
  · exact he rfl
  · exact he rfl

theorem isCurrentTimestamp_of_isNumericLiteral {s : String}
    (h : isNumericLiteral s.toList = true) : isCurrentTimestamp s = false := by
  have hchars : ∀ c ∈ trim s.toList, isNumeralChar c = true := by
    intro c hc
    refine isNumeralChar_of_isNumericLiteral h c ?_
    have hstart : c ∈ trimStart s.toList := by
      have := List.dropWhile_sublist (p := isBlank) (l := (trimStart s.toList).reverse)
      exact List.mem_reverse.1 (this.mem (List.mem_reverse.1 hc))
    exact (List.dropWhile_sublist _).mem hstart
  have hnot : ∀ d : Char, 97 ≤ d.toNat → d ≠ 'e' → d ∉ (trim s.toList).map Char.toLower := by
    intro d hd he hmem
    obtain ⟨c, hc, hcd⟩ := List.mem_map.1 hmem
    exact toLower_ne_of_isNumeralChar (hchars c hc) hd he hcd
  rw [isCurrentTimestamp, Bool.or_eq_false_iff]
  constructor
  · refine Bool.eq_false_iff.2 fun hprefix => hnot 't' (by decide) (by decide) ?_
    exact (List.isPrefixOf_iff_prefix.1 hprefix).subset (by decide)
  · refine beq_eq_false_iff_ne.2 fun hnow => hnot 'w' (by decide) (by decide) ?_
    rw [hnow]
    decide

theorem isNullWord_of_isNumericLiteral {s : String} (h : isNumericLiteral s.toList = true) :
    isNullWord s = false := by
  apply beq_eq_false_iff_ne.2
  intro hnull
  have hmem : 'U' ∈ s.toList.map Char.toUpper := by
    rw [hnull]
    decide
  obtain ⟨c, hc, hcU⟩ := List.mem_map.1 hmem
  rcases isNumeralChar_cases (isNumeralChar_of_isNumericLiteral h c hc) with
    hrange | rfl | rfl | rfl | rfl | rfl
  · have hupper : c.toUpper = c := by
      unfold Char.toUpper
      rw [dif_neg]
      rintro ⟨ha, -⟩
      have : 97 ≤ c.toNat := UInt32.le_iff_toNat_le.1 ha
      omega
    rw [hupper] at hcU
    rw [hcU] at hrange
    exact absurd hrange (by decide)
  all_goals exact absurd hcU (by decide)

/-! ## Quoted texts -/

theorem unwrapped?_eq_none {cs : List Char} (h : ∀ inner, cs ≠ '\'' :: inner ++ ['\'']) :
    unwrapped? cs = none := by
  rw [unwrapped?.eq_def]
  split
  · rename_i rest
    refine if_neg fun hlast => h rest.dropLast ?_
    have hne : rest ≠ [] := by
      rintro rfl
      simp at hlast
    have hget : rest.getLast hne = '\'' := by
      rw [List.getLast?_eq_some_getLast hne] at hlast
      exact Option.some.inj hlast
    rw [List.cons_append, ← hget, List.dropLast_concat_getLast]
  · rfl

/-- A numeric literal starts with no quote. -/
theorem unwrapped?_of_isNumericLiteral {cs : List Char} (h : isNumericLiteral cs = true) :
    unwrapped? cs = none := by
  refine unwrapped?_eq_none fun inner heq => ?_
  have := isNumeralChar_of_isNumericLiteral h '\'' (heq ▸ List.mem_cons_self)
  exact absurd this (by decide)

/-! ## Reading defaults back -/

theorem plainDefault?_numeric {type : ColumnType} {n : String} (ht : type.isNumeric = true)
    (hb : type ≠ .boolean) (hn : isNumericLiteral n.toList = true) :
    plainDefault? type n = some (.numeric n) := by
  rw [plainDefault?, isNullWord_of_isNumericLiteral hn, if_neg Bool.false_ne_true,
    isCurrentTimestamp_of_isNumericLiteral hn, if_neg Bool.false_ne_true,
    unwrapped?_of_isNumericLiteral hn]
  simp only [if_neg hb, if_pos ht]

theorem plainDefault?_bool (b : Bool) :
    plainDefault? .boolean (if b then "1" else "0") = some (.bool b) := by
  cases b <;> decide

theorem plainDefault?_string {type : ColumnType} {s : String} (ht : type.isNumeric = false)
    (hn : isNullWord s = false) (hc : isCurrentTimestamp s = false)
    (hq : ∀ inner, s.toList ≠ '\'' :: inner ++ ['\'']) :
    plainDefault? type s = some (.string s) := by
  have hb : type ≠ .boolean := by
    rintro rfl
    exact absurd ht (by decide)
  rw [plainDefault?, hn, if_neg Bool.false_ne_true, hc, if_neg Bool.false_ne_true,
    unwrapped?_eq_none hq]
  simp only [if_neg hb, ht, if_neg Bool.false_ne_true]

theorem generatedDefault?_expression {e : String} (hb : e ≠ "") (ht : trimmed e = e)
    (hn : isNullWord e = false) (hc : isCurrentTimestamp e = false) :
    generatedDefault? e = some (.expression e) := by
  simp only [generatedDefault?, ht, hn, hc]
  rw [if_neg (by simpa using hb), if_neg Bool.false_ne_true]

theorem generatedDefault?_currentTimestamp (p : UInt32) :
    generatedDefault? (currentTimestampSql p) = some .currentTimestamp := by
  by_cases hp : p = 0
  · rw [currentTimestampSql, ColumnType.withPrecision, if_pos hp]
    decide
  -- The digits of the precision are not known, but both ends of the text are.
  · have hlist : (currentTimestampSql p).toList =
        "CURRENT_TIMESTAMP(".toList ++ (digits p.toNat ++ [')']) := by
      rw [currentTimestampSql, ColumnType.withPrecision, if_neg hp]
      simp [ColumnType.number, natText]
    have htrim : trim (currentTimestampSql p).toList = (currentTimestampSql p).toList := by
      refine trim_eq_self (fun c hc => ?_) (fun c hc => ?_)
      · rw [hlist] at hc
        obtain rfl : 'C' = c := by simpa using hc
        decide
      · rw [hlist, ← List.append_assoc, List.getLast?_concat] at hc
        obtain rfl : ')' = c := Option.some.inj hc
        decide
    have htext : trimmed (currentTimestampSql p) = currentTimestampSql p := by
      rw [trimmed, htrim, String.ofList_toList]
    have hnull : isNullWord (currentTimestampSql p) = false := by
      rw [isNullWord, hlist]
      simp
    have hcurrent : isCurrentTimestamp (currentTimestampSql p) = true := by
      rw [isCurrentTimestamp, htrim, hlist, List.map_append, Bool.or_eq_true]
      refine .inl (List.isPrefixOf_iff_prefix.2 ?_)
      exact ⟨['('] ++ (digits p.toNat ++ [')']).map Char.toLower, rfl⟩
    have hne : currentTimestampSql p ≠ "" := by
      intro h
      rw [h] at hlist
      simp at hlist
    simp only [generatedDefault?, htext, hnull, hcurrent]
    rw [if_neg (by simpa using hne), if_pos trivial]

end SchemaMigration.Catalog
