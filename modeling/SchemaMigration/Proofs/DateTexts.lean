import SchemaMigration.Proofs.VersionOrder

/-
  Dates read back from their texts.

  A field is padded to its full width and followed by a mark or by nothing, so a reader who
  takes as many digits as the field may have takes the whole field and nothing else. A year
  outside of 0 to 9999 has a sign and any number of digits; it ends at the mark behind it.

  A text of digits, with or without a sign in front, is no date, and a date is no numeral.

  Main statements: `readWith?_written` and `ofText?_text`.
-/
namespace SchemaMigration.Calendar

open Text Generation

namespace DateTime

/-! ## Reading a field -/

/-- The text does not go on with a digit. -/
def EndsDigits (cs : List Char) : Prop := ∀ c ∈ cs.head?, c.isDigit = false

theorem endsDigits_nil : EndsDigits [] := nofun

theorem endsDigits_cons {c : Char} (hc : c.isDigit = false) (cs : List Char) :
    EndsDigits (c :: cs) := by
  rintro _ ⟨⟩
  exact hc

/-- Digits are read to their end, if they are no more than may be read. -/
theorem readDigits_append {width : Nat} {ds rest : List Char} (hne : ds ≠ [])
    (hds : allDigits ds = true) (hlength : ds.length ≤ width) (hrest : EndsDigits rest) :
    readDigits width (ds ++ rest) = some (Nat.ofDigitChars 10 ds 0, rest) := by
  have htail : (rest.take (width - ds.length)).takeWhile Char.isDigit = [] := by
    cases rest with
    | nil => simp
    | cons c rest =>
      cases width - ds.length with
      | zero => rfl
      | succ n => rw [List.take_succ_cons, List.takeWhile_cons, hrest c rfl, if_neg Bool.false_ne_true]
  have htake : ((ds ++ rest).take width).takeWhile Char.isDigit = ds := by
    rw [List.take_append, List.take_of_length_le hlength,
      List.takeWhile_append_of_pos (List.all_eq_true.1 hds), htail, List.append_nil]
  rw [readDigits, htake, if_neg hne, List.drop_left]

theorem padded_ne_nil (width n : Nat) : padded width n ≠ [] := by
  simp [padded, digits, Nat.toDigits_ne_nil]

/-- A padded number that has no more digits than its width. -/
theorem readDigits_padded {width n : Nat} (hwidth : 0 < width) (hn : n < 10 ^ width)
    {rest : List Char} (hrest : EndsDigits rest) :
    readDigits width (padded width n ++ rest) = some (n, rest) := by
  have hlength := Nat.le_of_eq (length_padded hwidth hn)
  rw [readDigits_append (padded_ne_nil width n) (allDigits_padded width n) hlength hrest,
    ofDigitChars_padded]

theorem trimStart_append_of_allDigits {ds : List Char} (hne : ds ≠ []) (hds : allDigits ds = true)
    (rest : List Char) : trimStart (ds ++ rest) = ds ++ rest := by
  obtain ⟨c, ds, rfl⟩ := List.exists_cons_of_ne_nil hne
  have hc : isBlank c = false :=
    not_isBlank_of_isDigit (List.all_eq_true.1 hds c List.mem_cons_self)
  rw [List.cons_append, trimStart, List.dropWhile_cons, hc, if_neg Bool.false_ne_true]

theorem trimStart_padded (width n : Nat) (rest : List Char) :
    trimStart (padded width n ++ rest) = padded width n ++ rest :=
  trimStart_append_of_allDigits (padded_ne_nil width n) (allDigits_padded width n) rest

theorem readField_padded {n : Nat} (hn : n < 100) {rest : List Char} (hrest : EndsDigits rest) :
    readField (padded 2 n ++ rest) = some (n, rest) := by
  rw [readField, trimStart_padded]
  exact readDigits_padded Nat.two_pos hn hrest

/-- A year without a sign has at most four digits. -/
theorem readYear_of_isDigit {c : Char} (hc : c.isDigit = true) (cs : List Char) :
    readYear (c :: cs) = (readDigits 4 (c :: cs)).map fun nr => ((nr.1 : Int), nr.2) := by
  have htrim : trimStart (c :: cs) = c :: cs := by
    rw [trimStart, List.dropWhile_cons, not_isBlank_of_isDigit hc, if_neg Bool.false_ne_true]
  rw [readYear.eq_def, htrim]
  split
  · next heq =>
    obtain ⟨rfl, -⟩ := List.cons.inj heq
    exact absurd hc (by decide)
  · next heq =>
    obtain ⟨rfl, -⟩ := List.cons.inj heq
    exact absurd hc (by decide)
  · rfl

/-- A year is read whatever its sign, up to the mark behind it. -/
theorem readYear_yearText (y : Int) {rest : List Char} (hrest : EndsDigits rest) :
    readYear (yearText y ++ rest) = some (y, rest) := by
  have hsigned : readDigits (padded 4 y.natAbs ++ rest).length (padded 4 y.natAbs ++ rest) =
      some (y.natAbs, rest) := by
    have hlength : (padded 4 y.natAbs).length ≤ (padded 4 y.natAbs ++ rest).length := by
      rw [List.length_append]
      exact Nat.le_add_right _ _
    rw [readDigits_append (padded_ne_nil 4 y.natAbs) (allDigits_padded 4 y.natAbs) hlength hrest,
      ofDigitChars_padded]
  -- Behind a sign all digits are read, and without one no more than four, which the year then has.
  rw [yearText]
  split
  · next hbefore =>
    show (readDigits (padded 4 y.natAbs ++ rest).length (padded 4 y.natAbs ++ rest)).map
      (fun nr => (-(nr.1 : Int), nr.2)) = _
    rw [hsigned, Option.map_some, ← Int.eq_neg_natAbs_of_nonpos (by omega)]
  · split
    · obtain ⟨c, ds, hds⟩ := List.exists_cons_of_ne_nil (padded_ne_nil 4 y.natAbs)
      have hc := List.all_eq_true.1 (allDigits_padded 4 y.natAbs) c (hds ▸ List.mem_cons_self)
      have hyear : y.natAbs < 10 ^ 4 := by omega
      have hread := readDigits_padded (by decide) hyear hrest
      rw [hds, List.cons_append] at hread ⊢
      rw [readYear_of_isDigit hc, hread, Option.map_some, Int.natAbs_of_nonneg (by omega)]
    · show (readDigits (padded 4 y.natAbs ++ rest).length (padded 4 y.natAbs ++ rest)).map
        (fun nr => ((nr.1 : Int), nr.2)) = _
      rw [hsigned, Option.map_some, Int.natAbs_of_nonneg (by omega)]

/-! ## Reading a date -/

/-- A valid date is read back by a reader of its separator. -/
theorem readWith?_written {t : DateTime} (h : t.Valid) (hyear : yearInRange t.year = true)
    {sep : Char} (hsep : sep.isDigit = false) {gap : List Char → Option (List Char)}
    (hgap : ∀ (n : Nat) (rest : List Char), gap (sep :: (padded 2 n ++ rest)) =
      some (padded 2 n ++ rest)) :
    readWith? gap (written sep t) = some t := by
  obtain ⟨hmonth, hday, hhour, hminute, hsecond⟩ := isShort_of_valid h
  have hmark : ∀ (c : Char) (rest : List Char), readMark c (c :: rest) = some rest :=
    fun _ _ => if_pos rfl
  have hdash := fun rest => endsDigits_cons (c := '-') rfl rest
  have hcolon := fun rest => endsDigits_cons (c := ':') rfl rest
  have hlast : readField (padded 2 t.second) = some (t.second, []) := by
    have hread := readField_padded hsecond endsDigits_nil
    rwa [List.append_nil] at hread
  have hfields : ofFields? t.year t.month t.day t.hour t.minute t.second = some t :=
    if_pos ⟨hyear, h⟩
  rw [readWith?, written]
  simp only [List.append_assoc, List.cons_append, Option.bind_eq_bind,
    readYear_yearText t.year (hdash _), Option.bind_some, hmark, readField_padded hmonth (hdash _),
    readField_padded hday (endsDigits_cons hsep _), hgap, readField_padded hhour (hcolon _),
    readField_padded hminute (hcolon _), hlast, if_true, hfields]

/-- A valid date with blanks for its separator. -/
theorem ofText?_text {t : DateTime} (h : t.Valid) (hyear : yearInRange t.year = true) :
    ofText? t.text = some t := by
  rw [ofText?, text, String.toList_ofList]
  refine readWith?_written h hyear rfl fun n rest => ?_
  have hblank : trimStart (' ' :: (padded 2 n ++ rest)) = trimStart (padded 2 n ++ rest) := rfl
  rw [hblank, trimStart_padded]

/-! ## Dates and numerals -/

/-- A whole number is written with digits, behind at most one sign. -/
theorem exists_sign_of_readInt? {cs : List Char} {i : Int} (h : readInt? cs = some i) :
    ∃ sign ds, cs = sign ++ ds ∧ (sign = [] ∨ sign = ['-'] ∨ sign = ['+']) ∧ ds ≠ [] ∧
      allDigits ds = true := by
  have hdigits : ∀ {ds : List Char} {n : Nat}, readDigits? ds = some n →
      ds ≠ [] ∧ allDigits ds = true := by
    intro ds n hread
    rw [readDigits?] at hread
    split at hread
    · assumption
    · cases hread
  rw [readInt?.eq_def] at h
  split at h
  · next ds =>
    cases hn : readDigits? ds with
    | none =>
      rw [hn] at h
      cases h
    | some n => exact ⟨['-'], ds, rfl, .inr (.inl rfl), hdigits hn⟩
  · obtain ⟨n, hn, -⟩ := Option.map_eq_some_iff.1 h
    rw [readNat?.eq_def] at hn
    split at hn
    · exact ⟨['+'], _, rfl, .inr (.inr rfl), hdigits hn⟩
    · exact ⟨[], _, rfl, .inl rfl, hdigits hn⟩

/-- A numeral is no date: it ends with the year. -/
theorem readWith?_of_readInt? {cs : List Char} {i : Int} (h : readInt? cs = some i)
    (gap : List Char → Option (List Char)) : readWith? gap cs = none := by
  obtain ⟨sign, ds, rfl, hsign, hne, hds⟩ := exists_sign_of_readInt? h
  -- After the digits of the year there is another digit or nothing, but no mark.
  have hrest : ∀ {width n r}, readDigits width ds = some (n, r) → readMark '-' r = none := by
    intro width n r hread
    obtain ⟨front, rfl, -⟩ := split_of_readDigits hds hread
    cases r with
    | nil => rfl
    | cons c r =>
      have hc := List.all_eq_true.1 (allDigits_append.1 hds).2 c List.mem_cons_self
      refine if_neg ?_
      rintro rfl
      exact absurd hc (by decide)
  have hyear : ∀ y r, readYear (sign ++ ds) = some (y, r) → readMark '-' r = none := by
    intro y r hread
    rcases hsign with rfl | rfl | rfl
    · rw [List.nil_append, readYear_of_allDigits hds] at hread
      obtain ⟨⟨n, r'⟩, hn, heq⟩ := Option.map_eq_some_iff.1 hread
      obtain ⟨-, rfl⟩ := Prod.mk.inj heq
      exact hrest hn
    · obtain ⟨⟨n, r'⟩, hn, heq⟩ := Option.map_eq_some_iff.1 hread
      obtain ⟨-, rfl⟩ := Prod.mk.inj heq
      exact hrest hn
    · obtain ⟨⟨n, r'⟩, hn, heq⟩ := Option.map_eq_some_iff.1 hread
      obtain ⟨-, rfl⟩ := Prod.mk.inj heq
      exact hrest hn
  rw [readWith?]
  cases hread : readYear (sign ++ ds) with
  | none => rfl
  | some yr =>
    simp only [Option.bind_eq_bind, Option.bind_some, hyear yr.1 yr.2 hread, Option.bind_none]

/-- A date is no numeral: it has a colon. -/
theorem readInt?_trim_text (t : DateTime) : readInt? (trim t.text.toList) = none := by
  rw [Option.eq_none_iff_forall_ne_some]
  intro i hread
  obtain ⟨sign, ds, heq, hsign, -, hds⟩ := exists_sign_of_readInt? hread
  have hcolon : ':' ∈ sign ++ ds := by
    rw [← heq]
    refine mem_trim ?_ (by decide)
    rw [text, String.toList_ofList, written]
    simp
  rcases List.mem_append.1 hcolon with hmem | hmem
  · rcases hsign with rfl | rfl | rfl <;> exact absurd hmem (by decide)
  · exact absurd (List.all_eq_true.1 hds _ hmem) (by decide)

end DateTime

end SchemaMigration.Calendar
