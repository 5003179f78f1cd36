import Mathlib.Algebra.Group.Nat.Defs
import SchemaMigration.Generation.Version

/-
  A new version is greater than those before it.

  The version that follows another is that of the second after the time that its digits
  make up, if they make up one. All fields of that time but the seconds have their full
  width, so it is at least the number, and its next second is later.

  Main statements: `readInt?_compact`, the version of a time is the number that it is
  written as; `nextVersion_spec`.
-/
namespace SchemaMigration.Generation

open Text Calendar DateTime

/-! ## The text of a version -/

theorem allDigits_append {as bs : List Char} :
    allDigits (as ++ bs) = true ↔ allDigits as = true ∧ allDigits bs = true := by
  rw [allDigits, List.all_append, Bool.and_eq_true]
  rfl

theorem ofDigitChars_append (as bs : List Char) :
    Nat.ofDigitChars 10 (as ++ bs) 0 =
      10 ^ bs.length * Nat.ofDigitChars 10 as 0 + Nat.ofDigitChars 10 bs 0 := by
  rw [Nat.ofDigitChars_append, Nat.ofDigitChars_eq_ofDigitChars_zero]

theorem allDigits_padded (width n : Nat) : allDigits (padded width n) = true := by
  rw [padded, allDigits_append]
  exact ⟨by simp [allDigits], allDigits_digits n⟩

theorem ofDigitChars_padded (width n : Nat) : Nat.ofDigitChars 10 (padded width n) 0 = n := by
  rw [padded, Nat.ofDigitChars_append, Nat.ofDigitChars_replicate_zero, Nat.mul_zero, digits,
    Nat.ofDigitChars_ten_toDigits]

theorem length_padded {width n : Nat} (hwidth : 0 < width) (h : n < 10 ^ width) :
    (padded width n).length = width := by
  have hlength : (digits n).length ≤ width := (Nat.length_toDigits_le_iff (by decide) hwidth).2 h
  rw [padded, List.length_append, List.length_replicate]
  omega

/-- The fields below the year have at most two digits. -/
def IsShort (t : DateTime) : Prop :=
  t.month < 100 ∧ t.day < 100 ∧ t.hour < 100 ∧ t.minute < 100 ∧ t.second < 100

theorem isShort_of_valid {t : DateTime} (h : t.Valid) : IsShort t := by
  obtain ⟨-, hmonth, -, hday, hhour, hminute, hsecond⟩ := h
  have hdays : daysInMonth t.year t.month ≤ 31 := by
    unfold daysInMonth
    (repeat' split) <;> omega
  exact ⟨by omega, by omega, by omega, by omega, by omega⟩

theorem isShort_ofUnix (seconds : Int) : IsShort (ofUnix seconds) := by
  have hsecond : (seconds.fmod 86400).toNat < 86400 := by
    have := Int.fmod_nonneg_of_pos seconds (b := 86400) (by decide)
    have := Int.fmod_lt_of_pos seconds (b := 86400) (by decide)
    omega
  have hday : ((seconds.fdiv 86400 + 719468).fmod 146097).toNat < 146097 := by
    have := Int.fmod_nonneg_of_pos (seconds.fdiv 86400 + 719468) (b := 146097) (by decide)
    have := Int.fmod_lt_of_pos (seconds.fdiv 86400 + 719468) (b := 146097) (by decide)
    omega
  refine ⟨?_, ?_, ?_, ?_, ?_⟩
  · simp only [ofUnix, dateOfDays]; split <;> omega
  · simp only [ofUnix, dateOfDays]; omega
  · simp only [ofUnix]; omega
  · simp only [ofUnix]; omega
  · simp only [ofUnix]; omega

/-- The digits of a time, from the month on. -/
theorem compact_eq (t : DateTime) : compact t = yearText t.year ++ (padded 2 t.month ++
    (padded 2 t.day ++ (padded 2 t.hour ++ (padded 2 t.minute ++ padded 2 t.second)))) := by
  simp [compact]

theorem readDigits?_of_allDigits {cs : List Char} (hne : cs ≠ []) (h : allDigits cs = true) :
    readDigits? cs = some (Nat.ofDigitChars 10 cs 0) := if_pos ⟨hne, h⟩

/-- Digits without a sign are read as a number. -/
theorem readInt?_of_allDigits {cs : List Char} (hne : cs ≠ []) (h : allDigits cs = true) :
    readInt? cs = some (Nat.ofDigitChars 10 cs 0 : Int) := by
  obtain ⟨c, cs, rfl⟩ := List.exists_cons_of_ne_nil hne
  have hc : c.isDigit = true := List.all_eq_true.1 h c List.mem_cons_self
  have hminus : c ≠ '-' := by rintro rfl; exact absurd hc (by decide)
  have hplus : c ≠ '+' := by rintro rfl; exact absurd hc (by decide)
  simp [readInt?, readNat?, hminus, hplus, readDigits?_of_allDigits hne h]

/-- The version of a time is the number that its digits are read as. -/
theorem readInt?_compact {t : DateTime} (h : IsShort t) :
    readInt? (compact t) = some (versionOf t) := by
  obtain ⟨hmonth, hday, hhour, hminute, hsecond⟩ := h
  let tail := padded 2 t.month ++ (padded 2 t.day ++ (padded 2 t.hour ++ (padded 2 t.minute ++
    padded 2 t.second)))
  have hdigits : allDigits (padded 4 t.year.natAbs ++ tail) = true := by
    simp only [tail, allDigits_append, allDigits_padded, and_self]
  have hne : padded 4 t.year.natAbs ++ tail ≠ [] := by
    simp [padded, digits, Nat.toDigits_ne_nil]
  have hvalue : (Nat.ofDigitChars 10 (padded 4 t.year.natAbs ++ tail) 0 : Int) =
      t.year.natAbs * 10000000000 + t.month * 100000000 + t.day * 1000000 + t.hour * 10000 +
        t.minute * 100 + t.second := by
    simp only [tail, ofDigitChars_append, ofDigitChars_padded, List.length_append,
      length_padded Nat.two_pos hmonth, length_padded Nat.two_pos hday,
      length_padded Nat.two_pos hhour, length_padded Nat.two_pos hminute,
      length_padded Nat.two_pos hsecond, Nat.reduceAdd, Nat.reducePow]
    omega
  -- The sign of the year is that of the number.
  rw [compact_eq, versionOf, ← hvalue, yearText]
  split
  · show (readDigits? (padded 4 t.year.natAbs ++ tail)).map (fun n => -(n : Int)) = _
    rw [readDigits?_of_allDigits hne hdigits]
    rfl
  · split
    · exact readInt?_of_allDigits hne hdigits
    · show (readDigits? (padded 4 t.year.natAbs ++ tail)).map Int.ofNat = _
      rw [readDigits?_of_allDigits hne hdigits]
      rfl

/-! ## Reading digits -/

theorem not_isBlank_of_isDigit {c : Char} (h : c.isDigit = true) : isBlank c = false := by
  have hrange : 48 ≤ c.toNat ∧ c.toNat ≤ 57 := by
    rw [Char.isDigit, Bool.and_eq_true, decide_eq_true_eq, decide_eq_true_eq] at h
    exact h
  unfold isBlank
  simp only [Bool.or_eq_false_iff, Bool.and_eq_false_iff, decide_eq_false_iff_not, beq_eq_false_iff_ne]
  omega

theorem trimStart_of_allDigits {cs : List Char} (h : allDigits cs = true) : trimStart cs = cs := by
  cases cs with
  | nil => rfl
  | cons c cs =>
    have hc : c.isDigit = true := List.all_eq_true.1 h c List.mem_cons_self
    rw [trimStart, List.dropWhile_cons, not_isBlank_of_isDigit hc, if_neg Bool.false_ne_true]

/-- A reader of digits takes some of them, and leaves none that it may take. -/
theorem split_of_readDigits {width n : Nat} {cs r : List Char} (h : allDigits cs = true)
    (hread : readDigits width cs = some (n, r)) :
    ∃ ds, cs = ds ++ r ∧ n = Nat.ofDigitChars 10 ds 0 ∧ ds ≠ [] ∧ ds.length ≤ width ∧
      (r ≠ [] → ds.length = width) := by
  have htake : (cs.take width).takeWhile Char.isDigit = cs.take width := by
    rw [← List.append_nil (List.take width cs), List.takeWhile_append_of_pos, List.takeWhile_nil]
    exact fun c hc => List.all_eq_true.1 h c (List.mem_of_mem_take hc)
  rw [readDigits, htake] at hread
  split at hread
  · exact absurd hread (by simp)
  · next hne =>
    simp only [Option.some.injEq, Prod.mk.injEq, List.length_take] at hread
    obtain ⟨rfl, rfl⟩ := hread
    refine ⟨cs.take width, ?_, rfl, hne, List.length_take_le _ _, fun hr => ?_⟩
    · rcases Nat.le_total width cs.length with hle | hle
      · rw [Nat.min_eq_left hle, List.take_append_drop]
      · rw [Nat.min_eq_right hle, List.drop_length, List.take_of_length_le hle, List.append_nil]
    · have hlt := List.length_pos_iff.2 hr
      rw [List.length_drop] at hlt
      rw [List.length_take]
      omega

/-! ## Whole versions -/

/-- A field of two digits. -/
theorem split_of_readField {n : Nat} {cs r : List Char} (h : allDigits cs = true)
    (hread : readField cs = some (n, r)) :
    allDigits r = true ∧ ∃ ds, cs = ds ++ r ∧ n = Nat.ofDigitChars 10 ds 0 ∧ ds ≠ [] ∧
      ds.length ≤ 2 ∧ (r ≠ [] → ds.length = 2) := by
  rw [readField, trimStart_of_allDigits h] at hread
  obtain ⟨ds, rfl, hn⟩ := split_of_readDigits h hread
  exact ⟨(allDigits_append.1 h).2, ds, rfl, hn⟩

theorem readYear_of_allDigits {cs : List Char} (h : allDigits cs = true) :
    readYear cs = (readDigits 4 cs).map fun nr => ((nr.1 : Int), nr.2) := by
  rw [readYear.eq_def, trimStart_of_allDigits h]
  split
  · exact absurd (List.all_eq_true.1 h _ List.mem_cons_self) (by decide)
  · exact absurd (List.all_eq_true.1 h _ List.mem_cons_self) (by decide)
  · rfl

theorem versionOf_of_nonneg {t : DateTime} (h : 0 ≤ t.year) :
    versionOf t = t.year * 10000000000 + t.month * 100000000 + t.day * 1000000 +
      t.hour * 10000 + t.minute * 100 + t.second := by
  rw [versionOf, if_neg (by omega), Int.natAbs_of_nonneg h]

theorem eq_of_ofFields? {y : Int} {mo d hh mi se : Nat} {t : DateTime}
    (h : ofFields? y mo d hh mi se = some t) : t = ⟨y, mo, d, hh, mi, se⟩ ∧ t.Valid := by
  simp only [ofFields?] at h
  split at h
  · next hok =>
    obtain rfl := Option.some.inj h
    exact ⟨rfl, hok.2⟩
  · exact absurd h (by simp)

/-- Digits that make up a time are not more than its version. -/
theorem le_versionOf_of_ofCompact? {cs : List Char} {t : DateTime} (h : allDigits cs = true)
    (hread : ofCompact? cs = some t) :
    t.Valid ∧ 0 ≤ t.year ∧ (Nat.ofDigitChars 10 cs 0 : Int) ≤ versionOf t := by
  simp only [ofCompact?, readYear_of_allDigits h, Option.bind_eq_bind, Option.bind_eq_some_iff,
    Option.map_eq_some_iff, Prod.exists] at hread
  obtain ⟨_, r, ⟨y, _, hy, ⟨⟩⟩, mo, r₁, hmo, d, r₂, hd, hh, r₃, hhh, mi, r₄, hmi, se, r₅, hse, hend⟩ :=
    hread
  split at hend
  · next hnil =>
    subst hnil
    obtain ⟨ys, rfl, rfl, -, -, -⟩ := split_of_readDigits h hy
    obtain ⟨h₁, mos, rfl, rfl, -, -, hmos⟩ := split_of_readField (allDigits_append.1 h).2 hmo
    obtain ⟨h₂, ds, rfl, rfl, hne₂, -, hds⟩ := split_of_readField h₁ hd
    obtain ⟨h₃, hs, rfl, rfl, hne₃, -, hhs⟩ := split_of_readField h₂ hhh
    obtain ⟨h₄, mis, rfl, rfl, hne₄, -, hmis⟩ := split_of_readField h₃ hmi
    obtain ⟨-, ses, rfl, rfl, hne₅, hses, -⟩ := split_of_readField h₄ hse
    obtain ⟨rfl, hvalid⟩ := eq_of_ofFields? hend
    have hpos : 0 < ses.length := List.length_pos_iff.2 hne₅
    -- every field before the seconds has its full width, since another field follows it
    have hmo2 : mos.length = 2 := hmos (by simp [hne₂])
    have hd2 : ds.length = 2 := hds (by simp [hne₃])
    have hh2 : hs.length = 2 := hhs (by simp [hne₄])
    have hmi2 : mis.length = 2 := hmis (by simp [hne₅])
    refine ⟨hvalid, Int.natCast_nonneg _, ?_⟩
    rw [versionOf_of_nonneg (Int.natCast_nonneg _)]
    simp only [ofDigitChars_append, List.length_append, List.append_nil, hmo2, hd2, hh2, hmi2]
    obtain hse1 | hse2 : ses.length = 1 ∨ ses.length = 2 := by omega
    · simp only [hse1, Nat.reduceAdd, Nat.reducePow]
      omega
    · simp only [hse2, Nat.reduceAdd, Nat.reducePow]
      omega
  · exact absurd hend (by simp)

/-! ## The second after -/

/-- The second after is the first one that a field of the time before is less in. -/
theorem versionOf_lt_next {t : DateTime} (h : t.Valid) (hyear : 0 ≤ t.year) :
    versionOf t < versionOf t.next := by
  obtain ⟨-, hmonth, -, hday, hhour, hminute, hsecond⟩ := h
  have hdays : daysInMonth t.year t.month ≤ 31 := by
    unfold daysInMonth
    split
    · split <;> omega
    · split <;> omega
  have hnext : 0 ≤ t.next.year := by
    unfold DateTime.next nextDay
    (repeat' split) <;> simp only <;> omega
  rw [versionOf_of_nonneg hyear, versionOf_of_nonneg hnext]
  unfold DateTime.next nextDay
  (repeat' split) <;> simp only <;> omega

/-! ## Versions -/

/-- The version is the number that the text of a time is read as. -/
def IsNumberOf (t : DateTime) (version : Nat) : Prop := readInt? (compact t) = some (version : Int)

/-- The version after another is the second after its time, as that is written. -/
theorem successor_spec (floor : Nat) : floor < successor floor ∧
    match ofCompact? (digits floor) with
    | some t => IsNumberOf t.next (successor floor)
    | none => successor floor = floor + 1 := by
  rw [successor]
  cases h : ofCompact? (digits floor) with
  | none => exact ⟨Nat.lt_succ_self floor, rfl⟩
  | some t =>
    obtain ⟨hvalid, hyear, hle⟩ := le_versionOf_of_ofCompact? (allDigits_digits floor) h
    rw [digits, Nat.ofDigitChars_ten_toDigits] at hle
    have hlt := versionOf_lt_next hvalid hyear
    have hcast : ((versionOf t.next).toNat : Int) = versionOf t.next :=
      Int.toNat_of_nonneg (by omega)
    refine ⟨?_, (readInt?_compact (isShort_of_valid hvalid.next)).trans (congrArg some hcast.symm)⟩
    show floor < (versionOf t.next).toNat
    omega

/-- A new version is greater than those before it, whatever the clock shows. It is the clock's
time, as that is written, or the version after the last one. -/
theorem nextVersion_spec (floor : Nat) (now : Int) : floor < nextVersion floor now ∧
    (IsNumberOf (ofUnix now) (nextVersion floor now) ∨ nextVersion floor now = successor floor) := by
  rw [nextVersion]
  split
  · exact ⟨(successor_spec floor).1, .inr rfl⟩
  · have hcast : ((versionOf (ofUnix now)).toNat : Int) = versionOf (ofUnix now) :=
      Int.toNat_of_nonneg (by omega)
    exact ⟨by omega,
      .inl ((readInt?_compact (isShort_ofUnix now)).trans (congrArg some hcast.symm))⟩

end SchemaMigration.Generation
