import SchemaMigration.Migration.FileName
import SchemaMigration.Proofs.VersionOrder

/-
  Filenames of artifacts and what they are read as.

  A filename is read exactly if it has the form of an artifact's: fourteen ASCII digits, an
  underscore, a name and the ending. The form itself admits the digits of all scripts, but
  a version of other digits is no number, and that is an error of its own.

  Fourteen digits are the number that they stand for, padded to fourteen digits. So leading
  zeros come back, and what is read gives the filename again. In the other direction a
  version below ten to the fourteenth and a name are read from the filename that they make
  up, whatever digits and underscores the name has.

  Main statements: `ofFilename_eq_ok_iff`, what is read; `ofFilename_format` and
  `format_of_ofFilename`, reading and writing undo each other.
-/
namespace SchemaMigration.Migration

open Text Generation

/-! ## The form of a filename -/

/-- Fourteen digits, an underscore, a name and the ending. -/
def HasForm (digit : Char → Bool) (filename : String) : Prop :=
  ∃ version name : List Char, filename.toList = version ++ '_' :: (name ++ extension) ∧
    version.length = 14 ∧ (∀ c ∈ version, digit c = true) ∧ name ≠ [] ∧
      ∀ c ∈ name, isNameChar c = true

/-- The filename is one of an artifact. -/
def IsArtifactName (filename : String) : Prop := HasForm Char.isDigit filename

theorem stem?_eq_some_iff {cs stem : List Char} :
    stem? cs = some stem ↔ cs = stem ++ extension := by
  rw [stem?]
  constructor
  · intro h
    split at h
    · next hending =>
      obtain ⟨as, rfl⟩ := List.isSuffixOf_iff_suffix.1 hending
      rw [← Option.some.inj h, List.length_append, Nat.add_sub_cancel, List.take_left]
    · cases h
  · rintro rfl
    rw [if_pos (List.isSuffixOf_iff_suffix.2 (List.suffix_append stem extension)),
      List.length_append, Nat.add_sub_cancel, List.take_left]

/-- The parts of an artifact's filename. -/
theorem splitFilename?_eq_some_iff {cs version name : List Char} :
    splitFilename? cs = some (version, name) ↔
      cs = version ++ '_' :: (name ++ extension) ∧ version.length = 14 ∧
        (∀ c ∈ version, isDecimalDigit c = true) ∧ name ≠ [] ∧
          ∀ c ∈ name, isNameChar c = true := by
  simp only [splitFilename?]
  constructor
  · intro h
    split at h
    · next rest hrest =>
      have hlength : (cs.take 14).length = 14 := by
        have := congrArg List.length hrest
        rw [List.length_drop, List.length_cons] at this
        rw [List.length_take]
        omega
      split at h
      · next stem hstem =>
        split at h
        · next hall =>
          cases h
          refine ⟨?_, hlength, List.all_eq_true.1 hall.1, hall.2.1, List.all_eq_true.1 hall.2.2⟩
          rw [← stem?_eq_some_iff.1 hstem, ← hrest, List.take_append_drop]
        · cases h
      · cases h
    · cases h
  · intro h
    obtain ⟨rfl, hlength, hversion, hne, hname⟩ := h
    simp only [List.take_left' hlength, List.drop_left' hlength, stem?_eq_some_iff.2 rfl]
    rw [if_pos ⟨List.all_eq_true.2 hversion, hne, List.all_eq_true.2 hname⟩]

theorem isDecimalDigit_of_isDigit {c : Char} (h : c.isDigit = true) : isDecimalDigit c = true := by
  rw [isDecimalDigit, h, Bool.true_or]

/-- What a filename is read as. -/
theorem ofFilename_eq_ok_iff {filename : String} {f : MigrationFile} :
    MigrationFile.ofFilename filename = .ok f ↔
      ∃ version name : List Char, filename.toList = version ++ '_' :: (name ++ extension) ∧
        version.length = 14 ∧ allDigits version = true ∧ name ≠ [] ∧
          (∀ c ∈ name, isNameChar c = true) ∧
          f = ⟨filename, Nat.ofDigitChars 10 version 0, String.ofList name, none⟩ := by
  rw [MigrationFile.ofFilename]
  constructor
  · intro h
    split at h
    · cases h
    · next version name hsplit =>
      obtain ⟨htext, hlength, -, hne, hname⟩ := splitFilename?_eq_some_iff.1 hsplit
      split at h
      · cases h
      · next n hread =>
        rw [readDigits?] at hread
        split at hread
        · next hdigits =>
          obtain rfl := Option.some.inj hread
          exact ⟨version, name, htext, hlength, hdigits.2, hne, hname, (Except.ok.inj h).symm⟩
        · cases hread
  · intro h
    obtain ⟨version, name, htext, hlength, hdigits, hne, hname, rfl⟩ := h
    -- The pattern allows digits of any script, and the version is read from some of them.
    have hdecimal : ∀ c ∈ version, isDecimalDigit c = true :=
      fun c hc => isDecimalDigit_of_isDigit (List.all_eq_true.1 hdigits c hc)
    have hversion : version ≠ [] := List.ne_nil_of_length_pos (by omega)
    rw [splitFilename?_eq_some_iff.2 ⟨htext, hlength, hdecimal, hne, hname⟩]
    simp only [readDigits?_of_allDigits hversion hdigits]

/-- The filename of an artifact is its version in fourteen digits, and more. -/
theorem toList_of_ofFilename {filename : String} {f : MigrationFile}
    (h : MigrationFile.ofFilename filename = .ok f) :
    ∃ ds name, filename.toList = ds ++ '_' :: (name ++ extension) ∧ ds.length = 14 ∧
      allDigits ds = true ∧ (∀ c ∈ name, isNameChar c = true) ∧
      f.version = Nat.ofDigitChars 10 ds 0 := by
  obtain ⟨version, name, htext, hlength, hdigits, -, hname, rfl⟩ := ofFilename_eq_ok_iff.1 h
  exact ⟨version, name, htext, hlength, hdigits, hname, rfl⟩

theorem ofFilename_eq_ok {filename : String} {f : MigrationFile}
    (h : MigrationFile.ofFilename filename = .ok f) : f.filename = filename ∧ f.path = none := by
  obtain ⟨version, name, -, -, -, -, -, rfl⟩ := ofFilename_eq_ok_iff.1 h
  exact ⟨rfl, rfl⟩

/-- The filenames of artifacts are those that are read. -/
theorem exists_ofFilename_iff {filename : String} :
    (∃ f, MigrationFile.ofFilename filename = .ok f) ↔ IsArtifactName filename := by
  constructor
  · intro h
    obtain ⟨f, hf⟩ := h
    obtain ⟨version, name, htext, hlength, hdigits, hne, hname, -⟩ := ofFilename_eq_ok_iff.1 hf
    exact ⟨version, name, htext, hlength, List.all_eq_true.1 hdigits, hne, hname⟩
  · intro h
    obtain ⟨version, name, htext, hlength, hdigits, hne, hname⟩ := h
    exact ⟨_, ofFilename_eq_ok_iff.2
      ⟨version, name, htext, hlength, List.all_eq_true.2 hdigits, hne, hname, rfl⟩⟩

/-- A filename of the form is refused for its digits, any other for its form. -/
theorem ofFilename_eq_error {filename : String} (h : ¬IsArtifactName filename) :
    (HasForm isDecimalDigit filename ∧
        MigrationFile.ofFilename filename = .error (.foreignDigits filename)) ∨
      ¬HasForm isDecimalDigit filename ∧
        MigrationFile.ofFilename filename = .error (.form filename) := by
  cases hread : MigrationFile.ofFilename filename with
  | ok f => exact absurd (exists_ofFilename_iff.1 ⟨f, hread⟩) h
  | error e =>
    rw [MigrationFile.ofFilename] at hread
    split at hread
    · next hsplit =>
      refine .inr ⟨fun hform => ?_, hread.symm ▸ rfl⟩
      obtain ⟨version, name, hparts⟩ := hform
      rw [splitFilename?_eq_some_iff.2 hparts] at hsplit
      cases hsplit
    · next version name hsplit =>
      refine .inl ⟨⟨version, name, splitFilename?_eq_some_iff.1 hsplit⟩, ?_⟩
      split at hread
      · exact hread.symm ▸ rfl
      · cases hread

/-! ## Versions -/

theorem toNat_of_isDigit {c : Char} (h : c.isDigit = true) :
    c.toNat - '0'.toNat < 10 ∧ c.toNat = '0'.toNat + (c.toNat - '0'.toNat) := by
  have hzero : '0'.toNat = 48 := rfl
  have hrange : 48 ≤ c.toNat ∧ c.toNat ≤ 57 := by
    rw [Char.isDigit, Bool.and_eq_true, decide_eq_true_eq, decide_eq_true_eq] at h
    exact h
  omega

theorem ofDigitChars_cons (c : Char) (cs : List Char) :
    Nat.ofDigitChars 10 (c :: cs) 0 =
      10 ^ cs.length * (c.toNat - '0'.toNat) + Nat.ofDigitChars 10 cs 0 := by
  rw [Nat.ofDigitChars_cons, Nat.ofDigitChars_eq_ofDigitChars_zero, Nat.mul_zero, Nat.zero_add]

theorem allDigits_cons {c : Char} {cs : List Char} :
    allDigits (c :: cs) = true ↔ c.isDigit = true ∧ allDigits cs = true := by
  rw [allDigits, List.all_cons, Bool.and_eq_true]
  rfl

theorem ofDigitChars_lt_pow {cs : List Char} (h : allDigits cs = true) :
    Nat.ofDigitChars 10 cs 0 < 10 ^ cs.length := by
  induction cs with
  | nil => simp
  | cons c cs ih =>
    obtain ⟨hc, hcs⟩ := allDigits_cons.1 h
    have hdigit : c.toNat - '0'.toNat ≤ 9 := Nat.le_of_lt_succ (toNat_of_isDigit hc).1
    calc Nat.ofDigitChars 10 (c :: cs) 0
        = 10 ^ cs.length * (c.toNat - '0'.toNat) + Nat.ofDigitChars 10 cs 0 :=
          ofDigitChars_cons c cs
      _ < 10 ^ cs.length * 9 + 10 ^ cs.length :=
          Nat.add_lt_add_of_le_of_lt (Nat.mul_le_mul_left _ hdigit) (ih hcs)
      _ = 10 ^ (c :: cs).length := by rw [List.length_cons, Nat.pow_succ]; omega

/-- Of two numbers with as many digits the first digits decide, and where they are the same the
others. -/
theorem ofDigitChars_cons_le_iff {a b : Char} {as bs : List Char} (hlength : as.length = bs.length)
    (has : allDigits (a :: as) = true) (hbs : allDigits (b :: bs) = true) :
    Nat.ofDigitChars 10 (a :: as) 0 ≤ Nat.ofDigitChars 10 (b :: bs) 0 ↔
      a < b ∨ a = b ∧ Nat.ofDigitChars 10 as 0 ≤ Nat.ofDigitChars 10 bs 0 := by
  obtain ⟨ha, has⟩ := allDigits_cons.1 has
  obtain ⟨hb, hbs⟩ := allDigits_cons.1 hbs
  obtain ⟨-, hav⟩ := toNat_of_isDigit ha
  obtain ⟨-, hbv⟩ := toNat_of_isDigit hb
  have hrest := ofDigitChars_lt_pow has
  have hrest' := ofDigitChars_lt_pow hbs
  rw [hlength] at hrest
  rw [ofDigitChars_cons, ofDigitChars_cons, hlength]
  -- A greater first digit outweighs all that follow.
  rcases Nat.lt_trichotomy (a.toNat - '0'.toNat) (b.toNat - '0'.toNat) with hlt | heq | hgt
  · have hmul := Nat.mul_le_mul_left (10 ^ bs.length) hlt
    rw [Nat.mul_succ] at hmul
    exact iff_of_true (by omega) (.inl (show a.toNat < b.toNat by omega))
  · obtain rfl : a = b := Char.toNat_inj.1 (by omega)
    rw [Nat.add_le_add_iff_left, or_iff_right (Char.lt_irrefl a), and_iff_right rfl]
  · have hmul := Nat.mul_le_mul_left (10 ^ bs.length) hgt
    rw [Nat.mul_succ] at hmul
    refine iff_of_false (by omega) ?_
    rintro (hlt | ⟨rfl, -⟩)
    · have hlt : a.toNat < b.toNat := hlt
      omega
    · exact absurd hgt (Nat.lt_irrefl _)

/-- As many digits stand for each number once. -/
theorem eq_of_ofDigitChars_eq {as bs : List Char} (hlength : as.length = bs.length)
    (has : allDigits as = true) (hbs : allDigits bs = true)
    (h : Nat.ofDigitChars 10 as 0 = Nat.ofDigitChars 10 bs 0) : as = bs := by
  induction as generalizing bs with
  | nil => exact (List.eq_nil_of_length_eq_zero hlength.symm).symm
  | cons a as ih =>
    cases bs with
    | nil => cases hlength
    | cons b bs =>
      have hlen : as.length = bs.length := Nat.succ.inj hlength
      have hle := (ofDigitChars_cons_le_iff hlen has hbs).1 (Nat.le_of_eq h)
      have hge := (ofDigitChars_cons_le_iff hlen.symm hbs has).1 (Nat.le_of_eq h.symm)
      rcases hle with hlt | ⟨rfl, hle⟩
      · rcases hge with hgt | ⟨rfl, -⟩
        · exact absurd hgt (Char.lt_asymm hlt)
        · exact absurd hlt (Char.lt_irrefl _)
      · obtain ⟨-, hge⟩ := hge.resolve_left (Char.lt_irrefl _)
        rw [ih hlen (allDigits_cons.1 has).2 (allDigits_cons.1 hbs).2 (Nat.le_antisymm hle hge)]

/-- Digits are the number that they stand for, padded to their width. -/
theorem padded_ofDigitChars {ds : List Char} (hne : ds ≠ []) (h : allDigits ds = true) :
    padded ds.length (Nat.ofDigitChars 10 ds 0) = ds := by
  apply eq_of_ofDigitChars_eq
  · exact length_padded (List.length_pos_iff.2 hne) (ofDigitChars_lt_pow h)
  · exact allDigits_padded _ _
  · exact h
  · exact ofDigitChars_padded _ _

/-! ## Reading and writing -/

theorem toList_format (version : Nat) (name : String) :
    (MigrationFile.format version name).toList =
      padded 14 version ++ '_' :: (name.toList ++ extension) := by
  simp [MigrationFile.format]

/-- A version of fourteen digits and a name are read from the filename that they make up. -/
theorem ofFilename_format {version : Nat} {name : String} (hversion : version < 10 ^ 14)
    (hne : name.toList ≠ []) (hname : ∀ c ∈ name.toList, isNameChar c = true) :
    MigrationFile.ofFilename (MigrationFile.format version name) =
      .ok ⟨MigrationFile.format version name, version, name, none⟩ := by
  refine ofFilename_eq_ok_iff.2 ⟨padded 14 version, name.toList, toList_format version name,
    length_padded (by decide) hversion, allDigits_padded 14 version, hne, hname, ?_⟩
  rw [ofDigitChars_padded, String.ofList_toList]

/-- What is read from a filename makes it up. -/
theorem format_of_ofFilename {filename : String} {f : MigrationFile}
    (h : MigrationFile.ofFilename filename = .ok f) :
    f.version < 10 ^ 14 ∧ MigrationFile.format f.version f.name = filename := by
  obtain ⟨version, name, htext, hlength, hdigits, -, -, rfl⟩ := ofFilename_eq_ok_iff.1 h
  have hne : version ≠ [] := List.ne_nil_of_length_pos (by omega)
  have hpadded : padded 14 (Nat.ofDigitChars 10 version 0) = version :=
    hlength ▸ padded_ofDigitChars hne hdigits
  constructor
  · exact hlength ▸ ofDigitChars_lt_pow hdigits
  · apply String.toList_injective
    rw [toList_format, hpadded, htext, String.toList_ofList]

end SchemaMigration.Migration
