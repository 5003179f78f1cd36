/-
  Hexadecimal numerals.

  Main statement: the hexadecimal digits written for a number read back as that number.
-/
namespace SchemaMigration.Text

/-- The value of a hexadecimal digit. -/
def hexValue? (c : Char) : Option Nat :=
  if c.isDigit then some (c.toNat - '0'.toNat)
  else if 'a' ≤ c.toLower ∧ c.toLower ≤ 'f' then some (c.toLower.toNat - 'a'.toNat + 10)
  else none

/-- The number that hexadecimal digits stand for. -/
def readHex? (cs : List Char) : Option Nat :=
  cs.foldlM (fun n c => (hexValue? c).map (16 * n + ·)) 0

theorem hexValue?_digitChar {d : Nat} (h : d < 16) : hexValue? d.digitChar = some d := by
  have hall : ∀ d : Fin 16, hexValue? (Nat.digitChar d) = some d.val := by decide
  exact hall ⟨d, h⟩

theorem readHex?_append_digit {cs : List Char} {n d : Nat} (h : readHex? cs = some n)
    (hd : d < 16) : readHex? (cs ++ [d.digitChar]) = some (16 * n + d) := by
  have hfold : readHex? (cs ++ [d.digitChar]) =
      (readHex? cs).bind fun m => (hexValue? d.digitChar).map (16 * m + ·) := by
    rw [readHex?, List.foldlM_append]
    simp [readHex?]
  rw [hfold, h, hexValue?_digitChar hd]
  rfl

theorem readHex?_toDigits (n : Nat) : readHex? (Nat.toDigits 16 n) = some n := by
  induction n using Nat.strongRecOn with
  | _ n ih =>
    by_cases h : n < 16
    · rw [Nat.toDigits_of_lt_base h]
      have hnil : readHex? [] = some 0 := rfl
      simpa using readHex?_append_digit hnil h
    · rw [Nat.toDigits_of_base_le (by decide) (by omega),
        readHex?_append_digit (ih (n / 16) (by omega)) (Nat.mod_lt n (by decide)),
        Nat.div_add_mod]

theorem eq_digitChar_of_mem_toDigits {n : Nat} {c : Char} (h : c ∈ Nat.toDigits 16 n) :
    ∃ d < 16, c = d.digitChar := by
  induction n using Nat.strongRecOn with
  | _ n ih =>
    by_cases hn : n < 16
    · rw [Nat.toDigits_of_lt_base hn, List.mem_singleton] at h
      exact ⟨n, hn, h⟩
    · rw [Nat.toDigits_of_base_le (by decide) (by omega), List.mem_append,
        List.mem_singleton] at h
      rcases h with h | h
      · exact ih (n / 16) (by omega) h
      · exact ⟨n % 16, Nat.mod_lt n (by decide), h⟩

end SchemaMigration.Text
