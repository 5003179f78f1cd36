/-
  Decimal numerals.

  `readDigits?` reads a non-empty run of ASCII digits, `readNat?` also takes one
  plus sign in front, `readInt?` either sign. The bounded readers refuse what
  their word cannot hold. Nothing but digits and the sign is accepted: no blank,
  no underscore, no other script's digits.

  Main statement: the digits written for a number read back as that number.
-/
namespace SchemaMigration.Text

/-- The decimal digits of a number, without leading zeros. -/
def digits (n : Nat) : List Char := Nat.toDigits 10 n

/-- A number padded with zeros to a width. -/
def padded (width n : Nat) : List Char :=
  List.replicate (width - (digits n).length) '0' ++ digits n

/-- Whether every character is an ASCII digit. -/
def allDigits (cs : List Char) : Bool := cs.all Char.isDigit

/-- The number that a non-empty run of ASCII digits stands for. -/
def readDigits? (cs : List Char) : Option Nat :=
  if cs ≠ [] ∧ allDigits cs then some (Nat.ofDigitChars 10 cs 0) else none

/-- A numeral that may start with a plus sign. -/
def readNat? : List Char → Option Nat
  | '+' :: cs => readDigits? cs
  | cs => readDigits? cs

/-- A numeral that may start with a sign. -/
def readInt? : List Char → Option Int
  | '-' :: cs => (readDigits? cs).map (fun n => -(n : Int))
  | cs => (readNat? cs).map Int.ofNat

/-- A numeral below `2 ^ 32`. -/
def readUInt32? (cs : List Char) : Option UInt32 :=
  (readNat? cs).bind fun n => if n < UInt32.size then some (UInt32.ofNat n) else none

/-- A numeral below `2 ^ 64`. -/
def readNat64? (cs : List Char) : Option Nat := (readNat? cs).filter (· < UInt64.size)

/-- The least signed number of 64 bits, `-2 ^ 63`. -/
def minInt64 : Int := -9223372036854775808

/-- The greatest signed number of 64 bits, `2 ^ 63 - 1`. -/
def maxInt64 : Int := 9223372036854775807

/-- A signed numeral of 64 bits. -/
def readInt64? (cs : List Char) : Option Int :=
  (readInt? cs).filter fun i => minInt64 ≤ i ∧ i ≤ maxInt64

theorem allDigits_digits (n : Nat) : allDigits (digits n) = true := by
  rw [allDigits, List.all_eq_true]
  exact fun c hc => Nat.isDigit_of_mem_toDigits (by decide) (by decide) hc

theorem isDigit_of_mem_digits {n : Nat} {c : Char} (h : c ∈ digits n) : c.isDigit = true :=
  List.all_eq_true.1 (allDigits_digits n) c h

theorem readDigits?_digits (n : Nat) : readDigits? (digits n) = some n := by
  rw [readDigits?, if_pos ⟨Nat.toDigits_ne_nil, allDigits_digits n⟩, digits,
    Nat.ofDigitChars_ten_toDigits]

theorem readNat?_digits (n : Nat) : readNat? (digits n) = some n := by
  rw [readNat?.eq_def]
  split
  · rename_i cs heq
    have : ('+' : Char).isDigit = true := isDigit_of_mem_digits (heq ▸ List.mem_cons_self)
    exact absurd this (by decide)
  · exact readDigits?_digits n

theorem readUInt32?_digits (n : UInt32) : readUInt32? (digits n.toNat) = some n := by
  rw [readUInt32?, readNat?_digits, Option.bind_some, if_pos n.toNat_lt, UInt32.ofNat_toNat]

/-! ## Strings -/

/-- The decimal text of a natural number. -/
def natText (n : Nat) : String := String.ofList (digits n)

/-- The decimal text of an integer, with a minus sign below zero. -/
def intText (i : Int) : String :=
  if i < 0 then "-" ++ natText i.natAbs else natText i.natAbs

end SchemaMigration.Text
