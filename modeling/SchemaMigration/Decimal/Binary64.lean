import SchemaMigration.Text.Numeral

/-
  Binary floating point numbers of 64 bits, kept as their bit patterns.

  A finite number is `± m · 2 ^ q`; all arithmetic on it is exact arithmetic on
  `m` and `q`. A decimal is read to the nearest number, a tie to the even one.
-/
namespace SchemaMigration.Decimal

open Text

/-- A binary floating point number of 64 bits, as its bit pattern. -/
structure Binary64 where
  bits : UInt64
  deriving DecidableEq, Repr

namespace Binary64

/-- Whether the sign bit is set. -/
def negative (x : Binary64) : Bool := x.bits.toNat / (1 <<< 63) == 1

/-- The eleven exponent bits. -/
def exponentField (x : Binary64) : Nat := x.bits.toNat / (1 <<< 52) % (1 <<< 11)

/-- The fifty-two fraction bits. -/
def fractionField (x : Binary64) : Nat := x.bits.toNat % (1 <<< 52)

/-- What a bit pattern stands for. -/
inductive Class where
  | nan
  | infinite
  /-- The magnitude `m · 2 ^ q`. -/
  | finite (m : Nat) (q : Int)
  deriving DecidableEq, Repr

/-- The number's class, its sign apart. -/
def classify (x : Binary64) : Class :=
  if x.exponentField = 2047 then
    if x.fractionField = 0 then .infinite else .nan
  else if x.exponentField = 0 then .finite x.fractionField (-1074)
  else .finite (x.fractionField + (1 <<< 52)) ((x.exponentField : Int) - 1075)

/-- A number from its sign, exponent and fraction fields. -/
def ofFields (neg : Bool) (exponent fraction : Nat) : Binary64 :=
  ⟨UInt64.ofNat ((if neg then 1 <<< 63 else 0) + exponent * (1 <<< 52) + fraction)⟩

def infinity (neg : Bool) : Binary64 := ofFields neg 2047 0

def nan : Binary64 := ofFields false 2047 (1 <<< 51)

/-- A ratio rounded to the nearest natural number, a tie to the even one. -/
def roundRatio (num den : Nat) : Nat :=
  let whole := num / den
  let rest := 2 * (num % den)
  if rest < den then whole
  else if den < rest then whole + 1
  else if whole % 2 = 0 then whole else whole + 1

/-- A ratio as numerator and denominator, scaled by a power of `base`. -/
def scaled (base : Nat) (e : Int) (num den : Nat) : Nat × Nat :=
  if 0 ≤ e then (num * base.pow e.toNat, den) else (num, den * base.pow (-e).toNat)

/-- The greatest `k` with `2 ^ k ≤ num / den`. -/
def floorLog2 (num den : Nat) : Int :=
  let k : Int := (num.log2 : Int) - den.log2
  let r := scaled 2 (-k) num den
  if r.1 < r.2 then k - 1 else k

/-- The number nearest to `num / den`, with the given sign. -/
def ofRatio (neg : Bool) (num den : Nat) : Binary64 :=
  if num = 0 then ofFields neg 0 0
  else
    let q := max (floorLog2 num den - 52) (-1074)
    let r := scaled 2 (-q) num den
    let m := roundRatio r.1 r.2
    let (m, q) := if m = 1 <<< 53 then (1 <<< 52, q + 1) else (m, q)
    if m < 1 <<< 52 then ofFields neg 0 m
    else if 971 < q then infinity neg
    else ofFields neg (q + 1075).toNat (m - (1 <<< 52))

/-- The number nearest to `d · 10 ^ p`, with the given sign. Magnitudes far out
of range are decided without computing the power. -/
def ofDecimal (neg : Bool) (d : Nat) (p : Int) : Binary64 :=
  if d = 0 ∨ p + (digits d).length < -400 then ofFields neg 0 0
  else if 400 < p + (digits d).length then infinity neg
  else
    let r := scaled 10 p d 1
    ofRatio neg r.1 r.2

/-- The number without its fraction, held to the range of 64 bits with a sign;
what is not a number is zero. -/
def truncated (x : Binary64) : Int :=
  match x.classify with
  | .nan => 0
  | .infinite => if x.negative then minInt64 else maxInt64
  | .finite m q =>
    let r := scaled 2 q m 1
    let n : Int := r.1 / r.2
    if x.negative then max (-n) minInt64 else min n maxInt64

/-- The natural number nearest to the number, the greater of two, held to the range
of 64 bits; below zero and for what is not a number it is zero. -/
def rounded (x : Binary64) : Nat :=
  if x.negative then 0
  else match x.classify with
    | .nan => 0
    | .infinite => UInt64.size - 1
    | .finite m q =>
      let r := scaled 2 q m 1
      min ((2 * r.1 + r.2) / (2 * r.2)) (UInt64.size - 1)

/-- An exponent mark with its optional sign and at least one digit. -/
def readExponent? : List Char → Option Int
  | [] => some 0
  | c :: cs => if c = 'e' ∨ c = 'E' then readInt? cs else none

/-- Digits with an optional point, at least one digit, and an optional
exponent: the digits as one number, and the power of ten it is scaled by. -/
def readScientific? (cs : List Char) : Option (Nat × Int) :=
  let whole := cs.takeWhile Char.isDigit
  let rest := cs.dropWhile Char.isDigit
  let (fraction, rest) : List Char × List Char := match rest with
    | '.' :: r => (r.takeWhile Char.isDigit, r.dropWhile Char.isDigit)
    | r => ([], r)
  if whole = [] ∧ fraction = [] then none
  else (readExponent? rest).map fun e =>
    (Nat.ofDigitChars 10 (whole ++ fraction) 0, e - fraction.length)

/-- The number that a text without sign stands for. -/
def readUnsigned? (neg : Bool) (cs : List Char) : Option Binary64 :=
  let lower := cs.map Char.toLower
  if lower = "inf".toList ∨ lower = "infinity".toList then some (infinity neg)
  else if lower = "nan".toList then some nan
  else (readScientific? cs).map fun dp => ofDecimal neg dp.1 dp.2

/-- The number nearest to what a decimal text says; `none` if the text is no
decimal. -/
def ofText? (s : String) : Option Binary64 :=
  match s.toList with
  | '-' :: cs => readUnsigned? true cs
  | '+' :: cs => readUnsigned? false cs
  | cs => readUnsigned? false cs

end Binary64

end SchemaMigration.Decimal
