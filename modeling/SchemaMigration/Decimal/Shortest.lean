import SchemaMigration.Decimal.Binary64

/-
  The shortest decimal text of a binary floating point number.

  The digits are the fewest that read back as the number, and of those the
  nearest to it; of two equally near ones the greater. They are written
  positionally, never with an exponent, and without a point when whole.
-/
namespace SchemaMigration.Decimal

open Text

namespace Binary64

/-- The `e` with `10 ^ (e - 1) ≤ num / den < 10 ^ e`, for a positive ratio. -/
def decimalPlaces (num den : Nat) : Int :=
  if den ≤ num then ((digits (num / den)).length : Int)
  else 1 - (digits ((den - 1) / num)).length

/-- Whether `num / den` reads as `m · 2 ^ q`: it lies between the midpoints to
the neighbours, the midpoints included when `m` is even. Below a power of two
the spacing halves. -/
def readsAs (m : Nat) (q : Int) (num den : Nat) : Bool :=
  let low := if m = 1 <<< 52 ∧ q ≠ -1074 then 4 * m - 1 else 4 * m - 2
  let high := 4 * m + 2
  -- compare `num / den` with `low · 2 ^ (q - 2)` and `high · 2 ^ (q - 2)`
  let r := scaled 2 (2 - q) num den
  if m % 2 = 0 then low * r.2 ≤ r.1 && r.1 ≤ high * r.2
  else low * r.2 < r.1 && r.1 < high * r.2

/-- The decimal of `k` digits nearest to `m · 2 ^ q` among the two around it
that read back, as digits and the power of ten they are scaled by. -/
def withDigits? (m : Nat) (q : Int) (k : Nat) : Option (Nat × Int) :=
  let v := scaled 2 q m 1
  let p := decimalPlaces v.1 v.2 - k
  let r := scaled 10 (-p) v.1 v.2
  let below := r.1 / r.2
  let hit (d : Nat) : Bool := let s := scaled 10 p d 1; readsAs m q s.1 s.2
  match hit below, hit (below + 1) with
  | true, true => some (if 2 * (r.1 % r.2) < r.2 then below else below + 1, p)
  | true, false => some (below, p)
  | false, true => some (below + 1, p)
  | false, false => none

/-- The shortest digits of a positive number: seventeen always suffice. -/
def shortest (m : Nat) (q : Int) : Nat × Int :=
  ((List.range 17).findSome? fun k => withDigits? m q (k + 1)).getD (0, 0)

/-- Digits scaled by a power of ten, written positionally. -/
def positional (d : Nat) (p : Int) : List Char :=
  let ds := digits d
  if 0 ≤ p then ds ++ List.replicate p.toNat '0'
  else
    let places := (-p).toNat
    let ds := List.replicate (places + 1 - ds.length) '0' ++ ds
    ds.take (ds.length - places) ++ '.' :: ds.drop (ds.length - places)

/-- Digits without the zeros they end with, the power of ten adjusted. The fuel
is the number of digits that may go. -/
def dropZeros : Nat → Nat → Int → Nat × Int
  | 0, d, p => (d, p)
  | fuel + 1, d, p => if d % 10 = 0 ∧ d ≠ 0 then dropZeros fuel (d / 10) (p + 1) else (d, p)

/-- The decimal text of a number. -/
def text (x : Binary64) : String :=
  let sign := if x.negative then "-" else ""
  match x.classify with
  | .nan => "NaN"
  | .infinite => sign ++ "inf"
  | .finite m q =>
    if m = 0 then sign ++ "0"
    else
      let dp := shortest m q
      let dp := dropZeros 20 dp.1 dp.2
      sign ++ String.ofList (positional dp.1 dp.2)

end Binary64

end SchemaMigration.Decimal
