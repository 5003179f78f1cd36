import SchemaMigration.Config.Setting
import SchemaMigration.Text.Cut

/-
  Numbers of documents.

  An integer has 64 bits with a sign and may be written in hexadecimal, octal
  and binary digits. A decimal has a fraction, an exponent or both; one that is
  too large is no number, while one that is too far below zero is minus infinity.
  Single underscores may stand between digits.
-/
namespace SchemaMigration.Config.Document

open Text Decimal

/-- Digits without the single underscores between them. -/
def joinedDigits? (isDigit : Char → Bool) (cs : List Char) : Option (List Char) :=
  let groups := pieces (· == '_') cs
  if groups.all (fun g => !g.isEmpty && g.all isDigit) then some groups.flatten else none

/-- Decimal digits that have no needless zero in front. -/
def wholeDigits? (cs : List Char) : Option (List Char) :=
  (joinedDigits? Char.isDigit cs).filter fun ds => ds.length == 1 || ds.head? != some '0'

/-- The number that digits of a base stand for. -/
def ofBase? (base : Nat) (cs : List Char) : Option Nat :=
  let value (c : Char) : Nat :=
    if c.isDigit then c.toNat - '0'.toNat
    else if c.isAlpha then c.toLower.toNat - 'a'.toNat + 10
    else base
  (joinedDigits? (fun c => value c < base) cs).map
    (·.foldl (fun n c => base * n + value c) 0)

/-- A sign, and what follows it. -/
def splitSign : List Char → List Char × List Char
  | '+' :: cs => (['+'], cs)
  | '-' :: cs => (['-'], cs)
  | cs => ([], cs)

/-- The integer that a word stands for. -/
def readInteger? (cs : List Char) : Option Int :=
  let number : Option Int := match cs with
    | '0' :: 'x' :: ds => (ofBase? 16 ds).map Int.ofNat
    | '0' :: 'o' :: ds => (ofBase? 8 ds).map Int.ofNat
    | '0' :: 'b' :: ds => (ofBase? 2 ds).map Int.ofNat
    | _ =>
      let (sign, ds) := splitSign cs
      (wholeDigits? ds).bind fun ds => readInt? (sign ++ ds)
  number.filter fun i => minInt64 ≤ i ∧ i ≤ maxInt64

/-- Digits with a fraction, without underscores. -/
def plainFraction? (cs : List Char) : Option (List Char) := do
  let (whole, fraction) ← cutAt (· == '.') cs
  return (← wholeDigits? whole) ++ '.' :: (← joinedDigits? Char.isDigit fraction)

/-- An unsigned decimal without its underscores: digits with a fraction, an
exponent or both. -/
def plainDecimal? (cs : List Char) : Option (List Char) :=
  match cutAt (fun c => c == 'e' || c == 'E') cs with
  | none => plainFraction? cs
  | some (mantissa, exponent) => do
    let plain ← (plainFraction? mantissa).or (wholeDigits? mantissa)
    let (sign, ds) := splitSign exponent
    return plain ++ 'e' :: sign ++ (← joinedDigits? Char.isDigit ds)

/-- The decimal that a word stands for. -/
def readDecimal? (cs : List Char) : Option Binary64 := do
  let (sign, rest) := splitSign cs
  if rest = "inf".toList ∨ rest = "nan".toList then Binary64.ofText? (String.ofList cs)
  else
    let x ← Binary64.ofText? (String.ofList (sign ++ (← plainDecimal? rest)))
    if x = Binary64.infinity false then none else some x

/-- What a word stands for that is no string. -/
def readWord? (cs : List Char) : Option Setting :=
  if cs = "true".toList then some (.truth true)
  else if cs = "false".toList then some (.truth false)
  else ((readInteger? cs).map .integer).or ((readDecimal? cs).map .number)

end SchemaMigration.Config.Document
