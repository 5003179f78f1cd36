import SchemaMigration.Calendar.Reader

/-
  Versions of artifacts.

  A version is the time of generation, its digits run together. When the clock
  does not pass what was issued or found before, the version is that of the
  second after it, or simply one more where it is no time.
-/
namespace SchemaMigration.Generation

open Text Calendar

/-- The number that the digits of a time make up, negative with its year. -/
def versionOf (t : DateTime) : Int :=
  let magnitude : Int := t.year.natAbs * 10000000000 + t.month * 100000000 + t.day * 1000000 +
    t.hour * 10000 + t.minute * 100 + t.second
  if t.year < 0 then -magnitude else magnitude

/-- The version that follows another when the clock is of no help. -/
def successor (floor : Nat) : Nat :=
  match DateTime.ofCompact? (digits floor) with
  | some t => (versionOf t.next).toNat
  | none => floor + 1

/-- The version of an artifact generated at a time, given the greatest one
before it. -/
def nextVersion (floor : Nat) (now : Int) : Nat :=
  let version := versionOf (DateTime.ofUnix now)
  if version ≤ floor then successor floor else version.toNat

end SchemaMigration.Generation
