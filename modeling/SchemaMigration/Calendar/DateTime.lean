import SchemaMigration.Text.Numeral

/-
  Civil dates with a time of day, without a zone.

  The second may be 60, a leap second, in any minute. `ofUnix` turns a count of
  seconds into the civil date and time, `next` is the second after, `text` and
  `compact` write a date.

  Main statement: the second after a valid one is valid.
-/
namespace SchemaMigration.Calendar

open Text

/-- A date of the proleptic Gregorian calendar with a time of day. -/
structure DateTime where
  year : Int
  month : Nat
  day : Nat
  hour : Nat
  minute : Nat
  second : Nat
  deriving DecidableEq, Repr

/-- Whether a year has a twenty-ninth of February. -/
def isLeapYear (y : Int) : Bool := y % 4 == 0 && (y % 100 != 0 || y % 400 == 0)

/-- The number of days of a month. -/
def daysInMonth (y : Int) (m : Nat) : Nat :=
  if m = 2 then (if isLeapYear y then 29 else 28)
  else if m = 4 ∨ m = 6 ∨ m = 9 ∨ m = 11 then 30 else 31

namespace DateTime

/-- The date exists and the time is one of a day, a leap second allowed. -/
def Valid (t : DateTime) : Prop :=
  1 ≤ t.month ∧ t.month ≤ 12 ∧ 1 ≤ t.day ∧ t.day ≤ daysInMonth t.year t.month ∧
    t.hour < 24 ∧ t.minute < 60 ∧ t.second ≤ 60

instance (t : DateTime) : Decidable t.Valid := by unfold Valid; infer_instance

/-- The date a number of days after 1970-01-01. Years are counted from March in
cycles of 400 years, so that the leap day is the last of its year. -/
def dateOfDays (days : Int) : Int × Nat × Nat :=
  let z := days + 719468
  let cycle := z.fdiv 146097
  let dayOfCycle := (z.fmod 146097).toNat
  let yearOfCycle :=
    (dayOfCycle - dayOfCycle / 1460 + dayOfCycle / 36524 - dayOfCycle / 146096) / 365
  let dayOfYear := dayOfCycle - (365 * yearOfCycle + yearOfCycle / 4 - yearOfCycle / 100)
  let marchMonth := (5 * dayOfYear + 2) / 153
  let day := dayOfYear - (153 * marchMonth + 2) / 5 + 1
  let month := if marchMonth < 10 then marchMonth + 3 else marchMonth - 9
  let year := cycle * 400 + yearOfCycle + (if month ≤ 2 then 1 else 0)
  (year, month, day)

/-- The date and time a number of seconds after 1970-01-01 00:00:00. -/
def ofUnix (seconds : Int) : DateTime :=
  let date := dateOfDays (seconds.fdiv 86400)
  let s := (seconds.fmod 86400).toNat
  ⟨date.1, date.2.1, date.2.2, s / 3600, s / 60 % 60, s % 60⟩

/-- The first second of the next day. -/
def nextDay (t : DateTime) : DateTime :=
  if t.day < daysInMonth t.year t.month then ⟨t.year, t.month, t.day + 1, 0, 0, 0⟩
  else if t.month < 12 then ⟨t.year, t.month + 1, 1, 0, 0, 0⟩
  else ⟨t.year + 1, 1, 1, 0, 0, 0⟩

/-- The second after, which is never a leap second. -/
def next (t : DateTime) : DateTime :=
  if t.second < 59 then { t with second := t.second + 1 }
  else if t.minute < 59 then { t with minute := t.minute + 1, second := 0 }
  else if t.hour < 23 then { t with hour := t.hour + 1, minute := 0, second := 0 }
  else t.nextDay

theorem one_le_daysInMonth (y : Int) (m : Nat) : 1 ≤ daysInMonth y m := by
  unfold daysInMonth
  split
  · split <;> omega
  · split <;> omega

theorem Valid.next {t : DateTime} (h : t.Valid) : t.next.Valid := by
  obtain ⟨h1, h2, h3, h4, h5, h6, h7⟩ := h
  unfold DateTime.next
  split
  · exact ⟨h1, h2, h3, h4, h5, h6, by show t.second + 1 ≤ 60; omega⟩
  · split
    · exact ⟨h1, h2, h3, h4, h5, by show t.minute + 1 < 60; omega, Nat.zero_le _⟩
    · split
      · exact ⟨h1, h2, h3, h4, by show t.hour + 1 < 24; omega, Nat.zero_lt_succ _, Nat.zero_le _⟩
      · unfold nextDay
        split
        · exact ⟨h1, h2, Nat.le_add_left _ _, by assumption, Nat.zero_lt_succ _,
            Nat.zero_lt_succ _, Nat.zero_le _⟩
        · split
          · exact ⟨Nat.le_add_left _ _, by assumption, Nat.le_refl _, one_le_daysInMonth _ _,
              Nat.zero_lt_succ _, Nat.zero_lt_succ _, Nat.zero_le _⟩
          · exact ⟨Nat.le_refl _, by show 1 ≤ 12; omega, Nat.le_refl _, one_le_daysInMonth _ _,
              Nat.zero_lt_succ _, Nat.zero_lt_succ _, Nat.zero_le _⟩

/-! ## Writing -/

/-- A year has four digits; one outside 0 to 9999 is written with its sign. -/
def yearText (y : Int) : List Char :=
  if y < 0 then '-' :: padded 4 y.natAbs
  else if y ≤ 9999 then padded 4 y.natAbs
  else '+' :: padded 4 y.natAbs

/-- `year-month-day hour:minute:second`, with a chosen separator of date and
time. -/
def written (sep : Char) (t : DateTime) : List Char :=
  yearText t.year ++ '-' :: padded 2 t.month ++ '-' :: padded 2 t.day ++
    sep :: padded 2 t.hour ++ ':' :: padded 2 t.minute ++ ':' :: padded 2 t.second

/-- The text of a date and time, with a blank between them. -/
def text (t : DateTime) : String := String.ofList (written ' ' t)

/-- All fields run together, without separators. -/
def compact (t : DateTime) : List Char :=
  yearText t.year ++ padded 2 t.month ++ padded 2 t.day ++
    padded 2 t.hour ++ padded 2 t.minute ++ padded 2 t.second

end DateTime

end SchemaMigration.Calendar
