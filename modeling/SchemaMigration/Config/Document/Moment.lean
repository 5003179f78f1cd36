import SchemaMigration.Calendar.DateTime
import SchemaMigration.Text.Blank
import SchemaMigration.Text.Find

/-
  Dates and times of documents.

  A date is `year-month-day`, a time is `hour:minute:second` with an optional
  fraction. They stand alone or together, and together an offset from world time
  may follow. The setting is their text with `T` between them, at most nine
  digits of the fraction, and none of the zeros at its end.
-/
namespace SchemaMigration.Config.Document

open Text Calendar

/-- A number of exactly so many digits, with the rest. -/
def readExact? (width : Nat) (cs : List Char) : Option (Nat × List Char) :=
  let ds := cs.take width
  if ds.length = width ∧ allDigits ds then some (Nat.ofDigitChars 10 ds 0, cs.drop width) else none

/-- The text of a date, with the rest. -/
def readDate? (cs : List Char) : Option (List Char × List Char) := do
  let (year, rest) ← readExact? 4 cs
  let (month, rest) ← readExact? 2 (← after? ['-'] rest)
  let (day, rest) ← readExact? 2 (← after? ['-'] rest)
  if 1 ≤ month ∧ month ≤ 12 ∧ 1 ≤ day ∧ day ≤ daysInMonth year month then
    some (padded 4 year ++ '-' :: padded 2 month ++ '-' :: padded 2 day, rest)
  else none

/-- The text of the fraction of a second, with the rest. -/
def readFraction (cs : List Char) : List Char × List Char :=
  match cs with
  | '.' :: rest =>
    let digits := rest.takeWhile Char.isDigit
    let kept := ((digits.take 9).reverse.dropWhile (· == '0')).reverse
    if digits = [] then ([], cs)
    else (if kept = [] then [] else '.' :: kept, rest.drop digits.length)
  | _ => ([], cs)

/-- The text of a time, with the rest. -/
def readTime? (cs : List Char) : Option (List Char × List Char) := do
  let (hour, rest) ← readExact? 2 cs
  let (minute, rest) ← readExact? 2 (← after? [':'] rest)
  let (second, rest) ← readExact? 2 (← after? [':'] rest)
  let (fraction, rest) := readFraction rest
  if hour < 24 ∧ minute < 60 ∧ second ≤ 60 then
    some (padded 2 hour ++ ':' :: padded 2 minute ++ ':' :: padded 2 second ++ fraction, rest)
  else none

/-- The text of an offset, with the rest. An offset of no time has a plus sign. -/
def readOffset? : List Char → Option (List Char × List Char)
  | [] => none
  | c :: cs =>
    if c = 'Z' ∨ c = 'z' then some (['Z'], cs)
    else if c = '+' ∨ c = '-' then do
      let (hour, rest) ← readExact? 2 cs
      let (minute, rest) ← readExact? 2 (← after? [':'] rest)
      let sign := if hour = 0 ∧ minute = 0 then '+' else c
      if hour < 24 ∧ minute < 60 then
        some (sign :: padded 2 hour ++ ':' :: padded 2 minute, rest)
      else none
    else none

/-- The text of a time behind a date, with the rest. -/
def readTimeOfDay? : List Char → Option (List Char × List Char)
  | [] => none
  | c :: cs => do
    let (time, rest) ← if c = 'T' ∨ c = 't' ∨ c = ' ' then readTime? cs else none
    let (offset, rest) := (readOffset? rest).getD ([], rest)
    return (time ++ offset, rest)

/-- The text of a date, a time or both, with the rest. -/
def readMoment? (cs : List Char) : Option (List Char × List Char) :=
  match readDate? cs with
  | none => readTime? cs
  | some (date, rest) =>
    match readTimeOfDay? rest with
    | some (time, rest) => some (date ++ 'T' :: time, rest)
    | none => some (date, rest)

end SchemaMigration.Config.Document
