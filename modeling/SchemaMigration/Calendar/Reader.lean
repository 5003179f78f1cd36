import SchemaMigration.Calendar.DateTime
import SchemaMigration.Text.Blank

/-
  Reading dates.

  Every number may have blanks in front and fewer digits than usual, and at
  most the usual width; a year with a sign has no bound on its digits. Where a
  text has a blank, any amount of blanks may stand, also none. The text ends
  after the seconds, and the date must exist.
-/
namespace SchemaMigration.Calendar

open Text

namespace DateTime

/-- At most `width` digits, at least one, and what follows them. -/
def readDigits (width : Nat) (cs : List Char) : Option (Nat × List Char) :=
  let ds := (cs.take width).takeWhile Char.isDigit
  if ds = [] then none else some (Nat.ofDigitChars 10 ds 0, cs.drop ds.length)

/-- A field of at most two digits, blanks in front of it allowed. -/
def readField (cs : List Char) : Option (Nat × List Char) := readDigits 2 (trimStart cs)

/-- A year: at most four digits, or a sign and any number of digits. -/
def readYear (cs : List Char) : Option (Int × List Char) :=
  match trimStart cs with
  | '-' :: r => (readDigits r.length r).map fun nr => (-(nr.1 : Int), nr.2)
  | '+' :: r => (readDigits r.length r).map fun nr => ((nr.1 : Int), nr.2)
  | r => (readDigits 4 r).map fun nr => ((nr.1 : Int), nr.2)

/-- One given character, and what follows it. -/
def readMark (c : Char) : List Char → Option (List Char)
  | d :: r => if d = c then some r else none
  | [] => none

/-- The years that a date can have. -/
def yearInRange (y : Int) : Bool := -262143 ≤ y && y ≤ 262142

/-- The fields as a date, if there is such a date. -/
def ofFields? (year : Int) (month day hour minute second : Nat) : Option DateTime :=
  let t : DateTime := ⟨year, month, day, hour, minute, second⟩
  if yearInRange year ∧ t.Valid then some t else none

/-- `year-month-day hour:minute:second`; `gap` reads what stands between date
and time. -/
def readWith? (gap : List Char → Option (List Char)) (cs : List Char) : Option DateTime := do
  let (year, r) ← readYear cs
  let r ← readMark '-' r
  let (month, r) ← readField r
  let r ← readMark '-' r
  let (day, r) ← readField r
  let r ← gap r
  let (hour, r) ← readField r
  let r ← readMark ':' r
  let (minute, r) ← readField r
  let r ← readMark ':' r
  let (second, r) ← readField r
  if r = [] then ofFields? year month day hour minute second else none

/-- A date and time with blanks between them. -/
def ofText? (s : String) : Option DateTime := readWith? (fun r => some (trimStart r)) s.toList

/-- A date and time with a `T` between them. -/
def ofMarkedText? (s : String) : Option DateTime := readWith? (readMark 'T') s.toList

/-- All fields run together. -/
def ofCompact? (cs : List Char) : Option DateTime := do
  let (year, r) ← readYear cs
  let (month, r) ← readField r
  let (day, r) ← readField r
  let (hour, r) ← readField r
  let (minute, r) ← readField r
  let (second, r) ← readField r
  if r = [] then ofFields? year month day hour minute second else none

end DateTime

end SchemaMigration.Calendar
