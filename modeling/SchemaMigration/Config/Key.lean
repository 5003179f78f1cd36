import SchemaMigration.Text.Blank
import SchemaMigration.Text.Numeral

/-
  Keys of settings.

  A key is a name, or a path to a part of a setting: a name with steps `.name`
  and `[number]` behind it. A text of another form is a name as a whole. Names
  count without regard to letter case, while the name that a path starts with
  counts as it is written.
-/
namespace SchemaMigration.Config

open Text

namespace Key

/-- The characters of the names in a path: ASCII letters and digits, the space and
the two dashes. -/
def isNameChar (c : Char) : Bool := c.isAlphanum || c == ' ' || c == '_' || c == '-'

/-- A character in lower case, as far as that is an ASCII letter; the lower case
of the Kelvin sign is a plain `k`. -/
def lowerCase (c : Char) : Char := if c.toNat = 0x212A then 'k' else c.toLower

/-- A name in lower case. -/
def lowerName (name : String) : String := String.ofList (name.toList.map lowerCase)

/-- A number with an optional minus sign, in 64 bits. -/
def isPosition (cs : List Char) : Bool := cs.head? != some '+' && (readInt64? cs).isSome

/-- What follows the first step of a path. Blanks may stand around a number. -/
def afterStep? : List Char → Option (List Char)
  | '.' :: cs =>
    let name := cs.takeWhile isNameChar
    if name.isEmpty then none else some (cs.drop name.length)
  | '[' :: cs =>
    let inside := (cs.takeWhile (· != ']')).dropWhile isGap
    let number := (inside.reverse.dropWhile isGap).reverse
    if isPosition number then (cs.dropWhile (· != ']')).tail? else none
  | _ => none

/-- Whether a text consists of steps. -/
def isSteps : Nat → List Char → Bool
  | _, [] => true
  | 0, _ => false
  | fuel + 1, cs =>
    match afterStep? cs with
    | some rest => isSteps fuel rest
    | none => false

/-- The name that a key starts with, if the key is a path to a part. -/
def rootOfPath? (key : String) : Option String :=
  let root := key.toList.takeWhile isNameChar
  let steps := key.toList.dropWhile isNameChar
  if root ≠ [] ∧ steps ≠ [] ∧ isSteps steps.length steps then some (String.ofList root) else none

/-- The setting that a key speaks of, and whether it speaks of a part only. -/
def target (key : String) : String × Bool :=
  match rootOfPath? key with
  | some root => (root, true)
  | none => (lowerName key, false)

end Key

end SchemaMigration.Config
