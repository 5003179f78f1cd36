import SchemaMigration.Config.Key
import SchemaMigration.Decimal.Shortest
import SchemaMigration.Text.Find

/-
  Settings: what a source of configuration binds names to.

  Where several sources bind a name the last binding wins, even if its value is
  of no use; only a table without entries gives way to every other value. A key
  that is a path gives its name a value with parts.
-/
namespace SchemaMigration.Config

open Text Decimal

/-- What a name is bound to. -/
inductive Setting where
  | text (s : String)
  | integer (i : Int)
  | number (x : Binary64)
  | truth (b : Bool)
  /-- A list, or a table with entries. -/
  | composite
  /-- A table without entries. -/
  | emptyTable
  deriving DecidableEq

namespace Setting

/-- The setting as a text. -/
def asText : Setting → Option String
  | text s => some s
  | integer i => some (intText i)
  | number x => some x.text
  | truth b => some (if b then "true" else "false")
  | composite | emptyTable => none

/-- A count written as a numeral or as a word for yes or no. -/
def countOfText? (s : String) : Option Nat :=
  if ["true", "on", "yes"].contains (lowered s) then some 1
  else if ["false", "off", "no"].contains (lowered s) then some 0
  else readNat64? s.toList

/-- The setting as a count. -/
def asCount : Setting → Option Nat
  | text s => countOfText? s
  | integer i => if 0 ≤ i then some i.toNat else none
  | number x => some x.rounded
  | truth b => some (if b then 1 else 0)
  | composite | emptyTable => none

end Setting

/-- Names and their settings, the last binding of a name first in weight. -/
abbrev Bindings := List (String × Setting)

/-- The binding that a key of a source makes. -/
def Bindings.ofKey (key : String) (s : Setting) : String × Setting :=
  match Key.target key with
  | (name, false) => (name, s)
  | (name, true) => (name, .composite)

/-- What a name is bound to in the end. -/
def Bindings.get? (bs : Bindings) (name : String) : Option Setting :=
  ((bs.filter (·.2 != .emptyTable)).reverse.lookup name).or (bs.reverse.lookup name)

end SchemaMigration.Config
