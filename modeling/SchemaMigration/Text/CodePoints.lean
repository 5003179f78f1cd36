/-
  Sets of code points.

  A set is given by the points where membership changes, in ascending order:
  the first point is the first member, the second the first that is no member
  any more, and so on.
-/
namespace SchemaMigration.Text

/-- Whether a code point is in the set whose membership changes at the given
points. -/
def memberAt : List Nat → Nat → Bool
  | [], _ => false
  | b :: bs, n => if n < b then false else !memberAt bs n

end SchemaMigration.Text
