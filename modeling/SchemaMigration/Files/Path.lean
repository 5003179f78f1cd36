import SchemaMigration.Text.Cut

/-
  Paths.

  A path is a text of parts with slashes between them. An empty part and `.` stay
  where they are, `..` goes up, and every other part is a name. All paths start
  at the root.

  Main statements: `parent_length_lt`, the path above another has fewer parts;
  `location_append`, a path is followed part by part.
-/
namespace SchemaMigration.Files

open Text

/-- A path below a directory; a path that starts with a slash is below none. -/
def join (directory name : String) : String :=
  if name.toList.head? = some '/' then name
  else if directory = "" ∨ directory.toList.getLast? = some '/' then directory ++ name
  else directory ++ "/" ++ name

/-- The parts of a path. -/
abbrev Path := List String

/-- Where something is: the names from the root on. -/
abbrev Location := List String

namespace Path

/-- The parts of a text. -/
def ofText (text : String) : Path := (pieces (· == '/') text.toList).map String.ofList

/-- The text of parts. -/
def text (p : Path) : String := String.intercalate "/" p

/-- Whether a part stays where it is. -/
def isStill (part : String) : Bool := part == "" || part == "."

/-- The path without the parts at its end that stay where they are. -/
def settled (p : Path) : Path := (p.reverse.dropWhile isStill).reverse

/-- The path above another. -/
def parent (p : Path) : Path := settled (settled p).dropLast

/-- Where a part leads to. -/
def follow (here : Location) (part : String) : Location :=
  if isStill part then here else if part = ".." then here.dropLast else here ++ [part]

/-- Where a path leads to from a place, whatever is there. -/
def location (here : Location) (p : Path) : Location := p.foldl follow here

theorem location_append (here : Location) (p q : Path) :
    location here (p ++ q) = location (location here p) q := List.foldl_append

theorem settled_length_le (p : Path) : (settled p).length ≤ p.length := by
  have h := (List.dropWhile_sublist (l := p.reverse) isStill).length_le
  rwa [List.length_reverse, ← List.length_reverse, ← settled] at h

theorem parent_length_lt {p : Path} (h : settled p ≠ []) : (parent p).length < p.length := by
  have h1 := settled_length_le (settled p).dropLast
  have h2 := settled_length_le p
  have h3 := List.length_pos_iff.2 h
  rw [List.length_dropLast] at h1
  rw [parent]
  omega

end Path

end SchemaMigration.Files
