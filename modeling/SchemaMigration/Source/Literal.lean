import SchemaMigration.Text.Numeral
import SchemaMigration.Text.Printable

/-
  String literals of generated source.

  A text stands between double quotes. A quote and a backslash get a backslash
  in front, the usual control characters have short escapes, and every other
  character that is not shown as itself is written by its number. So a literal
  holds no line break, and ends at the first quote without a backslash.
-/
namespace SchemaMigration.Source

open Text

/-- The escape of a character by its number. -/
def numbered (c : Char) : List Char :=
  "\\u\x7b".toList ++ Nat.toDigits 16 c.toNat ++ ['\x7d']

/-- A character as it stands inside a literal. -/
def escaped (c : Char) : List Char :=
  if c = '\x00' then ['\\', '0']
  else if c = '\t' then ['\\', 't']
  else if c = '\r' then ['\\', 'r']
  else if c = '\n' then ['\\', 'n']
  else if c = '"' then ['\\', '"']
  else if c = '\\' then ['\\', '\\']
  else if isUnprintable c || isExtending c then numbered c
  else [c]

/-- A text as a literal. -/
def quoted (cs : List Char) : List Char := '"' :: cs.flatMap escaped ++ ['"']

/-- A string as a literal. -/
def literal (s : String) : String := String.ofList (quoted s.toList)

/-- Strings as a list of literals. -/
def literalList (l : List String) : String :=
  "&[" ++ String.intercalate ", " (l.map literal) ++ "]"

end SchemaMigration.Source
