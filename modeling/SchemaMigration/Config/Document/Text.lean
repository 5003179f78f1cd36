import SchemaMigration.Text.Blank
import SchemaMigration.Text.Cut
import SchemaMigration.Text.Hexadecimal

/-
  Lines and strings of documents.

  A string stands in double quotes, with escapes, or in single quotes, as it is.
  In three quotes of a kind it may have line ends; the first of them does not
  count, and up to two quotes of the kind may stand before the closing three. A
  backslash before a line end takes away the blanks and line ends that follow.
-/
namespace SchemaMigration.Config.Document

open Text

/-- The control characters, which no string and no comment may hold. -/
def isControl (c : Char) : Bool := (c.toNat < 0x20 && c != '\t') || c.toNat == 0x7F

def skipGap (cs : List Char) : List Char := cs.dropWhile isGap

/-- What follows a line end. -/
def afterLineEnd? : List Char → Option (List Char)
  | '\n' :: cs => some cs
  | '\r' :: '\n' :: cs => some cs
  | _ => none

/-- The number of characters in the blanks and line ends that a text starts with. -/
def fillerLength : List Char → Nat
  | '\r' :: '\n' :: cs => fillerLength cs + 2
  | c :: cs => if isGap c || c == '\n' then fillerLength cs + 1 else 0
  | [] => 0

/-! ## Escapes -/

/-- The character of a code point in a number of hexadecimal digits. -/
def ofHex? (width : Nat) (cs : List Char) : Option Char := do
  let n ← readHex? (cs.take width)
  if width ≤ cs.length ∧ n.isValidChar then some (Char.ofNat n) else none

/-- The character that a letter behind a backslash stands for. -/
def unescaped? (c : Char) : Option Char :=
  [('b', '\x08'), ('t', '\t'), ('n', '\n'), ('f', '\x0c'), ('r', '\r'), ('"', '"'),
    ('\\', '\\')].lookup c

/-- The character that stands behind a backslash, and the number of characters
that it is written with. -/
def escaped? : List Char → Option (Char × Nat)
  | 'u' :: cs => (ofHex? 4 cs).map (·, 5)
  | 'U' :: cs => (ofHex? 8 cs).map (·, 9)
  | c :: _ => (unescaped? c).map (·, 1)
  | [] => none

/-! ## Strings -/

/-- What is read with one more character in front. -/
def withChar (c : Char) (read : List Char × List Char) : List Char × List Char :=
  (c :: read.1, read.2)

/-- The text of a string up to its closing quote, with the rest. A number of
characters is passed over at first. -/
def readString? : Nat → List Char → Option (List Char × List Char)
  | _, [] => none
  | n + 1, _ :: cs => readString? n cs
  | 0, c :: cs =>
    if c = '"' then some ([], cs)
    else if c = '\\' then
      match escaped? cs with
      | some (x, n) => (readString? n cs).map (withChar x)
      | none => none
    else if isControl c then none
    else (readString? 0 cs).map (withChar c)

/-- The text of a literal string up to its closing quote, with the rest. -/
def readLiteral? (cs : List Char) : Option (List Char × List Char) :=
  (cutAt (· == '\'') cs).filter fun tr => !tr.1.any isControl

/-- The text of a string in three quotes up to the closing ones, with the rest. A
number of characters is passed over at first. -/
def readBlock? (quote : Char) : Nat → List Char → Option (List Char × List Char)
  | _, [] => none
  | n + 1, _ :: cs => readBlock? quote n cs
  | 0, c :: cs =>
    let run := min 5 ((c :: cs).takeWhile (· == quote)).length
    if 3 ≤ run then some (List.replicate (run - 3) quote, (c :: cs).drop run)
    else if c = '\\' ∧ quote = '"' then
      if (afterLineEnd? (skipGap cs)).isSome then readBlock? quote (fillerLength cs) cs
      else match escaped? cs with
        | some (x, n) => (readBlock? quote n cs).map (withChar x)
        | none => none
    else if c = '\r' ∧ cs.head? = some '\n' then (readBlock? quote 1 cs).map (withChar '\n')
    else if isControl c ∧ c ≠ '\n' then none
    else (readBlock? quote 0 cs).map (withChar c)

/-- A string of any kind, with the rest. -/
def readQuoted? (cs : List Char) : Option (List Char × List Char) :=
  match cs with
  | '"' :: '"' :: '"' :: cs => readBlock? '"' 0 ((afterLineEnd? cs).getD cs)
  | '\'' :: '\'' :: '\'' :: cs => readBlock? '\'' 0 ((afterLineEnd? cs).getD cs)
  | '"' :: cs => readString? 0 cs
  | '\'' :: cs => readLiteral? cs
  | _ => none

end SchemaMigration.Config.Document
