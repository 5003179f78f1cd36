import SchemaMigration.Text.Blank

/-
  Quoted identifiers and string literals.

  An identifier stands between backticks and doubles each backtick inside. A
  literal stands between single quotes, doubles each quote and each backslash
  inside. `readIdent?` reads an identifier back and returns what follows it.

  Main statement: `readIdent?_ident_append`, an identifier followed by anything
  but a backtick reads back, with the rest untouched.
-/
namespace SchemaMigration.Sql

open Text

/-- Every occurrence of `c` written twice. -/
def doubled (c : Char) : List Char → List Char
  | [] => []
  | d :: rest => if d = c then d :: d :: doubled c rest else d :: doubled c rest

/-- An identifier between backticks. -/
def ident (name : List Char) : List Char := '\x60' :: doubled '\x60' name ++ ['\x60']

/-- A string literal between single quotes. -/
def literal (value : List Char) : List Char :=
  '\'' :: doubled '\'' (doubled '\\' value) ++ ['\'']

/-- The rest of an identifier after its opening backtick, with what was read so
far in reverse. -/
def readIdentBody (acc : List Char) : List Char → Option (List Char × List Char)
  | [] => none
  | '\x60' :: '\x60' :: rest => readIdentBody ('\x60' :: acc) rest
  | c :: rest => if c = '\x60' then some (acc.reverse, rest) else readIdentBody (c :: acc) rest

/-- The identifier that a text starts with, blanks in front of it apart,
unquoted, and what follows it. -/
def readIdent? (cs : List Char) : Option (List Char × List Char) :=
  match trimStart cs with
  | '\x60' :: rest => readIdentBody [] rest
  | _ => none

theorem readIdentBody_doubled (acc name rest : List Char) (h : rest.head? ≠ some '\x60') :
    readIdentBody acc (doubled '\x60' name ++ '\x60' :: rest) =
      some (acc.reverse ++ name, rest) := by
  induction name generalizing acc with
  | nil =>
    cases rest with
    | nil => simp [doubled, readIdentBody]
    | cons d ds =>
      have hd : d ≠ '\x60' := by simpa using h
      simp only [doubled, List.nil_append]
      rw [readIdentBody] <;> simp [hd]
  | cons c cs ih =>
    by_cases hc : c = '\x60'
    · subst hc
      simp only [doubled, if_true, List.cons_append, readIdentBody, ih]
      simp
    · simp only [doubled, hc, if_false, List.cons_append]
      rw [readIdentBody] <;> simp [hc, ih]

theorem readIdent?_ident_append (name rest : List Char) (h : rest.head? ≠ some '\x60') :
    readIdent? (ident name ++ rest) = some (name, rest) := by
  have hb : isBlank '\x60' = false := by decide
  simp only [ident, List.cons_append, List.append_assoc, readIdent?, List.nil_append,
    trimStart, List.dropWhile_cons, hb, Bool.false_eq_true, if_false]
  rw [readIdentBody_doubled [] name rest h]
  simp

theorem readIdent?_ident (name : List Char) : readIdent? (ident name) = some (name, []) := by
  have h := readIdent?_ident_append name [] nofun
  rwa [List.append_nil] at h

theorem readIdent?_blank (cs : List Char) : readIdent? (' ' :: cs) = readIdent? cs := rfl

/-! ## Strings -/

/-- A name as an identifier. -/
def quoteIdent (name : String) : String := String.ofList (ident name.toList)

/-- A text as a string literal. -/
def quoteLiteral (value : String) : String := String.ofList (literal value.toList)

/-- Names as identifiers, separated by a comma and a blank. -/
def identList (names : List String) : String := String.intercalate ", " (names.map quoteIdent)

end SchemaMigration.Sql
