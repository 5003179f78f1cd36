import SchemaMigration.Text.Blank

/-
  Clauses: the parts of a statement between commas that stand outside
  parentheses and quotes.

  Single quotes delimit literals and backticks identifiers. In a literal a
  backslash takes the next character as it is.
-/
namespace SchemaMigration.Sql

open Text

/-- Where in a statement a reader is. -/
structure Position where
  depth : Int := 0
  inLiteral : Bool := false
  inIdent : Bool := false
  escaped : Bool := false
  deriving DecidableEq, Repr

namespace Position

/-- The position after one more character. -/
def step (p : Position) (c : Char) : Position :=
  if p.escaped then { p with escaped := false }
  else if c = '\\' ∧ p.inLiteral then { p with escaped := true }
  else if c = '\'' ∧ !p.inIdent then { p with inLiteral := !p.inLiteral }
  else if c = '\x60' ∧ !p.inLiteral then { p with inIdent := !p.inIdent }
  else if p.inLiteral || p.inIdent then p
  else if c = '(' then { p with depth := p.depth + 1 }
  else if c = ')' then { p with depth := p.depth - 1 }
  else p

/-- Whether a comma here separates clauses. -/
def separates (p : Position) (c : Char) : Bool :=
  c == ',' && !p.escaped && !p.inLiteral && !p.inIdent && p.depth == 0

end Position

/-- The clauses of a text from a position on, without the blanks around them; `acc`
holds what was read of the current clause, in reverse. Nothing after the last
comma is no clause. -/
def clausesFrom (p : Position) (acc : List Char) : List Char → List (List Char)
  | [] => if trim acc.reverse = [] then [] else [trim acc.reverse]
  | c :: rest =>
    if p.separates c then trim acc.reverse :: clausesFrom p [] rest
    else clausesFrom (p.step c) (c :: acc) rest

/-- The clauses of a text. -/
def clauses (cs : List Char) : List (List Char) := clausesFrom {} [] cs

end SchemaMigration.Sql
