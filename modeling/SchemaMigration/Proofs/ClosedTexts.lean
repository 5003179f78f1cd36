import Mathlib.Data.List.TakeWhile
import SchemaMigration.Proofs.TypeTexts
import SchemaMigration.Sql.Clause
import SchemaMigration.Table.Blueprint

/-
  Texts that commas do not tear apart.

  Between the clauses of a statement stand commas outside parentheses and quotes. A text
  is closed if a reader who comes to it outside quotes leaves it where he came in, and no
  comma of it separates. Identifiers and literals are closed whatever they quote, a list in
  parentheses is, and so is what is put together from closed texts.

  Main statements: `Closed.ident`, `Closed.literal` and `Closed.balanced`, and
  `clauses_intercalate`, closed texts between commas are the clauses that are read.
-/
namespace SchemaMigration.Sql

open Text

/-! ## Passing a text -/

namespace Position

/-- The text leads from one position to another, and no comma of it separates. -/
inductive Passes : Position → List Char → Position → Prop
  | nil (p : Position) : Passes p [] p
  | cons {p q : Position} {c : Char} {cs : List Char} :
      p.separates c = false → Passes (p.step c) cs q → Passes p (c :: cs) q

/-- The position at a depth of parentheses, outside quotes. -/
def outside (d : Int) : Position := { depth := d }

/-- The position inside a literal. -/
def insideLiteral (d : Int) : Position := { depth := d, inLiteral := true }

/-- The position inside an identifier. -/
def insideIdent (d : Int) : Position := { depth := d, inIdent := true }

variable {p q r : Position} {as bs cs : List Char}

theorem passes_nil_iff : p.Passes [] q ↔ p = q :=
  ⟨fun h => by cases h; rfl, fun h => h ▸ .nil p⟩

theorem passes_cons_iff {c : Char} :
    p.Passes (c :: cs) q ↔ p.separates c = false ∧ (p.step c).Passes cs q :=
  ⟨fun h => by cases h with | cons hc hcs => exact ⟨hc, hcs⟩, fun h => .cons h.1 h.2⟩

instance decidablePasses : (p : Position) → (cs : List Char) → (q : Position) →
    Decidable (p.Passes cs q)
  | _, [], _ => decidable_of_iff _ passes_nil_iff.symm
  | p, c :: cs, q =>
    have := decidablePasses (p.step c) cs q
    decidable_of_iff _ passes_cons_iff.symm

theorem passes_append :
    p.Passes (as ++ bs) r ↔ ∃ q, p.Passes as q ∧ q.Passes bs r := by
  induction as generalizing p with
  | nil => simp [passes_nil_iff]
  | cons a as ih => simp only [List.cons_append, passes_cons_iff, ih, and_assoc, exists_and_left]

theorem Passes.append (h : p.Passes as q) (h' : q.Passes bs r) : p.Passes (as ++ bs) r :=
  passes_append.2 ⟨q, h, h'⟩

theorem Passes.appendText {a b : String} (h : p.Passes a.toList q) (h' : q.Passes b.toList r) :
    p.Passes (a ++ b).toList r := by
  rw [String.toList_append]
  exact h.append h'

theorem separates_of_ne {c : Char} (h : c ≠ ',') : p.separates c = false := by
  rw [separates, beq_false_of_ne h]
  rfl

end Position

open Position

/-! ## Closed texts -/

/-- A reader who comes to the text outside quotes, at a depth of parentheses, leaves it
there, and no comma of it separates. -/
def Closed (d : Int) (cs : List Char) : Prop := (outside d).Passes cs (outside d)

instance (d : Int) (cs : List Char) : Decidable (Closed d cs) :=
  inferInstanceAs (Decidable ((outside d).Passes cs (outside d)))

/-- Whether a reader outside quotes takes note of the character. -/
def isMark (c : Char) : Bool := "(),'\x60".toList.contains c

theorem isMark_eq_false_iff {c : Char} :
    isMark c = false ↔ c ≠ '(' ∧ c ≠ ')' ∧ c ≠ ',' ∧ c ≠ '\'' ∧ c ≠ '\x60' := by
  show "(),'\x60".toList.contains c = false ↔ _
  simp

theorem step_outside {d : Int} {c : Char} (h : isMark c = false) :
    (outside d).step c = outside d := by
  obtain ⟨hopen, hclose, -, hquote, htick⟩ := isMark_eq_false_iff.1 h
  simp [Position.step, outside, hopen, hclose, hquote, htick]

theorem step_insideLiteral {d : Int} {c : Char} (hquote : c ≠ '\'') (hescape : c ≠ '\\') :
    (insideLiteral d).step c = insideLiteral d := by
  simp [Position.step, insideLiteral, hquote, hescape]

theorem step_insideIdent {d : Int} {c : Char} (h : c ≠ '\x60') :
    (insideIdent d).step c = insideIdent d := by
  simp [Position.step, insideIdent, h]

namespace Closed
variable {d : Int} {as bs : List Char}

protected theorem nil : Closed d [] := Passes.nil _

protected theorem append (h : Closed d as) (h' : Closed d bs) : Closed d (as ++ bs) :=
  Passes.append h h'

/-- Plain characters are closed. -/
protected theorem plain (h : as.any isMark = false) : Closed d as := by
  induction as with
  | nil => exact .nil
  | cons c as ih =>
    rw [List.any_cons, Bool.or_eq_false_iff] at h
    obtain ⟨hc, has⟩ := h
    refine .cons (separates_of_ne (isMark_eq_false_iff.1 hc).2.2.1) ?_
    rw [step_outside hc]
    exact ih has

/-- Inside parentheses a comma does not separate. -/
protected theorem comma (hd : d ≠ 0) : Closed d [','] := by
  refine .cons ?_ (.nil _)
  simp [separates, outside, hd]

protected theorem parens (h : Closed (d + 1) as) : Closed d ('(' :: as ++ [')']) := by
  have hstep : (outside (d + 1)).step ')' = outside d := by
    show outside (d + 1 - 1) = outside d
    rw [Int.add_sub_cancel]
  refine .cons rfl (Passes.append h (.cons rfl ?_))
  rw [hstep]
  exact .nil _

protected theorem intercalate {sep : List Char} {xs : List (List Char)} (hsep : Closed d sep)
    (h : ∀ x ∈ xs, Closed d x) : Closed d (sep.intercalate xs) := by
  induction xs with
  | nil => exact .nil
  | cons x xs ih =>
    obtain ⟨hx, hxs⟩ := List.forall_mem_cons.1 h
    cases xs with
    | nil => simpa using hx
    | cons y ys =>
      rw [List.intercalate_cons_cons]
      exact (hx.append hsep).append (ih hxs)

theorem passes_doubled_tick (name : List Char) :
    (insideIdent d).Passes (doubled '\x60' name) (insideIdent d) := by
  induction name with
  | nil => exact .nil _
  | cons c name ih =>
    rw [doubled]
    split
    · rename_i hc
      subst hc
      exact .cons rfl (.cons rfl ih)
    · rename_i hc
      refine .cons (by simp [separates, insideIdent]) ?_
      rwa [step_insideIdent hc]

/-- An identifier is closed, whatever its name. -/
protected theorem ident (name : List Char) : Closed d (ident name) :=
  .cons rfl ((passes_doubled_tick name).append (.cons rfl (.nil _)))

/-- A doubled backslash is taken as it is, and a doubled quote ends the literal and starts it
again at once. -/
theorem passes_doubled_quote (value : List Char) :
    (insideLiteral d).Passes (doubled '\'' (doubled '\\' value)) (insideLiteral d) := by
  induction value with
  | nil => exact .nil _
  | cons c value ih =>
    by_cases hescape : c = '\\'
    · subst hescape
      exact .cons rfl (.cons rfl ih)
    · rw [doubled, if_neg hescape, doubled]
      split
      · rename_i hquote
        subst hquote
        exact .cons rfl (.cons rfl ih)
      · rename_i hquote
        refine .cons (by simp [separates, insideLiteral]) ?_
        rwa [step_insideLiteral hquote hescape]

/-- A literal is closed, whatever its value. -/
protected theorem literal (value : List Char) : Closed d (literal value) :=
  .cons rfl ((passes_doubled_quote value).append (.cons rfl (.nil _)))

end Closed

/-! ## Balanced expressions -/

/-- A text between single quotes, in which a backslash takes the next character as it is. -/
inductive LiteralBody : List Char → Prop
  | nil : LiteralBody []
  | char {c : Char} {cs : List Char} : c ≠ '\'' → c ≠ '\\' → LiteralBody cs → LiteralBody (c :: cs)
  | escape (c : Char) {cs : List Char} : LiteralBody cs → LiteralBody ('\\' :: c :: cs)

/-- An expression in which every quote, every backtick and every parenthesis has its
partner. Between quotes neither backticks nor parentheses count, and between backticks
neither quotes nor parentheses. -/
inductive Balanced : List Char → Prop
  | nil : Balanced []
  | char {c : Char} {cs : List Char} : c ∉ ['(', ')', '\'', '\x60'] → Balanced cs →
      Balanced (c :: cs)
  | literal {body cs : List Char} : LiteralBody body → Balanced cs →
      Balanced ('\'' :: body ++ '\'' :: cs)
  | ident {body cs : List Char} : '\x60' ∉ body → Balanced cs →
      Balanced ('\x60' :: body ++ '\x60' :: cs)
  | parens {body cs : List Char} : Balanced body → Balanced cs → Balanced ('(' :: body ++ ')' :: cs)

theorem LiteralBody.passes {body : List Char} (h : LiteralBody body) (d : Int) :
    (insideLiteral d).Passes body (insideLiteral d) := by
  induction h with
  | nil => exact .nil _
  | char hquote hescape _ ih =>
    refine .cons (by simp [separates, insideLiteral]) ?_
    rwa [step_insideLiteral hquote hescape]
  | escape c _ ih =>
    exact .cons rfl (.cons (by simp [separates, Position.step, insideLiteral]) ih)

theorem passes_identBody {body : List Char} (h : '\x60' ∉ body) (d : Int) :
    (insideIdent d).Passes body (insideIdent d) := by
  induction body with
  | nil => exact .nil _
  | cons c body ih =>
    obtain ⟨hc, hbody⟩ := not_or.1 (mt List.mem_cons.2 h)
    refine .cons (by simp [separates, insideIdent]) ?_
    rw [step_insideIdent (Ne.symm hc)]
    exact ih hbody

/-- Inside parentheses a balanced expression is closed. -/
theorem Closed.balanced {cs : List Char} (h : Balanced cs) {d : Int} (hd : 0 < d) :
    Closed d cs := by
  induction h generalizing d with
  | nil => exact .nil
  | @char c cs hc _ ih =>
    by_cases hcomma : c = ','
    · subst hcomma
      exact (Closed.comma (Int.ne_of_gt hd)).append (ih hd)
    · have hmark : isMark c = false := by
        simp only [List.mem_cons, List.not_mem_nil, or_false, not_or] at hc
        exact isMark_eq_false_iff.2 ⟨hc.1, hc.2.1, hcomma, hc.2.2⟩
      have hchar : Closed d [c] := .plain (by rw [List.any_cons, hmark, List.any_nil, Bool.or_self])
      exact hchar.append (ih hd)
  | literal hbody _ ih =>
    exact .cons rfl ((hbody.passes d).append (.cons rfl (ih hd)))
  | ident hbody _ ih =>
    exact .cons rfl ((passes_identBody hbody d).append (.cons rfl (ih hd)))
  | @parens body cs _ _ ihbody ih =>
    have hparens := (ihbody (d := d + 1) (by omega)).parens.append (ih hd)
    simpa using hparens

/-! ## Texts without a comma that separates -/

/-- No comma of the text separates for a reader at the position. -/
def Unseparated (p : Position) (cs : List Char) : Prop := ∃ q, p.Passes cs q

namespace Unseparated
variable {p : Position} {as bs : List Char}

theorem mono (h : Unseparated p as) (hstart : bs <+: as) : Unseparated p bs := by
  obtain ⟨rest, rfl⟩ := hstart
  obtain ⟨r, hr⟩ := h
  obtain ⟨q, hq, -⟩ := passes_append.1 hr
  exact ⟨q, hq⟩

theorem of_not_mem (h : ',' ∉ as) : Unseparated p as := by
  induction as generalizing p with
  | nil => exact ⟨p, .nil p⟩
  | cons c as ih =>
    obtain ⟨hc, has⟩ := not_or.1 (mt List.mem_cons.2 h)
    obtain ⟨q, hq⟩ := ih (p := p.step c) has
    exact ⟨q, .cons (separates_of_ne (Ne.symm hc)) hq⟩

theorem append_of_not_mem (h : Unseparated p as) (hbs : ',' ∉ bs) : Unseparated p (as ++ bs) := by
  obtain ⟨q, hq⟩ := h
  obtain ⟨r, hr⟩ := of_not_mem (p := q) hbs
  exact ⟨r, hq.append hr⟩

end Unseparated

section
variable {d : Int} {as bs cs : List Char}

theorem Closed.unseparated (h : Closed d cs) : Unseparated (outside d) cs := ⟨_, h⟩

theorem Closed.unseparated_append (h : Closed d as) (h' : Unseparated (outside d) bs) :
    Unseparated (outside d) (as ++ bs) := by
  obtain ⟨q, hq⟩ := h'
  exact ⟨q, Passes.append h hq⟩

theorem isMark_eq_false_of_isBlank {c : Char} (h : isBlank c = true) : isMark c = false := by
  rw [isMark_eq_false_iff]
  refine ⟨?_, ?_, ?_, ?_, ?_⟩ <;> rintro rfl <;> exact absurd h (by decide)

/-- Blanks in front of a text do not matter to a reader outside quotes. -/
theorem Unseparated.trimStart (h : Unseparated (outside d) cs) :
    Unseparated (outside d) (trimStart cs) := by
  induction cs with
  | nil => exact h
  | cons c cs ih =>
    rw [Text.trimStart, List.dropWhile_cons]
    split
    · rename_i hc
      obtain ⟨q, h⟩ := h
      have hq := (passes_cons_iff.1 h).2
      rw [step_outside (isMark_eq_false_of_isBlank hc)] at hq
      exact ih ⟨q, hq⟩
    · exact h

theorem Unseparated.blank (h : Unseparated (outside d) cs) :
    Unseparated (outside d) (' ' :: cs) := by
  obtain ⟨q, hq⟩ := h
  refine ⟨q, .cons rfl ?_⟩
  rwa [step_outside (by decide)]

theorem Unseparated.trim (h : Unseparated (outside d) cs) : Unseparated (outside d) (trim cs) :=
  h.trimStart.mono (isPrefix_trimEnd _)

end

/-! ## First words -/

/-- The first word of a text; empty if there is none. -/
def firstWord (cs : List Char) : List Char := ((words cs).head?).getD []

theorem head?_pieces (p : Char → Bool) (cs : List Char) :
    (pieces p cs).head? = some (cs.takeWhile fun c => !p c) := by
  induction cs with
  | nil => rfl
  | cons c cs ih =>
    rw [pieces, List.takeWhile_cons]
    split
    · rename_i hc
      rw [hc]
      rfl
    · rename_i hc
      rw [Bool.eq_false_iff.2 hc]
      obtain ⟨w, ws, hws⟩ := List.exists_cons_of_ne_nil (pieces_ne_nil p cs)
      rw [hws] at ih ⊢
      obtain rfl := Option.some.inj ih
      rfl

theorem firstWord_eq (cs : List Char) :
    firstWord cs = (trimStart cs).takeWhile fun c => !isBlank c := by
  induction cs with
  | nil => rfl
  | cons c cs ih =>
    rw [trimStart, List.dropWhile_cons]
    split
    · rename_i hc
      refine Eq.trans ?_ ih
      rw [firstWord, words, pieces, if_pos hc]
      rfl
    · rename_i hc
      have hhead := head?_pieces isBlank cs
      obtain ⟨w, ws, hws⟩ := List.exists_cons_of_ne_nil (pieces_ne_nil isBlank cs)
      rw [hws] at hhead
      rw [firstWord, words, pieces, if_neg hc, hws, List.takeWhile_cons, Bool.eq_false_iff.2 hc,
        ← Option.some.inj hhead]
      rfl

theorem Unseparated.firstWord {d : Int} {cs : List Char} (h : Unseparated (outside d) cs) :
    Unseparated (outside d) (firstWord cs) := by
  rw [firstWord_eq]
  exact h.trimStart.mono (List.takeWhile_prefix _)

/-! ## Letter case -/

/-- No letter is of concern to a reader. -/
theorem toLower_eq_iff_of_sign {c d : Char} (hd : d ∈ "(),'\x60\\".toList) :
    c.toLower = d ↔ c = d := by
  have hcases : d = '(' ∨ d = ')' ∨ d = ',' ∨ d = '\'' ∨ d = '\x60' ∨ d = '\\' := by
    simpa using hd
  rcases hcases with rfl | rfl | rfl | rfl | rfl | rfl <;>
    exact Catalog.toLower_eq_iff (by decide)

theorem step_toLower (p : Position) (c : Char) : p.step c.toLower = p.step c := by
  have hsign := @toLower_eq_iff_of_sign c
  simp only [Position.step, hsign (d := '\\') (by decide), hsign (d := '\'') (by decide),
    hsign (d := '\x60') (by decide), hsign (d := '(') (by decide), hsign (d := ')') (by decide)]

theorem separates_toLower (p : Position) (c : Char) : p.separates c.toLower = p.separates c := by
  have hcomma : (c.toLower == ',') = (c == ',') := by
    rw [Bool.eq_iff_iff, beq_iff_eq, beq_iff_eq]
    exact toLower_eq_iff_of_sign (by decide)
  rw [separates, separates, hcomma]

theorem Unseparated.toLower {p : Position} {cs : List Char} (h : Unseparated p cs) :
    Unseparated p (cs.map Char.toLower) := by
  induction cs generalizing p with
  | nil => exact h
  | cons c cs ih =>
    obtain ⟨q, h⟩ := h
    obtain ⟨hc, hq⟩ := passes_cons_iff.1 h
    obtain ⟨r, hr⟩ := ih ⟨q, hq⟩
    refine ⟨r, .cons ((separates_toLower p c).trans hc) ?_⟩
    rwa [step_toLower]

/-! ## Clauses -/

theorem clausesFrom_of_passes {p q : Position} {cs : List Char} (h : p.Passes cs q)
    (acc rest : List Char) :
    clausesFrom p acc (cs ++ rest) = clausesFrom q (cs.reverse ++ acc) rest := by
  induction cs generalizing p acc with
  | nil =>
    obtain rfl := passes_nil_iff.1 h
    rfl
  | cons c cs ih =>
    obtain ⟨hc, hcs⟩ := passes_cons_iff.1 h
    rw [List.cons_append, clausesFrom, hc, if_neg Bool.false_ne_true, ih hcs, List.reverse_cons,
      List.append_assoc]
    rfl

/-- A closed text in front of a comma is a clause. -/
theorem clauses_append_comma {cs : List Char} (h : Closed 0 cs) (rest : List Char) :
    clauses (cs ++ ',' :: rest) = trim cs :: clauses rest := by
  have hpass := clausesFrom_of_passes h [] (',' :: rest)
  rw [List.append_nil] at hpass
  show clausesFrom (outside 0) [] _ = _
  have hcomma : (outside 0).separates ',' = true := rfl
  rw [hpass, clausesFrom, if_pos hcomma, List.reverse_reverse]
  rfl

/-- A text without a comma that separates is one clause. -/
theorem clauses_of_unseparated {cs : List Char} (h : Unseparated (outside 0) cs)
    (hne : trim cs ≠ []) : clauses cs = [trim cs] := by
  obtain ⟨q, hq⟩ := h
  have hpass := clausesFrom_of_passes hq [] []
  rw [List.append_nil, List.append_nil] at hpass
  show clausesFrom (outside 0) [] cs = _
  rw [hpass, clausesFrom, List.reverse_reverse, if_neg hne]

theorem trim_ne_nil {cs : List Char} {c : Char} (hc : c ∈ cs) (hblank : isBlank c = false) :
    trim cs ≠ [] := List.ne_nil_of_mem (mem_trim hc hblank)

/-- Closed texts between commas are the clauses that are read, without the blanks in front
of each. What follows the last belongs to it. -/
theorem clauses_intercalate {lead tail : List Char} (hlead : Closed 0 lead)
    (htail : Unseparated (outside 0) tail) {xs : List (List Char)} (hne : xs ≠ [])
    (hxs : ∀ x ∈ xs, Closed 0 x ∧ ∃ c ∈ x, isBlank c = false) :
    clauses (lead ++ ((',' :: lead).intercalate xs ++ tail)) =
      (Table.Blueprint.modifyLast (· ++ tail) xs).map fun x => trim (lead ++ x) := by
  induction xs with
  | nil => exact absurd rfl hne
  | cons x xs ih =>
    obtain ⟨⟨hx, c, hc, hblank⟩, hrest⟩ := List.forall_mem_cons.1 hxs
    cases xs with
    | nil =>
      rw [List.intercalate_singleton]
      refine clauses_of_unseparated (hlead.unseparated_append (hx.unseparated_append htail)) ?_
      exact trim_ne_nil (List.mem_append_right _ (List.mem_append_left _ hc)) hblank
    | cons y ys =>
      have hcut := clauses_append_comma (hlead.append hx)
        (lead ++ ((',' :: lead).intercalate (y :: ys) ++ tail))
      rw [ih (List.cons_ne_nil y ys) hrest] at hcut
      rw [List.intercalate_cons_cons, Table.Blueprint.modifyLast, List.map_cons]
      simpa only [List.append_assoc, List.cons_append] using hcut

end SchemaMigration.Sql
