import SchemaMigration.Proofs.DeclaredColumns

/-
  Clauses taken apart again.

  What quotes a text is undone by what reads it: an identifier is read back up to its closing
  backtick, and clauses that stand between commas are read back one by one. Every clause is
  closed, so a comma inside it does not separate and a reader leaves it as he came to it; and it
  has no blank at its ends, so the blanks around a comma are all that is cut off.

  Main statements: `clauses_of_joined` and `quoted_read_back`.
-/
namespace SchemaMigration

open Text Sql Position

/-! ## Blanks around clauses -/

namespace Text

/-- The text ends with a character that is no blank. -/
def EndsInk (cs : List Char) : Prop := cs.getLast?.any (fun c => !isBlank c) = true

instance (cs : List Char) : Decidable (EndsInk cs) :=
  inferInstanceAs (Decidable (cs.getLast?.any (fun c => !isBlank c) = true))

theorem endsInk_iff {cs : List Char} :
    EndsInk cs ↔ ∃ c, cs.getLast? = some c ∧ isBlank c = false := by
  rw [EndsInk, Option.any_eq_true]
  simp

theorem EndsInk.behind {cs : List Char} (h : EndsInk cs) (front : List Char) :
    EndsInk (front ++ cs) := by
  obtain ⟨c, hlast, hc⟩ := endsInk_iff.1 h
  exact endsInk_iff.2 ⟨c, by rw [List.getLast?_append, hlast, Option.some_or], hc⟩

/-- A part that may be left out changes nothing. -/
theorem EndsInk.append {front cs : List Char} (h : EndsInk front) (h' : cs = [] ∨ EndsInk cs) :
    EndsInk (front ++ cs) := by
  rcases h' with rfl | h'
  · rwa [List.append_nil]
  · exact h'.behind front

theorem EndsInk.of_all {cs : List Char} (hne : cs ≠ []) (h : ∀ c ∈ cs, isBlank c = false) :
    EndsInk cs :=
  endsInk_iff.2 ⟨cs.getLast hne, List.getLast?_eq_some_getLast hne, h _ (List.getLast_mem hne)⟩

theorem EndsInk.behindText {b : String} (h : EndsInk b.toList) (a : String) :
    EndsInk (a ++ b).toList := by
  rw [String.toList_append]
  exact h.behind a.toList

theorem EndsInk.appendText {a b : String} (h : EndsInk a.toList) (h' : b = "" ∨ EndsInk b.toList) :
    EndsInk (a ++ b).toList := by
  rw [String.toList_append]
  exact h.append (h'.imp_left String.toList_eq_nil_iff.2)

/-- Behind a text that starts and ends with other characters, blanks are cut off. -/
theorem trim_append_all {cs blanks : List Char} {c : Char} (hhead : cs.head? = some c)
    (hc : isBlank c = false) (hend : EndsInk cs) (hblanks : blanks.all isBlank = true) :
    trim (cs ++ blanks) = cs := by
  obtain ⟨d, hlast, hd⟩ := endsInk_iff.1 hend
  have hnil : trimEnd blanks = [] := by
    rw [trimEnd, List.reverse_eq_nil_iff, List.dropWhile_eq_nil_iff]
    exact fun c hc => List.all_eq_true.1 hblanks c (List.mem_reverse.1 hc)
  rw [trim_append_left hhead hlast hc hd, hnil, List.append_nil]

end Text

namespace Sql

/-- Blanks in front of a text do not matter to the clauses in it. -/
theorem clausesFrom_blanks {blanks : List Char} (h : blanks.all isBlank = true) (p : Position)
    (acc cs : List Char) : clausesFrom p (acc ++ blanks) cs = clausesFrom p acc cs := by
  have htrim : ∀ acc : List Char, trim (acc ++ blanks).reverse = trim acc.reverse := by
    intro acc
    rw [List.reverse_append]
    exact trim_append_blanks (by rwa [List.all_reverse]) _
  induction cs generalizing p acc with
  | nil => rw [clausesFrom, clausesFrom, htrim]
  | cons c cs ih =>
    rw [clausesFrom, clausesFrom, htrim]
    split
    · rfl
    · exact ih (p.step c) (c :: acc)

theorem closed_of_blanks {blanks : List Char} (h : blanks.all isBlank = true) (d : Int) :
    Closed d blanks :=
  .plain (List.any_eq_false.2 fun c hc => Bool.eq_false_iff.1
    (isMark_eq_false_of_isBlank (List.all_eq_true.1 h c hc)))

theorem clauses_blanks_append {blanks : List Char} (h : blanks.all isBlank = true)
    (cs : List Char) : clauses (blanks ++ cs) = clauses cs := by
  have hpass := clausesFrom_of_passes (closed_of_blanks h 0) [] cs
  have hall : blanks.reverse.all isBlank = true := by rwa [List.all_reverse]
  have hblanks := clausesFrom_blanks hall (outside 0) [] cs
  rw [List.nil_append] at hblanks
  rw [List.append_nil, hblanks] at hpass
  exact hpass

end Sql

namespace Table

/-! ## The ends of a clause -/

theorem endsInk_quoteLiteral (value : String) : EndsInk (quoteLiteral value).toList := by
  have hquote : EndsInk ['\''] := by decide
  rw [quoteLiteral, String.toList_ofList, Sql.literal]
  exact hquote.behind _

theorem endsInk_withPrecision {word : String} (h : EndsInk word.toList) (p : UInt32) :
    EndsInk (ColumnType.withPrecision word p).toList := by
  have hclose : EndsInk ")".toList := by decide
  rw [ColumnType.withPrecision]
  split
  · exact h
  · exact hclose.behindText _

theorem endsInk_currentTimestampSql (p : UInt32) : EndsInk (currentTimestampSql p).toList :=
  endsInk_withPrecision (by decide) p

theorem not_isBlank_of_isNumeralChar {c : Char} (h : Catalog.isNumeralChar c = true) :
    isBlank c = false := by
  rcases Catalog.isNumeralChar_cases h with hdigit | rfl | rfl | rfl | rfl | rfl
  · simp only [isBlank, Bool.or_eq_false_iff, Bool.and_eq_false_iff, decide_eq_false_iff_not,
      beq_eq_false_iff_ne]
    omega
  all_goals rfl

namespace Column
variable {c : Column}

theorem endsInk_default (hnumeric : c.NumericDefault) {value : DefaultValue}
    (hvalue : c.default = some value) (p : UInt32) : EndsInk (value.sql p).toList := by
  cases value with
  | null => exact (by decide : EndsInk "NULL".toList)
  | numeric n =>
    have hliteral := hnumeric n hvalue
    refine .of_all ?_ fun d hd =>
      not_isBlank_of_isNumeralChar (Catalog.isNumeralChar_of_isNumericLiteral hliteral d hd)
    intro hnil
    have hnil : n.toList = [] := hnil
    rw [hnil] at hliteral
    exact absurd hliteral (by decide)
  | bool b =>
    cases b
    · exact (by decide : EndsInk "0".toList)
    · exact (by decide : EndsInk "1".toList)
  | string s => exact endsInk_quoteLiteral s
  | currentTimestamp => exact endsInk_currentTimestampSql p
  | expression e =>
    have hclose : EndsInk ")".toList := by decide
    exact hclose.behindText _

theorem endsInk_definition (hnumeric : c.NumericDefault) : EndsInk c.definition.toList := by
  -- A part that is left out does not change the end, and the nullability is never left out.
  have hwhen : ∀ (b : Bool) (x : String), EndsInk x.toList →
      (if b then x else "") = "" ∨ EndsInk (if b then x else "").toList := by
    intro b x hx
    cases b
    · exact .inl rfl
    · exact .inr hx
  have hnull : EndsInk (if c.nullable then " NULL" else " NOT NULL").toList := by
    cases c.nullable <;> decide
  have hdefault : (c.default.map fun d => " DEFAULT " ++ d.sql c.type.fractionalPrecision).getD
      "" = "" ∨ EndsInk ((c.default.map
        fun d => " DEFAULT " ++ d.sql c.type.fractionalPrecision).getD "").toList := by
    cases hvalue : c.default with
    | none => exact .inl rfl
    | some value => exact .inr ((endsInk_default hnumeric hvalue _).behindText " DEFAULT ")
  have hcomment : (c.comment.map fun text => " COMMENT " ++ quoteLiteral text).getD "" = "" ∨
      EndsInk ((c.comment.map fun text => " COMMENT " ++ quoteLiteral text).getD "").toList := by
    cases c.comment with
    | none => exact .inl rfl
    | some text => exact .inr ((endsInk_quoteLiteral text).behindText " COMMENT ")
  have hcounts := (hnull.behindText (c.type.sql ++
    if c.unsigned && c.type.acceptsUnsigned then " UNSIGNED" else "")).appendText
      (hwhen c.autoIncrement " AUTO_INCREMENT" (by decide))
  have hupdate := (endsInk_currentTimestampSql c.type.fractionalPrecision).behindText " ON UPDATE "
  have hparts := ((hcounts.appendText hdefault).appendText
    (hwhen c.onUpdateCurrentTimestamp _ hupdate)).appendText hcomment
  rw [definition_parts]
  exact hparts

theorem endsInk_sql (hnumeric : c.NumericDefault) : EndsInk c.sql.toList :=
  (endsInk_definition hnumeric).behindText _

end Column

theorem endsInk_index (i : Index) : EndsInk i.sql.toList := by
  have hclose : EndsInk ")".toList := by decide
  rw [Index.sql]
  cases i.kind <;> exact hclose.behindText _

theorem endsInk_foreignKey (fk : ForeignKey) : EndsInk fk.sql.toList := by
  have haction : EndsInk fk.onUpdate.sql.toList := by
    cases fk.onUpdate <;> decide
  exact haction.behindText _

/-! ## Clauses between commas -/

/-- A clause of a table. -/
inductive Clause where
  | column (c : Column)
  | index (i : Index)
  | foreignKey (fk : ForeignKey)
  deriving DecidableEq, Repr

namespace Clause

def sql : Clause → String
  | column c => c.sql
  | index i => i.sql
  | foreignKey fk => fk.sql

/-- What stands unquoted in the clause is a number or a balanced expression. All other texts are
arbitrary. -/
def WellQuoted : Clause → Prop
  | column c => c.NumericDefault ∧ c.BalancedDefault
  | _ => True

variable {c : Clause}

theorem closed_sql (h : c.WellQuoted) : Closed 0 c.sql.toList := by
  cases c with
  | column c => exact Column.closed_sql h.1 h.2
  | index i => exact closed_index i
  | foreignKey fk => exact closed_foreignKey fk

theorem endsInk_sql (h : c.WellQuoted) : EndsInk c.sql.toList := by
  cases c with
  | column c => exact Column.endsInk_sql h.1
  | index i => exact endsInk_index i
  | foreignKey fk => exact endsInk_foreignKey fk

theorem head?_sql (c : Clause) : ∃ d, c.sql.toList.head? = some d ∧ isBlank d = false := by
  have hkey : ∀ {is : List Index} {fks : List ForeignKey} {clause : String},
      clause ∈ is.map Index.sql ++ fks.map ForeignKey.sql →
        ∃ d, clause.toList.head? = some d ∧ isBlank d = false := by
    intro is fks clause hclause
    obtain ⟨d, hhead, hd, -⟩ := Blueprint.head?_keyClause hclause
    exact ⟨d, hhead, hd⟩
  cases c with
  | column c => exact ⟨'\x60', by rw [sql, Column.toList_sql]; rfl, by decide⟩
  | index i =>
    have hmem : i.sql ∈ [i].map Index.sql ++ [].map ForeignKey.sql := List.mem_singleton_self _
    exact hkey hmem
  | foreignKey fk =>
    have hmem : fk.sql ∈ [].map Index.sql ++ [fk].map ForeignKey.sql := List.mem_singleton_self _
    exact hkey hmem

end Clause

/-- The clauses with commas between them, and any blanks around each comma. -/
inductive Joined : List Clause → List Char → Prop
  | one (c : Clause) : Joined [c] c.sql.toList
  | cons (c : Clause) {cs : List Clause} {before after text : List Char} :
      before.all isBlank = true → after.all isBlank = true → Joined cs text →
      Joined (c :: cs) (c.sql.toList ++ before ++ ',' :: (after ++ text))

/-- Joined clauses are taken apart as they were, in order. -/
theorem clauses_of_joined {cs : List Clause} {text : List Char} (h : Joined cs text)
    (hquoted : ∀ c ∈ cs, c.WellQuoted) : Sql.clauses text = cs.map fun c => c.sql.toList := by
  have htrim : ∀ c : Clause, c.WellQuoted → ∀ blanks : List Char, blanks.all isBlank = true →
      trim (c.sql.toList ++ blanks) = c.sql.toList := by
    intro c hc blanks hblanks
    obtain ⟨d, hhead, hd⟩ := c.head?_sql
    exact trim_append_all hhead hd (Clause.endsInk_sql hc) hblanks
  induction h with
  | one c =>
    have hc := hquoted c (List.mem_singleton_self c)
    have hclause := htrim c hc [] rfl
    rw [List.append_nil] at hclause
    obtain ⟨d, hhead, hd⟩ := c.head?_sql
    rw [clauses_of_unseparated (Clause.closed_sql hc).unseparated
      (trim_ne_nil (List.mem_of_mem_head? hhead) hd), hclause]
    rfl
  | @cons c cs before after text hbefore hafter _ ih =>
    obtain ⟨hc, hcs⟩ := List.forall_mem_cons.1 hquoted
    rw [clauses_append_comma ((Clause.closed_sql hc).append (closed_of_blanks hbefore 0)),
      htrim c hc before hbefore, clauses_blanks_append hafter, ih hcs]
    rfl

/-- An identifier is read back from its quotes with the rest behind it, whatever the name, if the
rest does not go on with a backtick; and clauses that are joined by commas are taken apart as they
were, whatever texts they quote. -/
theorem quoted_read_back :
    (∀ (name : String) (rest : List Char), rest.head? ≠ some '\x60' →
      readIdent? ((quoteIdent name).toList ++ rest) = some (name.toList, rest)) ∧
    ∀ (cs : List Clause) (text : List Char), Joined cs text → (∀ c ∈ cs, c.WellQuoted) →
      Sql.clauses text = cs.map fun c => c.sql.toList := by
  refine ⟨fun name rest hrest => ?_, fun cs text h hquoted => clauses_of_joined h hquoted⟩
  rw [Migration.toList_quoteIdent]
  exact readIdent?_ident_append name.toList rest hrest

/-- Clauses whose texts hold what separates clauses and ends quotes. -/
def oddClauses : List Clause :=
  [.column { name := "a\x60,(", type := .enum ["x,y", "it's \\"], default := some (.string "),'") },
    .column { name := "d", type := .integer, default := some (.expression "f(',')") },
    .index ⟨.unique, "k,(", ["a\x60,(", "d"]⟩]

/-- The clauses as one text, with commas between them. -/
def oddText : String :=
  "\x60a\x60\x60,(\x60 ENUM('x,y','it''s \\\\') NOT NULL DEFAULT '),''',\n  " ++
    "\x60d\x60 INT NOT NULL DEFAULT (f(',')) , " ++
    "UNIQUE KEY \x60k,(\x60 (\x60a\x60\x60,(\x60, \x60d\x60)"

theorem wellQuoted_oddClauses : ∀ c ∈ oddClauses, c.WellQuoted := by
  have hchars : "f(',')".toList = 'f' :: ('(' :: (['\''] ++ [','] ++ ['\'']) ++ [')']) := by
    decide +kernel
  have hliteral : Balanced ('\'' :: [','] ++ '\'' :: []) :=
    .literal (.char (by decide) (by decide) .nil) .nil
  have hexpression : Balanced "f(',')".toList := by
    rw [hchars]
    exact .char (by decide) (.parens hliteral .nil)
  refine List.forall_mem_cons.2 ⟨⟨nofun, nofun⟩, List.forall_mem_cons.2 ⟨⟨nofun, ?_⟩, ?_⟩⟩
  · rintro _ ⟨⟩
    exact hexpression
  · exact List.forall_mem_singleton.2 trivial

theorem joined_oddText : Joined oddClauses oddText.toList := by
  have hjoined : Joined oddClauses (_ ++ [] ++ ',' :: (['\n', ' ', ' '] ++ (_ ++ [' '] ++
      ',' :: ([' '] ++ _)))) :=
    .cons _ (by decide) (by decide) (.cons _ (by decide) (by decide) (.one _))
  convert hjoined using 1
  decide +kernel

theorem quoted_read_back_odd :
    readIdent? ((quoteIdent "a\x60b").toList ++ ".c".toList) =
      some ("a\x60b".toList, ".c".toList) ∧
    Sql.clauses oddText.toList = oddClauses.map fun c => c.sql.toList :=
  ⟨quoted_read_back.1 "a\x60b" ".c".toList (by decide),
    quoted_read_back.2 oddClauses _ joined_oddText wellQuoted_oddClauses⟩

end Table

end SchemaMigration
