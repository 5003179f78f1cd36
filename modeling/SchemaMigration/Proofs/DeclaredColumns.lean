import SchemaMigration.Proofs.ClosedTexts
import SchemaMigration.Proofs.DefaultTexts
import SchemaMigration.Proofs.LedgerStatements
import SchemaMigration.Proofs.TableStatement

/-
  The columns that a database in memory reads from the statement that creates a table.

  Every clause of the statement is closed: names, comments, members of enumerations and
  defaults that are texts are quoted, an expression stands in parentheses, and a number has
  no comma. So the clauses are read as they were written, and those that declare a column
  are the ones that start with an identifier. Only behind the last clause something may be
  left over, up to a parenthesis in the comment of the table; it does not separate.

  Main statements: `Blueprint.closed_clauses` and `Blueprint.read_createText`.
-/
namespace SchemaMigration.Table

open Text Sql Position

/-! ## Closed texts of a definition -/

theorem isMark_of_isDigit {c : Char} (h : c.isDigit = true) : isMark c = false := by
  rw [isMark_eq_false_iff]
  refine ⟨?_, ?_, ?_, ?_, ?_⟩ <;> rintro rfl <;> exact absurd h (by decide)

theorem isMark_of_isNumeralChar {c : Char} (h : Catalog.isNumeralChar c = true) :
    isMark c = false := by
  rw [isMark_eq_false_iff]
  refine ⟨?_, ?_, ?_, ?_, ?_⟩ <;> rintro rfl <;> exact absurd h (by decide)

theorem passes_close : (outside 1).Passes ")".toList (outside 0) := by decide

theorem closed_number (d : Int) (n : UInt32) : Closed d (ColumnType.number n).toList := by
  rw [ColumnType.number, natText, String.toList_ofList]
  refine .plain (List.any_eq_false.2 fun c hc => ?_)
  rw [isMark_of_isDigit (isDigit_of_mem_digits hc)]
  exact Bool.false_ne_true

theorem closed_quoteIdent (d : Int) (name : String) : Closed d (quoteIdent name).toList := by
  rw [Migration.toList_quoteIdent]
  exact .ident _

theorem closed_quoteLiteral (d : Int) (value : String) : Closed d (quoteLiteral value).toList := by
  rw [quoteLiteral, String.toList_ofList]
  exact .literal _

/-- In parentheses, closed texts may stand between commas. -/
theorem closed_list {sep : String} (hsep : Closed 1 sep.toList) {parts : List String}
    (h : ∀ part ∈ parts, Closed 1 part.toList) :
    Closed 1 (String.intercalate sep parts).toList := by
  rw [String.toList_intercalate]
  refine hsep.intercalate fun x hx => ?_
  obtain ⟨part, hpart, rfl⟩ := List.mem_map.1 hx
  exact h part hpart

theorem closed_identList (names : List String) : Closed 1 (identList names).toList := by
  refine closed_list (by decide) fun part hpart => ?_
  obtain ⟨name, -, rfl⟩ := List.mem_map.1 hpart
  exact closed_quoteIdent 1 name

theorem closed_withPrecision (word : String) (h : Closed 0 word.toList) (p : UInt32) :
    Closed 0 (ColumnType.withPrecision word p).toList := by
  have hopen : (outside 0).Passes "(".toList (outside 1) := by decide
  rw [ColumnType.withPrecision]
  split
  · exact h
  · exact ((Passes.appendText h hopen).appendText (closed_number 1 p)).appendText passes_close

theorem closed_columnType (type : ColumnType) : Closed 0 type.sql.toList := by
  cases type with
  | decimal p s =>
    have hopen : (outside 0).Passes "DECIMAL(".toList (outside 1) := by decide +kernel
    have hcomma : Closed 1 ",".toList := .comma (by decide)
    exact (((hopen.appendText (closed_number 1 p)).appendText hcomma).appendText
      (closed_number 1 s)).appendText passes_close
  | char n =>
    have hopen : (outside 0).Passes "CHAR(".toList (outside 1) := by decide +kernel
    exact (hopen.appendText (closed_number 1 n)).appendText passes_close
  | string n =>
    have hopen : (outside 0).Passes "VARCHAR(".toList (outside 1) := by decide +kernel
    exact (hopen.appendText (closed_number 1 n)).appendText passes_close
  | enum values =>
    have hopen : (outside 0).Passes "ENUM(".toList (outside 1) := by decide +kernel
    -- The members are separated inside parentheses, where a comma does not count.
    refine (hopen.appendText (closed_list (.comma (by decide)) ?_)).appendText passes_close
    intro part hpart
    obtain ⟨v, -, rfl⟩ := List.mem_map.1 hpart
    exact closed_quoteLiteral 1 v
  | dateTime p => exact closed_withPrecision "DATETIME" (.plain (by decide)) p
  | timestamp p => exact closed_withPrecision "TIMESTAMP" (.plain (by decide)) p
  | time p => exact closed_withPrecision "TIME" (.plain (by decide)) p
  | boolean => exact (by decide +kernel : Closed 0 "TINYINT(1)".toList)
  | tinyInteger | smallInteger | mediumInteger | integer | bigInteger | float | double | text
  | mediumText | longText | date | year | json => exact .plain (by decide)

theorem closed_currentTimestampSql (p : UInt32) : Closed 0 (currentTimestampSql p).toList :=
  closed_withPrecision "CURRENT_TIMESTAMP" (.plain (by decide)) p

/-! ## Closed clauses -/

namespace Column
variable {c : Column} {table : String}

/-- Every expression that is a default of the column is balanced. -/
def BalancedDefault (c : Column) : Prop :=
  ∀ e, c.default = some (.expression e) → Balanced e.toList

/-- Every default of the column that stands unquoted is a number. -/
def NumericDefault (c : Column) : Prop :=
  ∀ literal, c.default = some (.numeric literal) → isNumericLiteral literal.toList = true

/-- A default that stands unquoted is a number. -/
theorem isNumericLiteral_of_check (hcheck : c.check table = .ok ()) {literal : String}
    (hvalue : c.default = some (.numeric literal)) : isNumericLiteral literal.toList = true := by
  rw [check, hvalue] at hcheck
  split at hcheck
  · cases hcheck
  · dsimp only at hcheck
    split at hcheck
    · assumption
    · cases hcheck

theorem numericDefault_of_check (hcheck : c.check table = .ok ()) : c.NumericDefault :=
  fun _ hvalue => isNumericLiteral_of_check hcheck hvalue

theorem closed_default (hnumeric : c.NumericDefault) (hbalanced : c.BalancedDefault)
    {value : DefaultValue} (hvalue : c.default = some value) (p : UInt32) :
    Closed 0 (value.sql p).toList := by
  cases value with
  | null => exact (by decide : Closed 0 "NULL".toList)
  | numeric n =>
    have hliteral := hnumeric n hvalue
    refine .plain (List.any_eq_false.2 fun d hd => ?_)
    rw [isMark_of_isNumeralChar (Catalog.isNumeralChar_of_isNumericLiteral hliteral d hd)]
    exact Bool.false_ne_true
  | bool b =>
    cases b
    · exact (by decide : Closed 0 "0".toList)
    · exact (by decide : Closed 0 "1".toList)
  | string s => exact closed_quoteLiteral 0 s
  | currentTimestamp => exact closed_currentTimestampSql p
  | expression e =>
    have hopen : (outside 0).Passes "(".toList (outside 1) := by decide
    have hbody : Closed 1 e.toList := .balanced (hbalanced e hvalue) (by decide)
    exact (hopen.appendText hbody).appendText passes_close

theorem closed_definition (hnumeric : c.NumericDefault) (hbalanced : c.BalancedDefault) :
    Closed 0 c.definition.toList := by
  -- Each part is closed, in the order in which the definition writes them.
  have hwhen : ∀ (b : Bool) (x : String), Closed 0 x.toList →
      Closed 0 (if b then x else "").toList := by
    intro b x hx
    cases b
    · exact .nil
    · exact hx
  have hyes : Closed 0 " NULL".toList := .plain (by decide)
  have hno : Closed 0 " NOT NULL".toList := .plain (by decide)
  have hnull : Closed 0 (if c.nullable then " NULL" else " NOT NULL").toList := by
    cases c.nullable
    · exact hno
    · exact hyes
  have hdefault : Closed 0 ((c.default.map
      fun d => " DEFAULT " ++ d.sql c.type.fractionalPrecision).getD "").toList := by
    have hword : Closed 0 " DEFAULT ".toList := .plain (by decide)
    cases hvalue : c.default with
    | none => exact .nil
    | some value => exact hword.appendText (closed_default hnumeric hbalanced hvalue _)
  have hcomment : Closed 0 ((c.comment.map
      fun text => " COMMENT " ++ quoteLiteral text).getD "").toList := by
    have hword : Closed 0 " COMMENT ".toList := .plain (by decide)
    cases c.comment with
    | none => exact .nil
    | some text => exact hword.appendText (closed_quoteLiteral 0 text)
  have hupdate : Closed 0 " ON UPDATE ".toList := .plain (by decide)
  have hsigns := (closed_columnType c.type).appendText
    (hwhen (c.unsigned && c.type.acceptsUnsigned) " UNSIGNED" (.plain (by decide)))
  have hcounts := (hsigns.appendText hnull).appendText
    (hwhen c.autoIncrement " AUTO_INCREMENT" (.plain (by decide)))
  have hupdates := (hcounts.appendText hdefault).appendText
    (hwhen c.onUpdateCurrentTimestamp _ (hupdate.appendText
      (closed_currentTimestampSql c.type.fractionalPrecision)))
  have hparts := hupdates.appendText hcomment
  rw [definition_parts]
  exact hparts

theorem toList_sql (c : Column) :
    c.sql.toList = ident c.name.toList ++ ' ' :: c.definition.toList := by
  rw [sql, String.toList_append, String.toList_append, Migration.toList_quoteIdent,
    List.append_assoc]
  rfl

theorem closed_sql (hnumeric : c.NumericDefault) (hbalanced : c.BalancedDefault) :
    Closed 0 c.sql.toList := by
  have hblank : Closed 0 [' '] := .plain (by decide)
  rw [toList_sql]
  exact (Closed.ident c.name.toList).append (hblank.append (closed_definition hnumeric hbalanced))

end Column

theorem closed_index (i : Index) : Closed 0 i.sql.toList := by
  have hname := closed_quoteIdent 0 i.name
  have hcolumns := closed_identList i.columns
  have hopen : (outside 0).Passes " (".toList (outside 1) := by decide
  have hprimary : (outside 0).Passes "PRIMARY KEY (".toList (outside 1) := by decide +kernel
  have hunique : Closed 0 "UNIQUE KEY ".toList := .plain (by decide)
  have hindex : Closed 0 "KEY ".toList := .plain (by decide)
  rw [Index.sql]
  cases i.kind with
  | primary => exact (hprimary.appendText hcolumns).appendText passes_close
  | unique =>
    exact (((hunique.appendText hname).appendText hopen).appendText hcolumns).appendText
      passes_close
  | index =>
    exact (((hindex.appendText hname).appendText hopen).appendText hcolumns).appendText
      passes_close

theorem closed_referentialAction (a : ReferentialAction) : Closed 0 a.sql.toList := by
  cases a <;> exact .plain (by decide)

theorem closed_foreignKey (fk : ForeignKey) : Closed 0 fk.sql.toList := by
  have hconstraint : Closed 0 "CONSTRAINT ".toList := .plain (by decide)
  have hcolumns : (outside 0).Passes " FOREIGN KEY (".toList (outside 1) := by decide +kernel
  have hreferences : (outside 1).Passes ") REFERENCES ".toList (outside 0) := by decide +kernel
  have hopen : (outside 0).Passes " (".toList (outside 1) := by decide
  have hdelete : (outside 1).Passes ") ON DELETE ".toList (outside 0) := by decide +kernel
  have hupdate : Closed 0 " ON UPDATE ".toList := .plain (by decide)
  have hfirst := ((hconstraint.appendText (closed_quoteIdent 0 fk.name)).appendText
    hcolumns).appendText (closed_identList fk.columns)
  have hsecond := (((hfirst.appendText hreferences).appendText
    (closed_quoteIdent 0 fk.referencesTable)).appendText hopen).appendText
    (closed_identList fk.referencesColumns)
  exact (((hsecond.appendText hdelete).appendText (closed_referentialAction _)).appendText
    hupdate).appendText (closed_referentialAction _)

/-- Whether a word has no parenthesis, comma, quote or backtick. -/
def IsPlain (word : String) : Prop := word.toList.any isMark = false

instance (word : String) : Decidable (IsPlain word) :=
  inferInstanceAs (Decidable (word.toList.any isMark = false))

namespace Blueprint

/-- The options of the table are plain words, and the expressions that are defaults are
balanced. All other texts are arbitrary. -/
structure WellQuoted (b : Blueprint) : Prop where
  engine : IsPlain b.engine
  charset : IsPlain b.charset
  collation : IsPlain b.collation
  defaults : ∀ c ∈ b.columns, c.BalancedDefault

variable {b : Blueprint}

/-- Every clause of a table is closed. -/
theorem closed_clauses (hcheck : b.check = .ok ()) (hquoted : b.WellQuoted) :
    ∀ clause ∈ b.clauses, Closed 0 clause.toList := by
  obtain ⟨-, hcolumns, -⟩ := check_eq_ok_iff.1 hcheck
  rw [clauses_eq]
  simp only [List.forall_mem_append, List.forall_mem_map]
  refine ⟨⟨fun c hc => ?_, fun i _ => closed_index i⟩, fun fk _ => closed_foreignKey fk⟩
  exact Column.closed_sql (Column.numericDefault_of_check (hcolumns c hc).2) (hquoted.defaults c hc)

/-- What the statement that creates the table says behind the clauses. -/
def optionsText (b : Blueprint) : String :=
  " ENGINE=" ++ b.engine ++ " DEFAULT CHARSET=" ++ b.charset ++ " COLLATE=" ++ b.collation ++
    (match b.comment with
      | some text => " COMMENT=" ++ quoteLiteral text
      | none => "")

theorem closed_optionsText (hquoted : b.WellQuoted) (d : Int) : Closed d b.optionsText.toList := by
  have hengine : Closed d " ENGINE=".toList := .plain (by decide)
  have hcharset : Closed d " DEFAULT CHARSET=".toList := .plain (by decide)
  have hcollation : Closed d " COLLATE=".toList := .plain (by decide)
  have hcomment : Closed d (match b.comment with
      | some text => " COMMENT=" ++ quoteLiteral text
      | none => "").toList := by
    have hword : Closed d " COMMENT=".toList := .plain (by decide)
    cases b.comment with
    | none => exact .nil
    | some text => exact hword.appendText (closed_quoteLiteral d text)
  have hwords := ((((hengine.appendText (Closed.plain hquoted.engine)).appendText
    hcharset).appendText (Closed.plain hquoted.charset)).appendText hcollation).appendText
    (Closed.plain hquoted.collation)
  exact hwords.appendText hcomment

/-- The blanks in front of each clause of the statement. -/
def lead : List Char := ['\n', ' ', ' ']

theorem toList_createText (b : Blueprint) :
    b.createText.toList = "CREATE TABLE ".toList ++ (ident b.table.toList ++ ' ' :: '(' ::
      (lead ++ ((',' :: lead).intercalate (b.clauses.map String.toList) ++
        '\n' :: ')' :: b.optionsText.toList))) := by
  have hopen : " (\n  ".toList = ' ' :: '(' :: lead := by decide +kernel
  have hclose : "\n) ENGINE=".toList = '\n' :: ')' :: " ENGINE=".toList := by
    decide +kernel
  have hbetween : ",\n  ".toList = ',' :: lead := by decide +kernel
  unfold createText optionsText
  cases b.comment <;>
    simp only [String.toList_append, String.toList_intercalate, Migration.toList_quoteIdent, hopen,
      hclose, hbetween, List.append_assoc, List.cons_append]

end Blueprint

end SchemaMigration.Table

/-! ## Reading clauses -/

namespace SchemaMigration.Sql

open Text

theorem trim_append_blanks {lead : List Char} (h : lead.all isBlank = true) (cs : List Char) :
    trim (lead ++ cs) = trim cs := by
  rw [trim, trimStart, List.dropWhile_append_of_pos (List.all_eq_true.1 h)]
  rfl

theorem getLast?_ident (name : List Char) : (ident name).getLast? = some '\x60' := by
  rw [ident, List.getLast?_append]
  rfl

/-- A clause that starts with an identifier and a blank declares that name. -/
theorem readIdent?_of_ident {lead : List Char} (hlead : lead.all isBlank = true)
    (name rest : List Char) :
    readIdent? (trim (lead ++ (ident name ++ ' ' :: rest))) =
      some (name, trimEnd (' ' :: rest)) := by
  rw [trim_append_blanks hlead,
    trim_append_left rfl (getLast?_ident name) (by decide) (by decide),
    readIdent?_ident_append _ _ (head?_trimEnd_cons (by decide) rest)]

/-- A clause that starts with a letter declares nothing. -/
theorem readIdent?_of_letter {lead : List Char} (hlead : lead.all isBlank = true) {c : Char}
    (hc : isBlank c = false ∧ c ≠ '\x60') (rest : List Char) :
    readIdent? (trim (lead ++ c :: rest)) = none := by
  have htrim : trim ([c] ++ rest) = [c] ++ trimEnd rest := trim_append_left rfl rfl hc.1 hc.1
  rw [trim_append_blanks hlead, ← List.singleton_append, htrim, readIdent?, trimStart,
    List.singleton_append, List.dropWhile_cons, hc.1, if_neg Bool.false_ne_true]
  split
  · rename_i heq
    exact absurd (List.cons.inj heq).1 hc.2
  · rfl

end SchemaMigration.Sql

namespace SchemaMigration.Database

open Text Sql

/-- What stands between the first parenthesis that opens and the last that closes goes
beyond a parenthesis that closes by a part of what follows. -/
theorem parenthesized_eq (front : List Char) (hfront : '(' ∉ front) (inner rest : List Char) :
    ∃ tail, tail <+: ')' :: rest ∧
      SchemaChange.parenthesized (front ++ '(' :: (inner ++ ')' :: rest)) =
        some (inner ++ tail) := by
  have hopen := cutAt_beq_append hfront (inner ++ ')' :: rest)
  rw [SchemaChange.parenthesized, hopen, Option.bind_some]
  cases hcut : cutAt (· == ')') (inner ++ ')' :: rest).reverse with
  | none =>
    have hall := cutAt_eq_none_iff.1 hcut ')' (by simp)
    cases hall
  | some parts =>
    obtain ⟨behind, before⟩ := parts
    obtain ⟨hbehind, d, hd, heq⟩ := eq_append_of_cutAt hcut
    obtain rfl := beq_iff_eq.1 hd
    have heq' : inner ++ ')' :: rest = before.reverse ++ ')' :: behind.reverse := by
      rw [← List.reverse_reverse (inner ++ ')' :: rest), heq]
      simp
    -- The last parenthesis is the given one or a later one.
    rcases List.append_eq_append_iff.1 heq' with ⟨tail, hbefore, htail⟩ | ⟨mid, hinner, hmid⟩
    · exact ⟨tail, ⟨_, htail.symm⟩, by rw [Option.map_some, hbefore]⟩
    · cases mid with
      | nil =>
        refine ⟨[], List.nil_prefix, ?_⟩
        rw [Option.map_some, hinner, List.append_nil, List.append_nil]
      | cons c mid =>
        have hlater : ')' ∈ behind := by
          rw [← List.mem_reverse, (List.cons.inj hmid).2]
          exact List.mem_append_right _ List.mem_cons_self
        have hnone := hbehind ')' hlater
        cases hnone

end SchemaMigration.Database

namespace SchemaMigration.Table.Blueprint

open Text Sql Position Database

theorem isBlank_lead : lead.all isBlank = true := by decide

/-- The column that a clause declares, with the rest of the clause. -/
def declaredBy (clause : List Char) : Option (List Char × List Char) :=
  (readIdent? clause).map fun nr => (nr.1, trim nr.2)

theorem columnsOf_of_parenthesized {body inner : List Char}
    (h : SchemaChange.parenthesized body = some inner) :
    SchemaChange.columnsOf body = (Sql.clauses inner).filterMap declaredBy := by
  rw [SchemaChange.columnsOf, h]
  rfl

/-- However it goes on, the clause of a column declares the column. -/
theorem declaredBy_columnClause (c : Column) (tail : List Char) :
    declaredBy (trim (lead ++ (c.sql.toList ++ tail))) =
      some (c.name.toList, trim (trimEnd (' ' :: (c.definition.toList ++ tail)))) := by
  rw [declaredBy, Column.toList_sql, List.append_assoc, List.cons_append,
    readIdent?_of_ident isBlank_lead]
  rfl

/-- The clause of a key starts with a letter. -/
theorem head?_keyClause {clause : String} {is : List Index} {fks : List ForeignKey}
    (h : clause ∈ is.map Index.sql ++ fks.map ForeignKey.sql) :
    ∃ c, clause.toList.head? = some c ∧ isBlank c = false ∧ c ≠ '\x60' := by
  have hmore : ∀ {text : String} {c : Char}, text.toList.head? = some c → ∀ more : String,
      (text ++ more).toList.head? = some c := by
    intro text c hc more
    rw [String.toList_append, List.head?_append, hc, Option.some_or]
  have hprimary : "PRIMARY KEY (".toList.head? = some 'P' := by decide +kernel
  have hunique : "UNIQUE KEY ".toList.head? = some 'U' := by decide +kernel
  have hindex : "KEY ".toList.head? = some 'K' := by decide +kernel
  have hconstraint : "CONSTRAINT ".toList.head? = some 'C' := by decide +kernel
  rcases List.mem_append.1 h with hmem | hmem
  · obtain ⟨i, -, rfl⟩ := List.mem_map.1 hmem
    rw [Index.sql]
    cases i.kind with
    | primary => exact ⟨'P', hmore (hmore hprimary _) _, by decide⟩
    | unique => exact ⟨'U', hmore (hmore (hmore (hmore hunique _) _) _) _, by decide⟩
    | index => exact ⟨'K', hmore (hmore (hmore (hmore hindex _) _) _) _, by decide⟩
  · obtain ⟨fk, -, rfl⟩ := List.mem_map.1 hmem
    refine ⟨'C', ?_, by decide⟩
    unfold ForeignKey.sql
    iterate 11 apply hmore
    exact hconstraint

/-- However it goes on, the clause of a key declares nothing. -/
theorem declaredBy_keyClause {clause : String} {is : List Index} {fks : List ForeignKey}
    (h : clause ∈ is.map Index.sql ++ fks.map ForeignKey.sql) (tail : List Char) :
    declaredBy (trim (lead ++ (clause.toList ++ tail))) = none := by
  obtain ⟨c, hhead, hc⟩ := head?_keyClause h
  obtain ⟨rest, hrest⟩ := List.head?_eq_some_iff.1 hhead
  rw [declaredBy, hrest, List.cons_append, readIdent?_of_letter isBlank_lead hc]
  rfl

theorem mem_modifyLast {α : Type} {f : α → α} {l : List α} {a : α} (h : a ∈ modifyLast f l) :
    a ∈ l ∨ ∃ b ∈ l, a = f b := by
  rcases List.eq_nil_or_concat l with rfl | ⟨l, b, rfl⟩
  · exact .inl h
  · rw [List.concat_eq_append, modifyLast_append, List.mem_append, List.mem_singleton] at h
    rw [List.concat_eq_append]
    rcases h with hmem | rfl
    · exact .inl (List.mem_append_left _ hmem)
    · exact .inr ⟨b, by simp, rfl⟩

theorem modifyLast_eq_self {α : Type} {f : α → α} {l : List α} (h : ∀ a ∈ l, f a = a) :
    modifyLast f l = l := by
  rcases List.eq_nil_or_concat l with rfl | ⟨l, b, rfl⟩
  · rfl
  · rw [List.concat_eq_append, modifyLast_append, h b (by simp)]

theorem filterMap_modifyLast {α β : Type} {f : α → α} {g : α → Option β} {l : List α}
    (h : ∀ a ∈ l, g (f a) = g a) : (modifyLast f l).filterMap g = l.filterMap g := by
  rcases List.eq_nil_or_concat l with rfl | ⟨l, b, rfl⟩
  · rfl
  · rw [List.concat_eq_append, modifyLast_append, List.filterMap_append, List.filterMap_append]
    have hb : g (f b) = g b := h b (by simp)
    simp only [List.filterMap_cons, hb]

variable {b : Blueprint}

theorem mem_clauses_iff {clause : String} :
    clause ∈ b.clauses ↔ (∃ c ∈ b.columns, c.sql = clause) ∨
      clause ∈ b.keyIndexes.map Index.sql ++ b.foreignKeys.map ForeignKey.sql := by
  rw [clauses_eq, List.append_assoc, List.mem_append, List.mem_map]

theorem exists_mem_not_isBlank {clause : String} (h : clause ∈ b.clauses) :
    ∃ c ∈ clause.toList, isBlank c = false := by
  rcases mem_clauses_iff.1 h with ⟨c, -, rfl⟩ | hkey
  · refine ⟨'\x60', ?_, by decide⟩
    rw [Column.toList_sql]
    exact List.mem_append_left _ List.mem_cons_self
  · obtain ⟨c, hhead, hc⟩ := head?_keyClause hkey
    exact ⟨c, List.mem_of_mem_head? hhead, hc.1⟩

/-- The clauses as they are read: what follows the last belongs to it. -/
theorem clauses_body (hcheck : b.check = .ok ()) (hne : b.columns ≠ []) (hquoted : b.WellQuoted)
    {tail : List Char} (htail : Unseparated (outside 0) tail) :
    Sql.clauses (lead ++ ((',' :: lead).intercalate (b.clauses.map String.toList) ++ tail)) =
      (modifyLast (· ++ tail) (b.clauses.map String.toList)).map fun x => trim (lead ++ x) := by
  refine clauses_intercalate (.plain (by decide)) htail ?_ (List.forall_mem_map.2 ?_)
  · rw [clauses_eq]
    simpa using fun h => absurd h hne
  · exact fun clause hclause =>
      ⟨closed_clauses hcheck hquoted clause hclause, exists_mem_not_isBlank hclause⟩

/-- The name of the column that a clause of the statement declares. -/
def declaredName (clause : List Char) : Option (List Char) :=
  (declaredBy (trim (lead ++ clause))).map Prod.fst

theorem declaredName_columnClause (c : Column) (tail : List Char) :
    declaredName (c.sql.toList ++ tail) = some c.name.toList := by
  rw [declaredName, declaredBy_columnClause]
  rfl

theorem declaredName_keyClause {clause : String} {is : List Index} {fks : List ForeignKey}
    (h : clause ∈ is.map Index.sql ++ fks.map ForeignKey.sql) (tail : List Char) :
    declaredName (clause.toList ++ tail) = none := by
  rw [declaredName, declaredBy_keyClause h]
  rfl

/-- The tail of the last clause changes no name. -/
theorem declaredName_append {clause : String} (h : clause ∈ b.clauses) (tail : List Char) :
    declaredName (clause.toList ++ tail) = declaredName clause.toList := by
  have hnil := (List.append_nil clause.toList).symm
  rw [hnil, List.append_assoc, List.nil_append]
  rcases mem_clauses_iff.1 h with ⟨c, -, rfl⟩ | hkey
  · rw [declaredName_columnClause, declaredName_columnClause]
  · rw [declaredName_keyClause hkey, declaredName_keyClause hkey]

/-- The names that the clauses declare are those of the columns, in their order. -/
theorem names_clauses (tail : List Char) :
    (((modifyLast (· ++ tail) (b.clauses.map String.toList)).map fun x =>
      trim (lead ++ x)).filterMap declaredBy).map Prod.fst =
      b.columns.map fun c => c.name.toList := by
  have htail : ∀ x ∈ b.clauses.map String.toList, declaredName (x ++ tail) = declaredName x :=
    List.forall_mem_map.2 fun clause hclause => declaredName_append hclause tail
  have hcolumn : ∀ c : Column, declaredName c.sql.toList = some c.name.toList := by
    intro c
    rw [← List.append_nil c.sql.toList, declaredName_columnClause]
  have hkey : ∀ clause ∈ b.keyIndexes.map Index.sql ++ b.foreignKeys.map ForeignKey.sql,
      declaredName clause.toList = none := by
    intro clause hclause
    rw [← List.append_nil clause.toList, declaredName_keyClause hclause]
  rw [List.filterMap_map, List.map_filterMap]
  show (modifyLast (· ++ tail) (b.clauses.map String.toList)).filterMap declaredName = _
  rw [filterMap_modifyLast htail, clauses_eq, List.append_assoc, List.filterMap_map,
    List.filterMap_append, List.filterMap_map]
  simp only [Function.comp_def, hcolumn, List.filterMap_eq_nil_iff.2 hkey, List.append_nil,
    List.filterMap_eq_map']

/-- No comma separates in what is kept of a clause, up to the first blank. -/
theorem firstWord_clauses (hcheck : b.check = .ok ()) (hquoted : b.WellQuoted) {tail : List Char}
    (htail : Unseparated (outside 0) tail) {c : List Char × List Char}
    (hc : c ∈ ((modifyLast (· ++ tail) (b.clauses.map String.toList)).map fun x =>
      trim (lead ++ x)).filterMap declaredBy) : Unseparated (outside 0) (firstWord c.2) := by
  obtain ⟨text, htext, hdeclared⟩ := List.mem_filterMap.1 hc
  obtain ⟨x, hx, rfl⟩ := List.mem_map.1 htext
  have hparts : ∃ clause ∈ b.clauses, ∃ t, Unseparated (outside 0) t ∧ x = clause.toList ++ t := by
    rcases mem_modifyLast hx with hx | ⟨y, hy, rfl⟩
    · obtain ⟨clause, hclause, rfl⟩ := List.mem_map.1 hx
      exact ⟨clause, hclause, [], Closed.nil.unseparated, (List.append_nil _).symm⟩
    · obtain ⟨clause, hclause, rfl⟩ := List.mem_map.1 hy
      exact ⟨clause, hclause, tail, htail, rfl⟩
  obtain ⟨clause, hclause, t, ht, rfl⟩ := hparts
  rcases mem_clauses_iff.1 hclause with ⟨column, hcolumn, rfl⟩ | hkey
  · rw [declaredBy_columnClause] at hdeclared
    obtain rfl := Option.some.inj hdeclared
    obtain ⟨-, hcolumns, -⟩ := check_eq_ok_iff.1 hcheck
    have hnumeric := Column.numericDefault_of_check (hcolumns column hcolumn).2
    have hdefinition := Column.closed_definition hnumeric (hquoted.defaults column hcolumn)
    have hrest := (hdefinition.unseparated_append ht).blank
    dsimp only
    exact (hrest.mono (isPrefix_trimEnd _)).trim.firstWord
  · rw [declaredBy_keyClause hkey] at hdeclared
    cases hdeclared

/-- What may be left over behind the clauses does not separate. -/
theorem unseparated_leftover (hquoted : b.WellQuoted) {rest tail : List Char}
    (hrest : rest <+: b.optionsText.toList) (htail : tail <+: ')' :: rest) :
    Unseparated (outside 0) ('\n' :: tail) := by
  have hclose : (outside 0).Passes ['\n', ')'] (outside (-1)) := by decide
  have hall : Unseparated (outside 0) (['\n', ')'] ++ b.optionsText.toList) :=
    ⟨_, hclose.append (closed_optionsText hquoted (-1))⟩
  refine hall.mono ?_
  show '\n' :: tail <+: '\n' :: ')' :: b.optionsText.toList
  rw [List.prefix_cons_inj]
  exact htail.trans (by rwa [List.prefix_cons_inj])

/-- Without the blanks at its ends, the statement is the name and then the body. -/
theorem trim_createText (b : Blueprint) :
    trim b.createText.toList = "CREATE TABLE ".toList ++ (ident b.table.toList ++
      ' ' :: '(' :: ((lead ++ ((',' :: lead).intercalate (b.clauses.map String.toList) ++
        ['\n'])) ++ ')' :: trimEnd b.optionsText.toList)) := by
  rw [toList_createText]
  generalize (',' :: lead).intercalate (b.clauses.map String.toList) = texts
  generalize b.optionsText.toList = options
  have hname : ("CREATE TABLE ".toList ++ ident b.table.toList).getLast? = some '\x60' := by
    rw [List.getLast?_append, getLast?_ident, Option.some_or]
  have hbody : ' ' :: '(' :: (lead ++ (texts ++ '\n' :: ')' :: options)) =
      (' ' :: '(' :: (lead ++ (texts ++ ['\n'])) ++ [')']) ++ options := by
    simp only [List.append_assoc, List.cons_append, List.nil_append]
  rw [hbody, ← List.append_assoc, trim_append_left rfl hname (by decide) (by decide),
    trimEnd_append List.getLast?_concat (by decide)]
  simp only [List.append_assoc, List.cons_append, List.nil_append]

/-- The statement that creates the table reads as that, with the columns of the blueprint. No
comma separates in what is kept of their clauses, up to the first blank. -/
theorem read_createText (ledger : String) (hcheck : b.check = .ok ()) (hne : b.columns ≠ [])
    (hquoted : b.WellQuoted) :
    ∃ columns, Command.read ledger b.createText =
        .change (.ok (.create false b.table.toList columns)) ∧
      columns.map Prod.fst = b.columns.map (fun c => c.name.toList) ∧
      ∀ c ∈ columns, Unseparated (outside 0) (firstWord c.2) := by
  -- The text in the parentheses, and the body around it, are named so that they stay closed.
  obtain ⟨inner, hinner⟩ : ∃ inner, inner =
    lead ++ ((',' :: lead).intercalate (b.clauses.map String.toList) ++ ['\n']) := ⟨_, rfl⟩
  obtain ⟨body, hbody⟩ : ∃ body, body =
    [' '] ++ '(' :: (inner ++ ')' :: trimEnd b.optionsText.toList) := ⟨_, rfl⟩
  have htrim : trim b.createText.toList =
      "CREATE TABLE ".toList ++ (ident b.table.toList ++ body) := by
    rw [trim_createText, hbody, hinner]
    rfl
  have hread := Migration.read_of_schemaWord ledger htrim (by decide) (fun _ => ⟨rfl, rfl, rfl⟩)
    fun _ => rfl
  have hcreate : SchemaChange.read ("CREATE TABLE ".toList ++ (ident b.table.toList ++ body)) =
      .ok (.create false b.table.toList (SchemaChange.columnsOf body)) := by
    have hnext : body.head? ≠ some '\x60' := by
      rw [hbody]
      exact fun hquote => absurd (Option.some.inj hquote) (by decide)
    have hwords : SchemaChange.read ("CREATE TABLE ".toList ++ (ident b.table.toList ++ body)) =
        SchemaChange.readCreate ("CREATE TABLE ".toList ++ (ident b.table.toList ++ body)) false
          (' ' :: (ident b.table.toList ++ body)) := rfl
    rw [hwords, SchemaChange.readCreate, readIdent?_blank, readIdent?_ident_append _ _ hnext]
  -- The closing parenthesis is looked for from the end, so that some of the options may stay.
  obtain ⟨tail, htail, hparens⟩ := parenthesized_eq [' '] (by decide) inner
    (trimEnd b.optionsText.toList)
  have hleftover := unseparated_leftover hquoted (isPrefix_trimEnd _) htail
  have htexts : inner ++ tail = lead ++ ((',' :: lead).intercalate (b.clauses.map String.toList) ++
      '\n' :: tail) := by
    rw [hinner]
    simp only [List.append_assoc, List.cons_append, List.nil_append]
  have hcolumns := columnsOf_of_parenthesized hparens
  rw [← hbody, htexts, clauses_body hcheck hne hquoted hleftover] at hcolumns
  refine ⟨SchemaChange.columnsOf body, by rw [hread, hcreate], ?_, fun c hc => ?_⟩
  · rw [hcolumns, names_clauses]
  · rw [hcolumns] at hc
    exact firstWord_clauses hcheck hquoted hleftover hc

end SchemaMigration.Table.Blueprint
