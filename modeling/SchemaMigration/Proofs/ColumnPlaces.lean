import Mathlib.Data.List.Basic
import SchemaMigration.Proofs.CatalogOfBlueprint
import SchemaMigration.Proofs.ChangeStatements
import SchemaMigration.Proofs.RecordedStatements

/-
  Where a database in memory puts the columns of an alteration.

  The statement that adds a column names at its end the column that the new one is to
  follow, and a database in memory looks for the last place that looks like it. So it
  finds the name if that does not look like a place itself, whatever else the column
  says; and for a column that asks for no place it finds none if no text of the column
  looks like one. Then each column is put right behind the column it asks for if that is
  there, and at the end otherwise. The clause is read as a whole, so an expression that is a
  default has to be balanced; all other texts are arbitrary.

  Main statement: `columns_placed`.
-/
namespace SchemaMigration.Table

open Text Sql Database

/-! ## Texts that look like a place -/

/-- What stands between the definition of a column and the name of the column that it is
to follow. -/
def placeMark : List Char := " AFTER \x60".toList

/-- Nothing in the text looks like a place. -/
def Unmarked (cs : List Char) : Prop := occursIn placeMark cs = false

instance (cs : List Char) : Decidable (Unmarked cs) :=
  inferInstanceAs (Decidable (occursIn placeMark cs = false))

namespace Unmarked
variable {a b : List Char}

/-- Only a backtick ends what looks like a place. -/
theorem of_not_mem (h : '\x60' ∉ a) : Unmarked a :=
  occursIn_eq_false_of_not_mem (by decide) h

theorem of_infix (h : Unmarked b) (hpart : a <:+: b) : Unmarked a := by
  rw [Unmarked, ← Bool.not_eq_true, occursIn_iff] at h ⊢
  exact fun ha => h (ha.trans hpart)

/-- Behind a character that is not in the mark the search starts anew. -/
theorem append_cons {d : Char} (ha : Unmarked a) (hd : d ∉ placeMark) (hb : Unmarked b) :
    Unmarked (a ++ d :: b) := by
  rw [Unmarked, occursIn_append_cons hd, ha, hb]
  rfl

theorem append (ha : Unmarked a) (hb : '\x60' ∉ b) : Unmarked (a ++ b) := by
  rw [Unmarked, ← Bool.not_eq_true, occursIn_iff] at ha ⊢
  rintro ⟨front, rest, heq⟩
  rcases List.append_eq_append_iff.1 heq with ⟨more, hmore, -⟩ | ⟨beyond, hfront, hbeyond⟩
  · exact ha ⟨front, more, hmore.symm⟩
  rcases List.eq_nil_or_concat beyond with rfl | ⟨init, c, rfl⟩
  · exact ha ⟨front, [], by rw [List.append_nil, hfront, List.append_nil]⟩
  · -- The mark reaches into the second text, where its last character is a backtick.
    have hlast : some '\x60' = some c := by
      have h := congrArg List.getLast? hfront
      rwa [List.concat_eq_append, ← List.append_assoc, List.getLast?_append, List.getLast?_concat]
        at h
    obtain rfl := Option.some.inj hlast
    refine hb ?_
    rw [hbeyond, List.concat_eq_append]
    simp

theorem appendText {x y : String} (hx : Unmarked x.toList) (hy : '\x60' ∉ y.toList) :
    Unmarked (x ++ y).toList := by
  rw [String.toList_append]
  exact hx.append hy

/-- What stands in front is carried along, for a mark may begin in it. -/
theorem append_doubled {d : Char} (hd : d ∉ placeMark) (h : Unmarked (a ++ b)) :
    Unmarked (a ++ doubled d b) := by
  induction b generalizing a with
  | nil => exact h
  | cons c b ih =>
    rw [doubled]
    split
    · rename_i hc
      subst hc
      have hb : Unmarked ([] ++ b) := h.of_infix ((List.suffix_cons c b).isInfix.trans
        (List.suffix_append a (c :: b)).isInfix)
      exact (h.of_infix (List.prefix_append a _).isInfix).append_cons hd
        (append_cons (of_not_mem List.not_mem_nil) hd (ih hb))
    · rw [List.append_cons]
      exact ih (by rwa [List.append_assoc])

theorem doubled {d : Char} (hd : d ∉ placeMark) (h : Unmarked b) : Unmarked (Sql.doubled d b) :=
  append_doubled (a := []) hd h

theorem append_literal (ha : Unmarked a) (hb : Unmarked b) : Unmarked (a ++ literal b) := by
  have hbody := (hb.doubled (d := '\\') (by decide)).doubled (d := '\'') (by decide)
  exact ha.append_cons (by decide) (hbody.append_cons (by decide) (of_not_mem List.not_mem_nil))

theorem literals {values : List String} (h : ∀ v ∈ values, Unmarked v.toList) :
    Unmarked ([','].intercalate ((values.map String.toList).map literal)) := by
  have hliteral : ∀ v : String, Unmarked v.toList → Unmarked (literal v.toList) := fun v hv =>
    (of_not_mem List.not_mem_nil : Unmarked []).append_literal hv
  induction values with
  | nil => exact of_not_mem List.not_mem_nil
  | cons v values ih =>
    obtain ⟨hv, hvalues⟩ := List.forall_mem_cons.1 h
    cases values with
    | nil => simpa using hliteral v hv
    | cons w values =>
      rw [List.map_cons, List.map_cons, List.map_cons, List.map_cons, List.intercalate_cons_cons]
      rw [List.append_assoc]
      exact (hliteral v hv).append_cons (by decide) (ih hvalues)

end Unmarked

/-! ## Texts of a column -/

/-- The members of an enumeration. -/
def ColumnType.members : ColumnType → List String
  | enum values => values
  | _ => []

/-- The text of a default that is a text. -/
def DefaultValue.text? : DefaultValue → Option String
  | string s | expression s => some s
  | _ => none

/-- The texts of a column beside the names. -/
def Column.texts (c : Column) : List String :=
  c.type.members ++ (c.default.bind DefaultValue.text?).toList ++ c.comment.toList

theorem ColumnType.tick_not_mem_number (n : UInt32) : '\x60' ∉ (number n).toList := by
  rw [number, natText, String.toList_ofList]
  exact fun hmem => absurd (isDigit_of_mem_digits hmem) (by decide)

theorem ColumnType.tick_not_mem_withPrecision {word : String} (h : '\x60' ∉ word.toList)
    (p : UInt32) : '\x60' ∉ (withPrecision word p).toList := by
  rw [withPrecision]
  split
  · exact h
  · simp [h, tick_not_mem_number]

theorem ColumnType.tick_not_mem_sql {type : ColumnType} (h : ∀ values, type ≠ .enum values) :
    '\x60' ∉ type.sql.toList := by
  cases type with
  | enum values => exact absurd rfl (h values)
  | decimal p s => simp [sql, tick_not_mem_number]
  | char n | string n => simp [sql, tick_not_mem_number]
  | dateTime p | timestamp p | time p => exact tick_not_mem_withPrecision (by decide) p
  | _ => exact (by decide)

theorem ColumnType.unmarked_sql {type : ColumnType}
    (h : ∀ text ∈ type.members, Unmarked text.toList) : Unmarked (" " ++ type.sql).toList := by
  by_cases henum : ∃ values, type = .enum values
  · obtain ⟨values, rfl⟩ := henum
    unfold sql
    rw [String.toList_append, Catalog.toList_members]
    have hword : Unmarked " ENUM".toList := by decide
    exact hword.append_cons (by decide)
      ((Unmarked.literals h).append_cons (by decide) (.of_not_mem List.not_mem_nil))
  · have hsql := tick_not_mem_sql fun values hvalues => henum ⟨values, hvalues⟩
    exact (.of_not_mem (by decide) : Unmarked " ".toList).appendText hsql

theorem tick_not_mem_currentTimestampSql (p : UInt32) :
    '\x60' ∉ (currentTimestampSql p).toList :=
  ColumnType.tick_not_mem_withPrecision (by decide) p

theorem Column.unmarked_default {c : Column} {table : String} (hcheck : c.check table = .ok ())
    {value : DefaultValue} (hvalue : c.default = some value)
    (h : ∀ text ∈ value.text?, Unmarked text.toList) (p : UInt32) {a : List Char}
    (ha : Unmarked a) : Unmarked (a ++ (value.sql p).toList) := by
  cases value with
  | null => exact ha.append (by decide : '\x60' ∉ "NULL".toList)
  | numeric n =>
    -- That is what the check of literals is good for here: a number has no marks.
    have hliteral := isNumericLiteral_of_check hcheck hvalue
    refine ha.append fun hmem => ?_
    exact absurd (Catalog.isNumeralChar_of_isNumericLiteral hliteral _ hmem) (by decide)
  | bool b =>
    cases b
    · exact ha.append (by decide : '\x60' ∉ "0".toList)
    · exact ha.append (by decide : '\x60' ∉ "1".toList)
  | string s =>
    have hsql : (DefaultValue.string s).sql p = quoteLiteral s := rfl
    rw [hsql, quoteLiteral, String.toList_ofList]
    exact ha.append_literal (h s rfl)
  | currentTimestamp => exact ha.append (tick_not_mem_currentTimestampSql p)
  | expression e =>
    have hsql : ((DefaultValue.expression e).sql p).toList = '(' :: (e.toList ++ [')']) := by
      unfold DefaultValue.sql
      rw [String.toList_append, String.toList_append, List.append_assoc]
      rfl
    rw [hsql]
    exact ha.append_cons (by decide)
      ((h e rfl).append_cons (by decide) (.of_not_mem List.not_mem_nil))

theorem Column.unmarked_definition {c : Column} {table : String} (hcheck : c.check table = .ok ())
    (h : ∀ text ∈ c.texts, Unmarked text.toList) :
    Unmarked (" " ++ c.definition).toList := by
  simp only [texts, List.forall_mem_append, Option.mem_toList] at h
  obtain ⟨⟨hmembers, hgiven⟩, htext⟩ := h
  -- The parts are taken on in the order in which the definition writes them.
  have hwhen : ∀ (b : Bool) (x : String), '\x60' ∉ x.toList →
      '\x60' ∉ (if b then x else "").toList := by
    intro b x hx
    cases b
    · exact List.not_mem_nil
    · exact hx
  have hnull : '\x60' ∉ (if c.nullable then " NULL" else " NOT NULL").toList := by
    cases c.nullable <;> decide
  have hsigns := (ColumnType.unmarked_sql hmembers).appendText
    (hwhen (c.unsigned && c.type.acceptsUnsigned) " UNSIGNED" (by decide))
  have hcounts := (hsigns.appendText hnull).appendText
    (hwhen c.autoIncrement " AUTO_INCREMENT" (by decide))
  have hdefault : ∀ x : String, Unmarked x.toList → Unmarked (x ++ (c.default.map
      fun d => " DEFAULT " ++ d.sql c.type.fractionalPrecision).getD "").toList := by
    intro x hx
    cases hvalue : c.default with
    | none => exact hx.appendText List.not_mem_nil
    | some value =>
      have hword : Unmarked (x ++ " DEFAULT ").toList := hx.appendText (by decide)
      rw [hvalue, Option.bind_some] at hgiven
      rw [Option.map_some, Option.getD_some, ← String.append_assoc, String.toList_append]
      exact unmarked_default hcheck hvalue hgiven _ hword
  have hcomment : ∀ x : String, Unmarked x.toList → Unmarked (x ++ (c.comment.map
      fun text => " COMMENT " ++ quoteLiteral text).getD "").toList := by
    intro x hx
    cases htold : c.comment with
    | none => exact hx.appendText List.not_mem_nil
    | some text =>
      have hword : Unmarked (x ++ " COMMENT ").toList := hx.appendText (by decide)
      rw [Option.map_some, Option.getD_some, ← String.append_assoc, String.toList_append,
        quoteLiteral, String.toList_ofList]
      exact hword.append_literal (htext text htold)
  have hupdate : '\x60' ∉
      (" ON UPDATE " ++ currentTimestampSql c.type.fractionalPrecision).toList := by
    rw [String.toList_append, List.mem_append, not_or]
    exact ⟨by decide, tick_not_mem_currentTimestampSql _⟩
  have hparts := hcomment _ ((hdefault _ hcounts).appendText
    (hwhen c.onUpdateCurrentTimestamp _ hupdate))
  rw [definition_parts]
  simp only [String.append_assoc] at hparts ⊢
  exact hparts

/-! ## The place that a clause asks for -/

/-- Nothing that looks like a place asks for none. -/
theorem behindOf_eq_none {cs : List Char} (h : Unmarked cs) : ColumnChange.behindOf cs = none := by
  rw [ColumnChange.behindOf]
  have hnone : fromLast? " AFTER \x60".toList cs = none := fromLast?_eq_none_iff.2 h
  rw [hnone]
  rfl

/-- The last place is the one that is asked for, unless its name looks like a place. -/
theorem behindOf_after {name : List Char} (h : Unmarked (ident name)) (front : List Char) :
    ColumnChange.behindOf (front ++ (" AFTER ".toList ++ ident name)) = some name := by
  have hbehind : fromLast? placeMark ("AFTER ".toList ++ ident name) = none :=
    fromLast?_eq_none_iff.2 h
  have hlast : fromLast? placeMark (" AFTER ".toList ++ ident name) =
      (fromLast? placeMark ("AFTER ".toList ++ ident name)).or
        (some (" AFTER ".toList ++ ident name)) := rfl
  rw [hbehind, Option.none_or] at hlast
  have hfound : fromLast? " AFTER \x60".toList (front ++ (" AFTER ".toList ++ ident name)) =
      some (" AFTER ".toList ++ ident name) := fromLast?_append hlast front
  have hdrop : (" AFTER ".toList ++ ident name).drop " AFTER".length = ' ' :: ident name := rfl
  rw [ColumnChange.behindOf, hfound, Option.bind_some, hdrop, readIdent?_blank, readIdent?_ident]
  rfl

/-- What the statement that adds a column says behind the name. -/
def Blueprint.addedText (b : Blueprint) (c : Column) : String :=
  c.definition ++ (if b.primaryColumn = some c.name then " PRIMARY KEY" else "") ++
    (match c.after with
      | some column => " AFTER " ++ quoteIdent column
      | none => "")

/-- The column that the clause of an added column is read to ask for. -/
def Blueprint.placeRead (b : Blueprint) (c : Column) : Option String :=
  (ColumnChange.behindOf (trimEnd (' ' :: (b.addedText c).toList))).map String.ofList

/-- The place of the column can be told from its clause: the column that it asks to follow
has no name that looks like a place, and if it asks for none then no text of it does. -/
def Column.PlaceTold (c : Column) : Prop :=
  match c.after with
  | some column => Unmarked (ident column.toList)
  | none => ∀ text ∈ c.texts, Unmarked text.toList

/-- What is read is what the column asks for, if that can be told. -/
theorem placeRead_eq {b : Blueprint} {c : Column} {table : String}
    (hcheck : c.check table = .ok ()) (hplace : c.PlaceTold) : b.placeRead c = c.after := by
  have hblank : ' ' :: (b.addedText c).toList = (" " ++ b.addedText c).toList := by
    rw [String.toList_append]
    rfl
  rw [Blueprint.placeRead, hblank, Blueprint.addedText]
  have hkey : '\x60' ∉ (if b.primaryColumn = some c.name then " PRIMARY KEY" else "").toList := by
    split <;> decide
  generalize (if b.primaryColumn = some c.name then " PRIMARY KEY" else "") = key at hkey
  rw [Column.PlaceTold] at hplace
  cases hafter : c.after with
  | none =>
    rw [hafter] at hplace
    -- Without a mark anywhere no place can be read.
    have hall := (Column.unmarked_definition hcheck hplace).appendText hkey
    rw [String.append_assoc] at hall
    rw [String.append_empty, behindOf_eq_none (hall.of_infix (isPrefix_trimEnd _).isInfix)]
    rfl
  | some column =>
    rw [hafter] at hplace
    dsimp only at hplace ⊢
    -- The last mark of the text closes the name behind which the column goes.
    have htext : (" " ++ (c.definition ++ key ++ (" AFTER " ++ quoteIdent column))).toList =
        (" " ++ (c.definition ++ key)).toList ++ (" AFTER ".toList ++ ident column.toList) := by
      simp only [String.toList_append, Migration.toList_quoteIdent, List.append_assoc]
    have hlast : ((" " ++ (c.definition ++ key)).toList ++
        (" AFTER ".toList ++ ident column.toList)).getLast? = some '\x60' := by
      rw [List.getLast?_append, List.getLast?_append, getLast?_ident]
      rfl
    rw [htext, trimEnd_eq_self hlast (by decide), behindOf_after hplace, Option.map_some,
      String.ofList_toList]

/-! ## Places among the columns -/

/-- The names with one put in: right behind the first that is asked for, or at the end if
that is not there. -/
def placed (name : String) (behind : Option String) : List String → List String
  | [] => [name]
  | n :: names =>
    if behind = some n then n :: name :: names else n :: placed name behind names

theorem insertColumn_cons {column c : String × String} {behind : Option String}
    (h : behind ≠ some c.1) (columns : List (String × String)) :
    Memory.insertColumn column behind (c :: columns) =
      c :: Memory.insertColumn column behind columns := by
  cases behind with
  | none => rfl
  | some name =>
    have hname : (c.1 == name) = false := beq_false_of_ne fun heq => h (congrArg some heq.symm)
    rw [Memory.insertColumn, Memory.insertColumn, Option.bind_some, Option.bind_some,
      List.findIdx?_cons, hname]
    cases columns.findIdx? (·.1 == name) with
    | none => rfl
    | some i => rfl

/-- A database in memory puts a column where it is asked to. -/
theorem map_insertColumn (column : String × String) (behind : Option String)
    (columns : List (String × String)) :
    (Memory.insertColumn column behind columns).map Prod.fst =
      placed column.1 behind (columns.map Prod.fst) := by
  induction columns with
  | nil => cases behind <;> rfl
  | cons c columns ih =>
    rw [List.map_cons, placed]
    split
    · rename_i hhere
      rw [hhere, Memory.insertColumn, Option.bind_some, List.findIdx?_cons, beq_self_eq_true]
      rfl
    · rename_i helse
      rw [insertColumn_cons helse, List.map_cons, ih]

end SchemaMigration.Table

namespace SchemaMigration.Schema

open Text Sql Table Database Position

/-! ## Statements -/

/-- The statement alters the table, and what it does to the names of the columns is `f`. -/
def Arranges (ledger table : String) (f : List String → List String) (sql : String) : Prop :=
  ∃ changes, Command.read ledger sql = .change (.ok (.alter table.toList changes)) ∧
    ∀ columns : List (String × String),
      (changes.foldl Memory.changeColumns columns).map Prod.fst = f (columns.map Prod.fst)

theorem toList_addColumnText (b : Blueprint) (c : Column) :
    (b.addColumnText c).toList = "ALTER TABLE ".toList ++ ident b.table.toList ++
      ' ' :: (("ADD COLUMN ".toList ++ ident c.name.toList) ++ ' ' :: (b.addedText c).toList) := by
  have hword : " ADD COLUMN ".toList = ' ' :: "ADD COLUMN ".toList := rfl
  unfold Blueprint.addColumnText Blueprint.addedText
  cases c.after <;>
    simp only [String.toList_append, Column.toList_sql, Migration.toList_quoteIdent, hword,
      List.append_assoc, List.cons_append]

theorem closed_addedText {b : Blueprint} {c : Column} {table : String}
    (hcheck : c.check table = .ok ()) (hbalanced : c.BalancedDefault) :
    Closed 0 (b.addedText c).toList := by
  have hkey : Closed 0 (if b.primaryColumn = some c.name then " PRIMARY KEY" else "").toList := by
    split
    · exact .plain (by decide)
    · exact .nil
  have hdefinition := Column.closed_definition (Column.numericDefault_of_check hcheck) hbalanced
  have hfront := hdefinition.appendText hkey
  have hword : Closed 0 " AFTER ".toList := .plain (by decide)
  unfold Blueprint.addedText
  cases c.after with
  | none => exact hfront.appendText Closed.nil
  | some column => exact hfront.appendText (hword.appendText (closed_quoteIdent 0 column))

/-- However it goes on, the action adds the column. -/
theorem ofClause_add (name : List Char) {kept : List Char} (hkept : kept.head? ≠ some '\x60') :
    ColumnChange.ofClause (("ADD COLUMN ".toList ++ ident name) ++ kept) =
      .add name (trim kept) (ColumnChange.behindOf kept) := by
  have hadd : ∀ rest : List Char,
      afterWords? "ADD COLUMN".toList ("ADD COLUMN ".toList ++ rest) = some (' ' :: rest) :=
    fun _ => rfl
  rw [List.append_assoc, ColumnChange.ofClause, hadd]
  dsimp only
  rw [readIdent?_blank, readIdent?_ident_append _ _ hkept]

/-- A column that is added is put where its clause is read to ask for. -/
theorem arranges_addColumnText (ledger : String) {b : Blueprint} {c : Column}
    (hcheck : c.check b.table = .ok ()) (hbalanced : c.BalancedDefault) :
    Arranges ledger b.table (placed c.name (b.placeRead c)) (b.addColumnText c) := by
  have hlast : ("ADD COLUMN ".toList ++ ident c.name.toList).getLast? = some '\x60' := by
    rw [List.getLast?_append, getLast?_ident]
    rfl
  have hblank : Closed 0 [' '] := .plain (by decide)
  have hword : Closed 0 "ADD COLUMN ".toList := .plain (by decide)
  have hclosed := (hword.append (.ident c.name.toList)).append
    (hblank.append (closed_addedText (b := b) hcheck hbalanced))
  have hread := read_oneAction ledger b.table (toList_addColumnText b c) rfl (by decide)
    hlast (by decide) hclosed.unseparated
  rw [ofClause_add c.name.toList (head?_trimEnd_cons (by decide) _)] at hread
  refine ⟨_, hread, fun columns => ?_⟩
  rw [List.foldl_cons, List.foldl_nil, Memory.changeColumns, map_insertColumn,
    String.ofList_toList, Blueprint.placeRead]

/-- The words that a clause for a key starts with. -/
def keyWords : List String := ["PRIMARY KEY", "UNIQUE KEY", "KEY", "CONSTRAINT"]

/-- A statement that adds a key leaves the columns as they are. -/
theorem arranges_addKeySql (ledger table : String) {clause word : String} {rest : List Char}
    (hword : word ∈ keyWords) (hclause : clause.toList = word.toList ++ ' ' :: rest)
    (hclosed : Closed 0 clause.toList) : Arranges ledger table id (addKeySql table clause) := by
  have htext : (addKeySql table clause).toList = "ALTER TABLE ".toList ++ ident table.toList ++
      ' ' :: (("ADD ".toList ++ word.toList) ++ ' ' :: rest) := by
    have hadd : " ADD ".toList = ' ' :: "ADD ".toList := rfl
    unfold addKeySql
    simp only [String.toList_append, Migration.toList_quoteIdent, hclause, hadd, List.append_assoc,
      List.cons_append]
  have hadd : Closed 0 "ADD ".toList := .plain (by decide)
  have hwhole := (hadd.append hclosed).unseparated
  rw [hclause, ← List.append_assoc] at hwhole
  -- With one of the words for a key behind it the action adds no column.
  obtain ⟨d, hlast, hd, hother⟩ : ∃ d, ("ADD ".toList ++ word.toList).getLast? = some d ∧
      isBlank d = false ∧
      ∀ kept, ColumnChange.ofClause (("ADD ".toList ++ word.toList) ++ kept) = .other := by
    simp only [keyWords, List.mem_cons, List.not_mem_nil, or_false] at hword
    rcases hword with rfl | rfl | rfl | rfl
    · exact ⟨'Y', rfl, by decide, fun _ => rfl⟩
    · exact ⟨'Y', rfl, by decide, fun _ => rfl⟩
    · exact ⟨'Y', rfl, by decide, fun _ => rfl⟩
    · exact ⟨'T', rfl, by decide, fun _ => rfl⟩
  have hread := read_oneAction ledger table htext rfl (by decide) hlast hd hwhole
  rw [hother] at hread
  exact ⟨_, hread, fun _ => rfl⟩

theorem arranges_index (ledger table : String) (i : Index) :
    Arranges ledger table id (addKeySql table i.sql) := by
  have hclosed := closed_index i
  obtain ⟨word, rest, hword, hclause⟩ :
      ∃ word rest, word ∈ keyWords ∧ i.sql.toList = word.toList ++ ' ' :: rest := by
    unfold Index.sql
    cases i.kind with
    | primary => exact ⟨"PRIMARY KEY", _, by decide, by simp only [String.toList_append]; rfl⟩
    | unique => exact ⟨"UNIQUE KEY", _, by decide, by simp only [String.toList_append]; rfl⟩
    | index => exact ⟨"KEY", _, by decide, by simp only [String.toList_append]; rfl⟩
  exact arranges_addKeySql ledger table hword hclause hclosed

theorem arranges_foreignKey (ledger table : String) (fk : ForeignKey) :
    Arranges ledger table id (addKeySql table fk.sql) := by
  obtain ⟨rest, hclause⟩ : ∃ rest, fk.sql.toList = "CONSTRAINT".toList ++ ' ' :: rest := by
    unfold ForeignKey.sql
    exact ⟨_, by simp only [String.toList_append]; rfl⟩
  exact arranges_addKeySql ledger table (by decide) hclause (closed_foreignKey fk)

/-! ## Runs -/

/-- The database has the table, with columns of these names. -/
structure Lists (ledger table : String) (names : List String) (db : Memory) : Prop where
  ledgerTable : db.ledgerTable = ledger
  names : (db.tables.get? table).map (·.map Prod.fst) = some names

namespace Lists
variable {ledger table sql : String} {names : List String} {f : List String → List String}
  {db db' : Memory}

/-- A statement that is accepted does what it says to the names. -/
theorem statement (h : Lists ledger table names db) (hsql : Arranges ledger table f sql)
    (hrun : (Database.statement sql : Action Memory Unit).run db = (.ok (), db')) :
    Lists ledger table (f names) db' := by
  obtain ⟨hledger, hnames⟩ := h
  obtain ⟨changes, hread, hchanges⟩ := hsql
  obtain ⟨columns, hcolumns, rfl⟩ := Option.map_eq_some_iff.1 hnames
  rw [Memory.run_statement, Memory.execute_eq, hledger, hread] at hrun
  split at hrun
  · cases hrun
  · rw [Memory.perform] at hrun
    dsimp only [Memory.changeSchema, Memory.noted] at hrun
    rw [String.ofList_toList, hcolumns] at hrun
    obtain ⟨-, rfl⟩ := Prod.mk.inj hrun
    refine ⟨hledger, ?_⟩
    dsimp only
    rw [NameMap.get?_insert, if_pos rfl, Option.map_some, hchanges]

/-- By induction on the statements: each does what it says, and all were accepted. -/
theorem forM {α : Type} {l : List α} {text : α → String} {f : α → List String → List String}
    (hl : ∀ a ∈ l, Arranges ledger table (f a) (text a)) (h : Lists ledger table names db)
    (hrun : ((l.map text).forM Database.statement : Action Memory Unit).run db = (.ok (), db')) :
    Lists ledger table (l.foldl (fun names a => f a names) names) db' := by
  induction l generalizing names db with
  | nil =>
    obtain ⟨-, rfl⟩ := Prod.mk.inj hrun
    exact h
  | cons a l ih =>
    obtain ⟨ha, hl⟩ := List.forall_mem_cons.1 hl
    obtain ⟨⟨⟩, db₁, hfirst, hrest⟩ := Action.of_run_bind hrun
    exact ih hl (h.statement ha hfirst) hrest

end Lists

/-- After an alteration that succeeded, the names of the columns are those before with the
declared ones put in one by one, each right behind the one that its clause is read to ask
for if that is there, and at the end otherwise. What is read is what the column asks for
whenever that can be told from the clause. -/
theorem columns_placed {b : Blueprint} {db db' : Memory}
    (htracked : db.tables.contains b.table = true) (hbalanced : ∀ c ∈ b.columns, c.BalancedDefault)
    (hrun : (alterTable b : Action Memory Unit).run db = (.ok (), db')) :
    db'.tableColumns b.table = b.columns.foldl
        (fun names c => placed c.name (b.placeRead c) names) (db.tableColumns b.table) ∧
      ∀ c ∈ b.columns, c.PlaceTold → b.placeRead c = c.after := by
  rw [alterTable_eq, alterationSql_eq] at hrun
  cases hcheck : b.check with
  | error f =>
    rw [hcheck] at hrun
    cases hrun
  | ok _ =>
    rw [hcheck] at hrun
    have hchecks := (Blueprint.check_eq_ok_iff.1 hcheck).2.1
    have hstart : Lists db.ledgerTable b.table (db.tableColumns b.table) db := by
      refine ⟨rfl, ?_⟩
      obtain ⟨columns, htable⟩ := Option.isSome_iff_exists.1 htracked
      rw [Memory.tableColumns, htable]
      rfl
    have htexts : ((alterationTexts b).forM Database.statement : Action Memory Unit).run db =
        (.ok (), db') := hrun
    rw [alterationTexts, List.forM_eq_forM, List.forM_append] at htexts
    obtain ⟨⟨⟩, mid, hadded, hkeys⟩ := Action.of_run_bind htexts
    -- The columns come first, each put in its place, and the keys behind them leave all as it is.
    have hmid := hstart.forM (fun c hc => arranges_addColumnText db.ledgerTable
      (hchecks c hc).2 (hbalanced c hc)) hadded
    have hkey : ∀ clause ∈ b.indexes.map Index.sql ++ b.foreignKeys.map ForeignKey.sql,
        Arranges db.ledgerTable b.table id (addKeySql b.table clause) := by
      rw [List.forall_mem_append, List.forall_mem_map, List.forall_mem_map]
      exact ⟨fun i _ => arranges_index _ _ i, fun fk _ => arranges_foreignKey _ _ fk⟩
    have hend := (hmid.forM (f := fun _ => id) hkey hkeys).names
    rw [List.foldl_fixed' fun _ => rfl] at hend
    refine ⟨?_, fun c hc => placeRead_eq (hchecks c hc).2⟩
    obtain ⟨columns, htable, hnames⟩ := Option.map_eq_some_iff.1 hend
    rw [Memory.tableColumns, htable]
    exact hnames

/-- A database with a table of two columns. -/
def twoColumns : Memory :=
  { Memory.empty "migrations" with
    tables := NameMap.insert ∅ "t" [("id", "INT NOT NULL"), ("name", "TEXT NOT NULL")] }

/-- Columns that ask for places, with texts that look like a place; and a key. -/
def placedColumns : Blueprint :=
  Blueprint.ofDeclarations "t"
    [.column "nick" (.string 10), .comment "moved AFTER `name`", .after "id",
      .column "x AFTER `id" .integer, .column "role" (.enum ["a", "b,"]), .after "nick",
      .index none ["nick"]]

theorem columns_placed_hints :
    ((alterTable placedColumns : Action Memory Unit).run twoColumns).2.tableColumns "t" =
      ["id", "nick", "role", "name", "x AFTER `id"] ∧
    ∀ c ∈ placedColumns.columns, placedColumns.placeRead c = c.after := by
  have hcolumns : ∀ c ∈ placedColumns.columns, c.BalancedDefault ∧ c.PlaceTold := by
    have hbalanced : ∀ c : Column, c.default = none → c.BalancedDefault := by
      intro c hnone e he
      rw [hnone] at he
      cases he
    intro c hc
    rcases List.mem_cons.1 hc with rfl | hc
    · exact ⟨hbalanced _ rfl, (by decide +kernel : Unmarked (ident "id".toList))⟩
    rcases List.mem_cons.1 hc with rfl | hc
    · exact ⟨hbalanced _ rfl, fun text htext => absurd htext List.not_mem_nil⟩
    · obtain rfl := List.mem_singleton.1 hc
      exact ⟨hbalanced _ rfl, (by decide +kernel : Unmarked (ident "nick".toList))⟩
  have hended : ∀ r : Except Error Unit × Memory, r.1 = .ok () → r = (.ok (), r.2) := by
    rintro ⟨_, db⟩ rfl
    rfl
  have htracked : twoColumns.tables.contains placedColumns.table = true := by decide +kernel
  obtain ⟨hnames, htold⟩ := columns_placed htracked (fun c hc => (hcolumns c hc).1)
    (hended ((alterTable placedColumns).run twoColumns) (by decide +kernel))
  exact ⟨hnames.trans (by decide +kernel), fun c hc => htold c hc (hcolumns c hc).2⟩

/-- A column that asks for no place, with a comment that looks like one. -/
def commentedColumn : Blueprint :=
  Blueprint.ofDeclarations "t" [.column "nick" (.string 10), .comment "moved AFTER `id`"]

/-- The comment alone puts the column between the others, where it did not ask to be. -/
theorem misplaced_by_comment :
    ((alterTable commentedColumn : Action Memory Unit).run twoColumns).1 = .ok () ∧
    commentedColumn.columns.map (·.after) = [none] ∧
    ((alterTable commentedColumn : Action Memory Unit).run twoColumns).2.tableColumns "t" =
      ["id", "nick", "name"] ∧
    commentedColumn.columns.foldl (fun names c => placed c.name c.after names)
      (twoColumns.tableColumns "t") = ["id", "name", "nick"] := by
  decide +kernel

end SchemaMigration.Schema
