import SchemaMigration.Database.Memory

/-
  What a database in memory answers to the queries about the schema.

  Without fixed answers each of these queries is answered from the tables and the
  catalog alone, and the database stays as it is. A query is told from the others
  by how it starts, or by its whole text where that is fixed.

  Main statements: `answer_hasTableSql`, `answer_hasColumnSql`,
  `answer_listTablesSql`, `answer_columnsSql`, `answer_indexesSql`,
  `answer_foreignKeysSql` and `answer_optionsSql`.
-/
namespace SchemaMigration.Catalog

open Sql Text

/-! ## Telling queries apart -/

/-- Whether a text starts with another. -/
def Begins (start sql : String) : Prop := start.toList <+: sql.toList

theorem begins_self (start : String) : Begins start start := List.prefix_rfl

theorem Begins.append {start sql : String} (h : Begins start sql) (rest : String) :
    Begins start (sql ++ rest) := by
  rw [Begins, String.toList_append]
  exact h.trans (List.prefix_append _ _)

theorem begins_append (start rest : String) : Begins start (start ++ rest) :=
  (begins_self start).append rest

/-- Texts that start differently differ. -/
theorem Begins.ne {a b sql sql' : String} (h : Begins a sql) (h' : Begins b sql')
    (hab : ¬a.toList <+: b.toList ∧ ¬b.toList <+: a.toList) : sql ≠ sql' := by
  rintro rfl
  exact (List.prefix_or_prefix_of_prefix h h').elim hab.1 hab.2

theorem begins_hasTableSql : Begins "SELECT COUNT" hasTableSql := by
  unfold hasTableSql
  apply Begins.append
  exact begins_append _ "(*) AS aggregate FROM information_schema.tables "

theorem begins_hasColumnSql : Begins "SELECT COUNT" hasColumnSql := by
  unfold hasColumnSql
  apply Begins.append
  exact begins_append _ "(*) AS aggregate FROM information_schema.columns "

theorem begins_listTablesSql : Begins "SELECT table" listTablesSql := by
  unfold listTablesSql
  apply Begins.append
  exact begins_append _ "_name AS name FROM information_schema.tables "

theorem begins_foreignKeysSql : Begins "SELECT kcu" foreignKeysSql := by
  unfold foreignKeysSql
  iterate 10 apply Begins.append
  exact begins_append _ ".CONSTRAINT_NAME AS constraint_name, "

theorem begins_optionsSql : Begins "SELECT t.ENGINE" optionsSql := by
  unfold optionsSql
  iterate 5 apply Begins.append
  exact begins_append _ " AS engine, t.TABLE_COLLATION AS collation, "

theorem begins_acquireLockSql : Begins "SELECT GET" acquireLockSql :=
  begins_append _ "_LOCK(?, ?) AS acquired"

theorem begins_releaseLockSql : Begins "SELECT RELEASE" releaseLockSql :=
  begins_append _ "_LOCK(?) AS released"

theorem begins_columnsSql (table : String) : Begins "SHOW FULL" (columnsSql table) :=
  (begins_append "SHOW FULL" " COLUMNS FROM ").append _

theorem begins_indexesSql (table : String) : Begins "SHOW INDEX" (indexesSql table) :=
  (begins_append "SHOW INDEX" " FROM ").append _

theorem after?_append (part rest : List Char) : after? part (part ++ rest) = some rest := by
  rw [after?, if_pos (List.isPrefixOf_iff_prefix.2 (List.prefix_append part rest)),
    List.drop_left]

theorem after?_columnsSql (table : String) :
    after? showColumns.toList (columnsSql table).toList = some (ident table.toList) := by
  rw [columnsSql, String.toList_append, after?_append, quoteIdent, String.toList_ofList]

theorem after?_indexesSql (table : String) :
    after? showColumns.toList (indexesSql table).toList = none ∧
      after? showIndex.toList (indexesSql table).toList = some (ident table.toList) := by
  constructor
  · simp [after?, indexesSql, showIndex, showColumns]
  · rw [indexesSql, String.toList_append, after?_append, quoteIdent, String.toList_ofList]

/-- A query that does not start with `SHOW` shows nothing. -/
theorem after?_of_begins {start sql : String} (h : Begins start sql)
    (hcolumns : ¬start.toList <+: showColumns.toList ∧ ¬showColumns.toList <+: start.toList)
    (hindex : ¬start.toList <+: showIndex.toList ∧ ¬showIndex.toList <+: start.toList) :
    after? showColumns.toList sql.toList = none ∧ after? showIndex.toList sql.toList = none := by
  have hnone : ∀ word : List Char, ¬start.toList <+: word ∧ ¬word <+: start.toList →
      after? word sql.toList = none := by
    intro word hword
    apply if_neg
    intro hprefix
    have := List.isPrefixOf_iff_prefix.1 hprefix
    exact (List.prefix_or_prefix_of_prefix h this).elim hword.1 hword.2
  exact ⟨hnone _ hcolumns, hnone _ hindex⟩

end SchemaMigration.Catalog

namespace SchemaMigration.Database.Memory

open Text Sql Catalog

theorem tableAt_ident (name : List Char) : SchemaChange.tableAt (ident name) = .ok name := by
  rw [SchemaChange.tableAt, readIdent?_ident]

/-- Here it is enough that no answer was fixed for this one query. -/
theorem answer_columnsSql_of_canned {db : Memory} {table : String}
    (h : db.canned.get? (columnsSql table) = none) :
    db.answer (columnsSql table) [] =
      (db.shown (ident table.toList) (·.columns) fun columns =>
        columns.map fun c => columnRowOfClause c.1 c.2, db) := by
  have htable := (begins_columnsSql table).ne begins_hasTableSql (by decide)
  have hcolumn := (begins_columnsSql table).ne begins_hasColumnSql (by decide)
  have hlist := (begins_columnsSql table).ne begins_listTablesSql (by decide)
  rw [answer, h]
  simp only [if_neg htable, if_neg hcolumn, if_neg hlist, after?_columnsSql]

section
variable {db : Memory} (h : db.canned = ∅)
include h

theorem answer_hasTableSql (table : String) :
    db.answer hasTableSql [.text table] =
      (.ok [Row.ofFields [("aggregate", count (db.hasTable table))]], db) := by
  have hparam : param [.text table] 0 = table := rfl
  rw [answer, h, NameMap.get?_empty]
  simp only [if_pos, hparam]

theorem answer_hasColumnSql (table column : String) :
    db.answer hasColumnSql [.text table, .text column] =
      (.ok [Row.ofFields [("aggregate", count (db.hasColumn table column))]], db) := by
  have htable : param [.text table, .text column] 0 = table := rfl
  have hcolumn : param [.text table, .text column] 1 = column := rfl
  have hne : hasColumnSql ≠ hasTableSql := by decide
  rw [answer, h, NameMap.get?_empty]
  simp only [if_neg hne, if_pos, htable, hcolumn]

theorem answer_listTablesSql :
    db.answer listTablesSql [] =
      (.ok (db.tableNames.map fun n => Row.ofFields [("name", .text n)]), db) := by
  have hne : listTablesSql ≠ hasTableSql ∧ listTablesSql ≠ hasColumnSql := by decide
  rw [answer, h, NameMap.get?_empty]
  simp only [if_neg hne.1, if_neg hne.2, if_pos]

theorem answer_columnsSql (table : String) :
    db.answer (columnsSql table) [] =
      (db.shown (ident table.toList) (·.columns) fun columns =>
        columns.map fun c => columnRowOfClause c.1 c.2, db) :=
  answer_columnsSql_of_canned (by rw [h, NameMap.get?_empty])

theorem answer_indexesSql (table : String) :
    db.answer (indexesSql table) [] =
      (db.shown (ident table.toList) (·.indexes) fun _ => [], db) := by
  have htable := (begins_indexesSql table).ne begins_hasTableSql (by decide)
  have hcolumn := (begins_indexesSql table).ne begins_hasColumnSql (by decide)
  have hlist := (begins_indexesSql table).ne begins_listTablesSql (by decide)
  rw [answer, h, NameMap.get?_empty]
  simp only [if_neg htable, if_neg hcolumn, if_neg hlist, (after?_indexesSql table).1,
    (after?_indexesSql table).2]

/-- The text of the query is a variable here, so that nothing compares the long texts
of queries letter by letter. -/
theorem answer_select (table : String) {sql : String}
    (hshow : after? showColumns.toList sql.toList = none ∧ after? showIndex.toList sql.toList = none)
    (hne : sql ≠ hasTableSql ∧ sql ≠ hasColumnSql ∧ sql ≠ listTablesSql)
    (hsql : sql = foreignKeysSql ∨ sql ≠ foreignKeysSql ∧ sql = optionsSql) :
    db.answer sql [.text table] =
      (.ok (if sql = foreignKeysSql then ((db.catalog.get? table).map (·.foreignKeys)).getD []
        else db.optionsOf table), db) := by
  have hparam : param [.text table] 0 = table := rfl
  rw [answer, h, NameMap.get?_empty]
  simp only [if_neg hne.1, if_neg hne.2.1, if_neg hne.2.2, hshow.1, hshow.2, hparam]
  rcases hsql with hsql | ⟨hother, hsql⟩
  · rw [if_pos hsql, if_pos hsql]
  · rw [if_neg hother, if_neg hother, if_pos hsql]

theorem answer_foreignKeysSql (table : String) :
    db.answer foreignKeysSql [.text table] =
      (.ok (((db.catalog.get? table).map (·.foreignKeys)).getD []), db) := by
  have hne : foreignKeysSql ≠ hasTableSql ∧ foreignKeysSql ≠ hasColumnSql ∧
      foreignKeysSql ≠ listTablesSql := by decide
  have hshow := after?_of_begins begins_foreignKeysSql (by decide) (by decide)
  rw [answer_select h table hshow hne (.inl rfl), if_pos rfl]

theorem answer_optionsSql (table : String) :
    db.answer optionsSql [.text table] = (.ok (db.optionsOf table), db) := by
  have hne : optionsSql ≠ hasTableSql ∧ optionsSql ≠ hasColumnSql ∧
      optionsSql ≠ listTablesSql := by decide
  have hother : optionsSql ≠ foreignKeysSql := by decide
  have hshow := after?_of_begins begins_optionsSql (by decide) (by decide)
  rw [answer_select h table hshow hne (.inr ⟨hother, rfl⟩), if_neg hother]

theorem answer_acquireLockSql (params : List Value) :
    db.answer acquireLockSql params =
      (.ok (db.acquire (param params 0)).1, (db.acquire (param params 0)).2) := by
  have hne : acquireLockSql ≠ hasTableSql ∧ acquireLockSql ≠ hasColumnSql ∧
      acquireLockSql ≠ listTablesSql ∧ acquireLockSql ≠ foreignKeysSql ∧
      acquireLockSql ≠ optionsSql := by decide
  have hshow := after?_of_begins begins_acquireLockSql (by decide) (by decide)
  rw [answer, h, NameMap.get?_empty]
  simp only [if_neg hne.1, if_neg hne.2.1, if_neg hne.2.2.1, hshow.1, hshow.2,
    if_neg hne.2.2.2.1, if_neg hne.2.2.2.2, if_pos]

theorem answer_releaseLockSql (params : List Value) :
    db.answer releaseLockSql params =
      (.ok (db.release (param params 0)).1, (db.release (param params 0)).2) := by
  have hne : releaseLockSql ≠ hasTableSql ∧ releaseLockSql ≠ hasColumnSql ∧
      releaseLockSql ≠ listTablesSql ∧ releaseLockSql ≠ foreignKeysSql ∧
      releaseLockSql ≠ optionsSql ∧ releaseLockSql ≠ acquireLockSql := by decide
  obtain ⟨htable, hcolumn, htables, hforeign, hoptions, hacquire⟩ := hne
  have hshow := after?_of_begins begins_releaseLockSql (by decide) (by decide)
  rw [answer, h, NameMap.get?_empty]
  simp only [if_neg htable, if_neg hcolumn, if_neg htables, hshow.1, hshow.2, if_neg hforeign,
    if_neg hoptions, if_neg hacquire, if_pos]

end

end SchemaMigration.Database.Memory
