import SchemaMigration.Proofs.CatalogRows
import SchemaMigration.Proofs.DeclaredColumns
import SchemaMigration.Proofs.SentStatements

/-
  How a database in memory reads the statements that drop and rename.

  Names are read back as they were quoted. A statement that drops columns has one clause for
  each of them. The statement that renames a column has one clause, too: the type in it is
  the first word of the clause that was kept, which may end in the middle of a member of an
  enumeration, and what follows has no comma.

  Main statements: `read_dropTable`, `read_dropTableIfExists`, `read_renameTable`,
  `read_dropColumns` and `read_renameColumn`.
-/
namespace SchemaMigration.Schema

open Sql Text Table Database Catalog Position

/-! ## Tables -/

theorem trim_quoteIdent (front name : String) {c : Char} (hfront : front.toList.head? = some c)
    (hc : isBlank c = false) :
    trim (front ++ quoteIdent name).toList = front.toList ++ ident name.toList := by
  rw [String.toList_append, Migration.toList_quoteIdent]
  refine trim_eq_self ?_ ?_
  · rw [List.head?_append, hfront]
    rintro d ⟨⟩
    exact hc
  · rw [List.getLast?_append, getLast?_ident]
    rintro d ⟨⟩
    decide

theorem read_dropTable (ledger table : String) :
    Command.read ledger ("DROP TABLE " ++ quoteIdent table) =
      .change (.ok (.drop false table.toList)) := by
  have htrim := trim_quoteIdent "DROP TABLE " table rfl (by decide)
  have hdrop : SchemaChange.read ("DROP TABLE ".toList ++ ident table.toList) =
      (SchemaChange.tableAt (' ' :: ident table.toList)).map (.drop false) := rfl
  rw [Migration.read_of_schemaWord ledger htrim (by decide) (fun _ => ⟨rfl, rfl, rfl⟩) fun _ => rfl,
    hdrop, SchemaChange.tableAt, readIdent?_blank, readIdent?_ident]
  rfl

theorem read_dropTableIfExists (ledger table : String) :
    Command.read ledger ("DROP TABLE IF EXISTS " ++ quoteIdent table) =
      .change (.ok (.drop true table.toList)) := by
  have htrim := trim_quoteIdent "DROP TABLE IF EXISTS " table rfl (by decide)
  have hdrop : SchemaChange.read ("DROP TABLE IF EXISTS ".toList ++ ident table.toList) =
      (SchemaChange.tableAt (' ' :: ident table.toList)).map (.drop true) := rfl
  rw [Migration.read_of_schemaWord ledger htrim (by decide) (fun _ => ⟨rfl, rfl, rfl⟩) fun _ => rfl,
    hdrop, SchemaChange.tableAt, readIdent?_blank, readIdent?_ident]
  rfl

theorem read_renameTable (ledger old new : String) :
    Command.read ledger ("RENAME TABLE " ++ quoteIdent old ++ " TO " ++ quoteIdent new) =
      .change (.ok (.rename old.toList new.toList)) := by
  have hfront : ("RENAME TABLE " ++ quoteIdent old ++ " TO ").toList =
      "RENAME TABLE ".toList ++ (ident old.toList ++ " TO ".toList) := by
    rw [String.toList_append, String.toList_append, Migration.toList_quoteIdent, List.append_assoc]
  have hhead : ("RENAME TABLE " ++ quoteIdent old ++ " TO ").toList.head? = some 'R' := by
    rw [hfront]
    rfl
  have htrim := trim_quoteIdent ("RENAME TABLE " ++ quoteIdent old ++ " TO ") new hhead (by decide)
  rw [hfront, List.append_assoc, List.append_assoc] at htrim
  -- What follows the old name stays closed while that is read.
  obtain ⟨rest, hrest⟩ : ∃ rest, rest = " TO ".toList ++ ident new.toList := ⟨_, rfl⟩
  have hnext : rest.head? ≠ some '\x60' := by
    rw [hrest]
    exact fun hquote => absurd (Option.some.inj hquote) (by decide)
  have hto : afterWords? "TO".toList (trimStart rest) = some (' ' :: ident new.toList) := by
    rw [hrest]
    rfl
  rw [← hrest] at htrim
  have hrename : SchemaChange.read ("RENAME TABLE ".toList ++ (ident old.toList ++ rest)) =
      SchemaChange.readRename ("RENAME TABLE ".toList ++ (ident old.toList ++ rest))
        (' ' :: (ident old.toList ++ rest)) := rfl
  rw [Migration.read_of_schemaWord ledger htrim (by decide) (fun _ => ⟨rfl, rfl, rfl⟩) fun _ => rfl,
    hrename, SchemaChange.readRename, readIdent?_blank, readIdent?_ident_append _ _ hnext]
  dsimp only
  rw [hto, Option.bind_some, readIdent?_blank, readIdent?_ident]

/-! ## Columns -/

/-- The action that drops a column. -/
def dropAction (column : String) : String := "DROP COLUMN " ++ quoteIdent column

theorem toList_dropAction (column : String) :
    (dropAction column).toList = "DROP COLUMN ".toList ++ ident column.toList := by
  unfold dropAction
  rw [String.toList_append, Migration.toList_quoteIdent]

theorem getLast?_dropAction (column : String) :
    (dropAction column).toList.getLast? = some '\x60' := by
  rw [toList_dropAction, List.getLast?_append, getLast?_ident, Option.some_or]

theorem closed_dropAction (column : String) : Closed 0 (dropAction column).toList :=
  Passes.appendText (Closed.plain (by decide)) (closed_quoteIdent 0 column)

theorem ofClause_dropAction (column : String) :
    ColumnChange.ofClause (trim (' ' :: (dropAction column).toList)) = .drop column.toList := by
  have hwhole : trim (dropAction column).toList = "DROP COLUMN ".toList ++ ident column.toList :=
    trim_quoteIdent "DROP COLUMN " column rfl (by decide)
  have htrim : trim ([' '] ++ (dropAction column).toList) = trim (dropAction column).toList :=
    trim_append_blanks (by decide) _
  have hadd : afterWords? "ADD COLUMN".toList ("DROP COLUMN ".toList ++ ident column.toList) =
      none := rfl
  have hdrop : afterWords? "DROP COLUMN".toList ("DROP COLUMN ".toList ++ ident column.toList) =
      some (' ' :: ident column.toList) := rfl
  rw [← List.singleton_append, htrim, hwhole]
  simp only [ColumnChange.ofClause, hadd, hdrop, readIdent?_blank, readIdent?_ident]

theorem getLast?_intercalate {sep : List Char} {xs : List (List Char)} {c : Char} (hne : xs ≠ [])
    (h : ∀ x ∈ xs, x.getLast? = some c) : (sep.intercalate xs).getLast? = some c := by
  induction xs with
  | nil => exact absurd rfl hne
  | cons x xs ih =>
    obtain ⟨hx, hxs⟩ := List.forall_mem_cons.1 h
    cases xs with
    | nil => rwa [List.intercalate_singleton]
    | cons y ys =>
      rw [List.intercalate_cons_cons, List.getLast?_append, ih (List.cons_ne_nil y ys) hxs,
        Option.some_or]

/-- The statement that drops columns reads as one change for each. -/
theorem read_dropColumns (ledger table : String) {columns : List String} (hne : columns ≠ []) :
    Command.read ledger ("ALTER TABLE " ++ quoteIdent table ++ " " ++
        String.intercalate ", " (columns.map dropAction)) =
      .change (.ok (.alter table.toList (columns.map fun c => .drop c.toList))) := by
  obtain ⟨actions, hactions⟩ : ∃ actions, actions =
    (columns.map dropAction).map String.toList := ⟨_, rfl⟩
  have hne' : actions ≠ [] := by
    rw [hactions]
    simpa using hne
  have hmem : ∀ x ∈ actions, ∃ column, x = (dropAction column).toList := by
    rw [hactions, List.map_map]
    intro x hx
    obtain ⟨column, -, rfl⟩ := List.mem_map.1 hx
    exact ⟨column, rfl⟩
  have htext : ("ALTER TABLE " ++ quoteIdent table ++ " " ++
      String.intercalate ", " (columns.map dropAction)).toList =
      "ALTER TABLE ".toList ++ ident table.toList ++ ' ' :: [',', ' '].intercalate actions := by
    rw [hactions]
    simp only [String.toList_append, String.toList_intercalate, Migration.toList_quoteIdent,
      List.append_assoc]
    rfl
  -- Each action ends with a mark, so nothing is cut off at the end.
  have hlast : ([' '] ++ [',', ' '].intercalate actions).getLast? = some '\x60' := by
    rw [List.getLast?_append, getLast?_intercalate (c := '\x60') hne' fun x hx => ?_]
    · rfl
    · obtain ⟨column, rfl⟩ := hmem x hx
      exact getLast?_dropAction column
  have hend : trimEnd (' ' :: [',', ' '].intercalate actions) =
      ' ' :: [',', ' '].intercalate actions := trimEnd_eq_self hlast (by decide)
  have hblank : Closed 0 [' '] := .plain (by decide)
  have hclauses := clauses_intercalate hblank Closed.nil.unseparated hne' fun x hx => by
      obtain ⟨column, rfl⟩ := hmem x hx
      refine ⟨closed_dropAction column, '\x60', ?_, by decide⟩
      exact List.mem_of_getLast? (getLast?_dropAction column)
  rw [List.append_nil, Blueprint.modifyLast_eq_self fun x _ => List.append_nil x] at hclauses
  simp only [List.singleton_append] at hclauses
  have hchange : (ColumnChange.ofClause ∘ (fun x => trim (' ' :: x)) ∘ String.toList ∘ dropAction) =
      fun c => .drop c.toList := by
    funext c
    simp only [Function.comp_apply, ofClause_dropAction]
  rw [read_alterTable ledger table htext, hend, hclauses, hactions]
  simp only [List.map_map, hchange]

/-- A row without default and comment gives a definition that starts with its type. -/
theorem definitionOfRow_columnRow (name type : String) (nullable counting : Bool) :
    definitionOfRow (Memory.columnRow name type nullable none
        (if counting then "auto_increment" else "") "") =
      type ++ ((if nullable then " NULL" else " NOT NULL") ++
        if counting then " AUTO_INCREMENT" else "") := by
  have hnull : (some (if nullable then "YES" else "NO") = some "YES") = (nullable = true) := by
    cases nullable
    · decide +kernel
    · decide +kernel
  have hcounts : contains (lowered (if counting then "auto_increment" else "")) "auto_increment" =
      counting := by
    cases counting
    · decide +kernel
    · decide +kernel
  have hupdate : onUpdateTarget? (if counting then "auto_increment" else "") = none := by
    cases counting
    · decide +kernel
    · decide +kernel
  have hcomment : ((some "").filter (· ≠ "") : Option String) = none := by decide +kernel
  unfold definitionOfRow
  simp only [Memory.columnRow_type, Memory.columnRow_extra, Memory.columnRow_null,
    Memory.columnRow_default, Memory.columnRow_comment, Option.getD_some, hnull, hcounts, hupdate,
    hcomment, String.append_empty, String.append_assoc]

/-- Of a column that a statement created, the definition is the type and what has no comma. -/
theorem definitionOfRow_columnRowOfClause (name clause : String) :
    ∃ more, ',' ∉ more ∧ (definitionOfRow (Memory.columnRowOfClause name clause)).toList =
      (firstWord clause.toList).map Char.toLower ++ more := by
  let upper := clause.toList.map Char.toUpper
  let sign : List Char := if occursIn " UNSIGNED".toList upper then " unsigned".toList else []
  have hrow : Memory.columnRowOfClause name clause =
      Memory.columnRow name (String.ofList ((firstWord clause.toList).map Char.toLower ++ sign))
        (!occursIn "NOT NULL".toList upper) none
        (if occursIn "AUTO_INCREMENT".toList upper then "auto_increment" else "") "" := rfl
  rw [hrow, definitionOfRow_columnRow, String.toList_append, String.toList_ofList,
    List.append_assoc]
  refine ⟨_, ?_, rfl⟩
  -- What follows the type are words without commas, whichever of them are there.
  have hsign : ',' ∉ sign := by
    show ',' ∉ (if occursIn " UNSIGNED".toList upper then " unsigned".toList else [])
    split
    · decide +kernel
    · exact List.not_mem_nil
  generalize occursIn "NOT NULL".toList upper = required
  generalize occursIn "AUTO_INCREMENT".toList upper = counting
  have hwords : ',' ∉ ((if !required then " NULL" else " NOT NULL") ++
      if counting then " AUTO_INCREMENT" else "").toList := by
    cases required
    · cases counting <;> decide +kernel
    · cases counting <;> decide +kernel
  exact fun hcomma => (List.mem_append.1 hcomma).elim hsign hwords

theorem unseparated_definitionOfRow (name : String) {clause : String}
    (h : Unseparated (outside 0) (firstWord clause.toList)) :
    Unseparated (outside 0) (definitionOfRow (Memory.columnRowOfClause name clause)).toList := by
  obtain ⟨more, hmore, hdefinition⟩ := definitionOfRow_columnRowOfClause name clause
  rw [hdefinition]
  exact h.toLower.append_of_not_mem hmore

/-- The action that renames a column, up to the definition. -/
def renameAction (old new : String) : List Char :=
  ['C', 'H', 'A', 'N', 'G', 'E', ' '] ++ (ident old.toList ++ ' ' :: ident new.toList)

theorem toList_renameColumnSql (table old new : String) (row : Row) :
    (renameColumnSql table old new row).toList = "ALTER TABLE ".toList ++ ident table.toList ++
      ' ' :: (renameAction old new ++ ' ' :: (definitionOfRow row).toList) := by
  have hword : " CHANGE ".toList = [' ', 'C', 'H', 'A', 'N', 'G', 'E', ' '] := by decide +kernel
  have hblank : " ".toList = [' '] := by decide +kernel
  unfold renameColumnSql
  simp only [String.toList_append, Migration.toList_quoteIdent, hword, hblank, List.append_assoc,
    List.cons_append, List.nil_append, renameAction]

theorem closed_renameAction (old new : String) : Closed 0 (renameAction old new) := by
  have hblank : Closed 0 [' '] := .plain (by decide)
  exact Closed.append (.plain (by decide)) ((Closed.ident _).append (hblank.append (.ident _)))

theorem getLast?_renameAction (old new : String) :
    (renameAction old new).getLast? = some '\x60' := by
  rw [renameAction, List.getLast?_append, List.getLast?_append, List.getLast?_cons, getLast?_ident]
  rfl

/-- However it goes on, the action renames the column. -/
theorem ofClause_renameAction (old new : String) {kept : List Char}
    (hkept : kept.head? ≠ some '\x60') :
    ColumnChange.ofClause (renameAction old new ++ kept) =
      .rename old.toList new.toList (trim kept) := by
  have hadd : ∀ rest : List Char,
      afterWords? "ADD COLUMN".toList (['C', 'H', 'A', 'N', 'G', 'E', ' '] ++ rest) = none :=
    fun _ => rfl
  have hdrop : ∀ rest : List Char,
      afterWords? "DROP COLUMN".toList (['C', 'H', 'A', 'N', 'G', 'E', ' '] ++ rest) = none :=
    fun _ => rfl
  have hchange : ∀ rest : List Char, afterWords? "CHANGE".toList
      (['C', 'H', 'A', 'N', 'G', 'E', ' '] ++ rest) = some (' ' :: rest) := fun _ => rfl
  have hnext : ∀ rest : List Char, (' ' :: rest).head? ≠ some '\x60' := fun _ hquote =>
    absurd (Option.some.inj hquote) (by decide)
  rw [renameAction, List.append_assoc, ColumnChange.ofClause, hadd, hdrop, hchange]
  dsimp only
  rw [readIdent?_blank, List.append_assoc, List.cons_append, readIdent?_ident_append _ _ (hnext _)]
  dsimp only
  rw [readIdent?_blank, readIdent?_ident_append _ _ hkept]

/-- A statement with one action, in which no comma separates, reads as that action without
the blanks at its end. -/
theorem read_oneAction (ledger table : String) {sql : String} {action rest : List Char} {c d : Char}
    (htext : sql.toList =
      "ALTER TABLE ".toList ++ ident table.toList ++ ' ' :: (action ++ ' ' :: rest))
    (hfirst : action.head? = some c) (hc : isBlank c = false)
    (hlast : action.getLast? = some d) (hd : isBlank d = false)
    (haction : Unseparated (outside 0) (action ++ ' ' :: rest)) :
    Command.read ledger sql = .change (.ok (.alter table.toList
      [ColumnChange.ofClause (action ++ trimEnd (' ' :: rest))])) := by
  have hlast' : (' ' :: action).getLast? = some d := by
    rw [List.getLast?_cons, hlast]
    rfl
  have hend : trimEnd (' ' :: (action ++ ' ' :: rest)) =
      [' '] ++ (action ++ trimEnd (' ' :: rest)) := trimEnd_append hlast' hd
  have hkept : Unseparated (outside 0) ([' '] ++ (action ++ trimEnd (' ' :: rest))) :=
    (haction.mono ((List.prefix_append_right_inj action).2 (isPrefix_trimEnd _))).blank
  have htrim : trim ([' '] ++ (action ++ trimEnd (' ' :: rest))) =
      action ++ trimEnd (' ' :: rest) := by
    rw [trim_append_blanks (by decide), trim_append_left hfirst hlast hc hd, trimEnd_trimEnd]
  have hne : action ++ trimEnd (' ' :: rest) ≠ [] := fun hnil =>
    List.ne_nil_of_mem (List.mem_of_getLast? hlast) (List.append_eq_nil_iff.1 hnil).1
  have hclauses : clauses ([' '] ++ (action ++ trimEnd (' ' :: rest))) =
      [action ++ trimEnd (' ' :: rest)] := by
    rw [clauses_of_unseparated hkept (htrim.symm ▸ hne), htrim]
  rw [read_alterTable ledger table htext, hend, hclauses, List.map_singleton]

/-- The statement that renames a column reads as one change. No comma separates in what is
kept of its clause, up to the first blank. -/
theorem read_renameColumn (ledger table old new : String) {row : Row}
    (hrow : Unseparated (outside 0) (definitionOfRow row).toList) :
    ∃ clause, Command.read ledger (renameColumnSql table old new row) =
        .change (.ok (.alter table.toList [.rename old.toList new.toList clause])) ∧
      Unseparated (outside 0) (firstWord clause) := by
  have hread := read_oneAction ledger table (toList_renameColumnSql table old new row) rfl
    (by decide) (getLast?_renameAction old new) (by decide)
    ((closed_renameAction old new).unseparated_append hrow.blank)
  rw [ofClause_renameAction old new (head?_trimEnd_cons (by decide) _)] at hread
  exact ⟨_, hread, (hrow.blank.mono (isPrefix_trimEnd _)).trim.firstWord⟩

end SchemaMigration.Schema
