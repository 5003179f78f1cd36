import SchemaMigration.Proofs.LedgerStatements
import SchemaMigration.Proofs.ScriptEffects
import SchemaMigration.Proofs.TableStatement

/-
  What scripts send that ask nothing.

  A call that asks nothing fails at once or sends its statements one by one, the same on
  every connection. Only an alteration sends several. In a database in memory its
  statements fail where they are bound to, and nowhere else.

  Main statements: `sendsKnown_of_asksNothing` and `execute_of_alters`.
-/
namespace SchemaMigration.Schema

open Sql Text Table Database Catalog

/-! ## Calls as statements -/

section
variable {σ : Type} [Connection σ]

/-- Fails at once, or sends statements one after the other. -/
def sendAll : Except Error (List String) → Action σ Unit
  | .ok sqls => sqls.forM statement
  | .error e => throw e

theorem sendAll_singleton (sql : String) :
    (sendAll (.ok [sql]) : Action σ Unit) = statement sql := bind_pure (statement sql)

/-- The statement that adds a key to a table. -/
def addKeySql (table clause : String) : String :=
  "ALTER TABLE " ++ quoteIdent table ++ " ADD " ++ clause

/-- The statements of an alteration: columns, then indexes, then foreign keys. -/
def alterationSql (b : Blueprint) : Except Fault (List String) :=
  b.alterStatements.map fun columns =>
    columns ++ (b.indexes.map Index.sql ++ b.foreignKeys.map ForeignKey.sql).map (addKeySql b.table)

theorem forM_eq_forM_statement {α : Type} {l : List α} {f : α → Action σ Unit} {g : α → String}
    (h : ∀ a ∈ l, f a = statement (g a)) : l.forM f = (l.map g).forM statement := by
  induction l with
  | nil => rfl
  | cons a l ih =>
    obtain ⟨ha, hl⟩ := List.forall_mem_cons.1 h
    show (f a >>= fun _ => l.forM f) = (statement (g a) >>= fun _ => (l.map g).forM statement)
    rw [ha, ih hl]

/-- What an alteration checks of a key, the check of the blueprint has passed. -/
theorem alterTable_eq (b : Blueprint) :
    (alterTable b : Action σ Unit) = sendAll ((alterationSql b).mapError .invalid) := by
  rw [alterTable, alterationSql]
  cases hcheck : b.alterStatements with
  | error f => rfl
  | ok columns =>
    obtain ⟨hok, -⟩ := bind_eq_ok_iff.1 hcheck
    obtain ⟨-, -, hindexes, -, hforeign⟩ := Blueprint.check_eq_ok_iff.1 hok
    -- The checks of single keys repeat what the whole blueprint was checked for.
    have hindex : b.indexes.forM (addIndex b.table) =
        (b.indexes.map (addKeySql b.table ∘ Index.sql)).forM (statement (σ := σ)) := by
      refine forM_eq_forM_statement fun i hi => if_neg fun hnil => ?_
      exact Index.check_eq_ok_iff.1 (hindexes i (List.mem_append_right _ hi)).2 hnil
    have hkey : b.foreignKeys.forM (addForeignKey b.table) =
        (b.foreignKeys.map (addKeySql b.table ∘ ForeignKey.sql)).forM (statement (σ := σ)) := by
      refine forM_eq_forM_statement fun fk hfk => if_neg fun hincomplete => ?_
      obtain ⟨hnamed, -, hpaired⟩ := ForeignKey.check_eq_ok_iff.1 (hforeign fk hfk).2
      exact hincomplete.elim hnamed fun hne => hne hpaired
    show (columns.forM statement >>= fun _ => b.indexes.forM (addIndex b.table) >>= fun _ =>
      b.foreignKeys.forM (addForeignKey b.table)) = forM (columns ++ _) statement
    rw [hindex, hkey, List.map_append, List.map_map, List.map_map, List.forM_append,
      List.forM_append]
    rfl

end

/-! ## Scripts that ask nothing -/

mutual

/-- Whether an operation is a gateway call that asks nothing of the schema, a failure,
or made of such. -/
def Operation.asksNothing : Operation → Bool
  | .hasTable _ | .hasColumn _ _ | .renameColumn _ _ _ | .tables | .columns _
  | .execute _ _ | .query _ _ | .queryOne _ _ | .begin | .commit | .rollback
  | .ifHasTable _ _ _ | .ifHasColumn _ _ _ _ => false
  | .attempt ops => asksNothingAll ops
  | _ => true

/-- Whether no operation of a script asks anything. -/
def asksNothingAll : List Operation → Bool
  | [] => true
  | op :: rest => op.asksNothing && asksNothingAll rest

end

mutual

/-- The statements on the way of an operation: those that, if they failed, would keep an
alteration from sending the rest. -/
def Operation.midway : Operation → List String
  | .alter table ds => match alterationSql (Blueprint.ofDeclarations table ds) with
    | .ok sqls => sqls.dropLast
    | .error _ => []
  | .attempt ops => midwayAll ops
  | _ => []

/-- The statements on the way of some operations. -/
def midwayAll : List Operation → List String
  | [] => []
  | op :: rest => op.midway ++ midwayAll rest

end

/-- The statements on the way of operations of which a script catches the failures. -/
def caughtMidway (script : List Operation) : List String :=
  script.flatMap fun
    | .attempt ops => midwayAll ops
    | _ => []

/-- On every connection, the operation fails at once or sends the statements. -/
def Operation.Sends (op : Operation) (r : Except Error (List String)) : Prop :=
  ∀ {σ : Type} [Connection σ], (op.run : Action σ Outcome) = done (sendAll r)

/-- Whether the statement alters a table. -/
def Alters (sql : String) : Prop :=
  ∃ table, Begins ("ALTER TABLE " ++ quoteIdent table ++ " ") sql

theorem begins_alterTable (table rest : String) :
    Begins ("ALTER TABLE " ++ quoteIdent table ++ " ")
      ("ALTER TABLE " ++ quoteIdent table ++ (" " ++ rest)) := by
  rw [← String.append_assoc]
  exact begins_append _ rest

theorem alters_addKeySql (table clause : String) : Alters (addKeySql table clause) :=
  ⟨table, (begins_alterTable table "ADD ").append clause⟩

theorem alters_addColumnText (b : Blueprint) (c : Column) : Alters (b.addColumnText c) :=
  ⟨b.table, (((begins_alterTable b.table "ADD COLUMN ").append _).append _).append _⟩

theorem alters_of_mem {b : Blueprint} {sqls : List String} (h : alterationSql b = .ok sqls)
    {sql : String} (hsql : sql ∈ sqls) : Alters sql := by
  rw [alterationSql, Blueprint.alterStatements] at h
  cases hcheck : b.check with
  | error f =>
    rw [hcheck] at h
    cases h
  | ok _ =>
    rw [hcheck] at h
    obtain rfl := Except.ok.inj h
    rcases List.mem_append.1 hsql with hcolumn | hkey
    · obtain ⟨c, -, rfl⟩ := List.mem_map.1 hcolumn
      exact alters_addColumnText b c
    · obtain ⟨clause, -, rfl⟩ := List.mem_map.1 hkey
      exact alters_addKeySql b.table clause

/-- The operation sends statements that it knows beforehand, and those that are not the last
are alterations on its way. -/
def SendsKnown (op : Operation) : Prop :=
  ∃ r, op.Sends r ∧ ∀ sqls, r = .ok sqls → ∀ sql ∈ sqls.dropLast, sql ∈ op.midway ∧ Alters sql

namespace SendsKnown

variable {op : Operation}

theorem of_error (e : Error) (h : op.Sends (.error e)) : SendsKnown op := ⟨.error e, h, nofun⟩

theorem of_length_le_one (sqls : List String) (hlength : sqls.length ≤ 1)
    (h : op.Sends (.ok sqls)) : SendsKnown op := by
  refine ⟨.ok sqls, h, ?_⟩
  rintro _ ⟨⟩ sql hsql
  have hnil : sqls.dropLast = [] := by
    rw [← List.length_eq_zero_iff, List.length_dropLast]
    omega
  rw [hnil] at hsql
  exact absurd hsql List.not_mem_nil

theorem of_statement (sql : String)
    (h : ∀ {σ : Type} [Connection σ], (op.run : Action σ Outcome) = done (statement sql)) :
    SendsKnown op := by
  refine of_length_le_one [sql] (Nat.le_refl 1) fun {σ} _ => ?_
  rw [h, sendAll_singleton]

/-- A statement behind a check of what it is made from. -/
theorem of_checked (c : Prop) [Decidable c] (e : Error) (sql : String)
    (h : ∀ {σ : Type} [Connection σ],
      (op.run : Action σ Outcome) = done (if c then throw e else statement sql)) :
    SendsKnown op := by
  by_cases hc : c
  · refine of_error e fun {σ} _ => ?_
    rw [h, if_pos hc]
    rfl
  · refine of_statement sql fun {σ} _ => ?_
    rw [h, if_neg hc]

theorem create (table : String) (ds : List Declaration) : SendsKnown (.create table ds) := by
  cases hcreate : (Blueprint.ofDeclarations table ds).createStatement with
  | error f =>
    refine of_error (.invalid f) fun {σ} _ => ?_
    rw [Operation.run, createTable, hcreate]
    rfl
  | ok sql =>
    refine of_statement sql fun {σ} _ => ?_
    rw [Operation.run, createTable, hcreate]
    rfl

theorem alter (table : String) (ds : List Declaration) : SendsKnown (.alter table ds) := by
  refine ⟨(alterationSql (Blueprint.ofDeclarations table ds)).mapError .invalid,
    fun {σ} _ => ?_, fun sqls hsqls sql hsql => ?_⟩
  · rw [Operation.run, alterTable_eq]
  · rw [Operation.midway]
    cases halter : alterationSql (Blueprint.ofDeclarations table ds) with
    | error f =>
      rw [halter] at hsqls
      cases hsqls
    | ok sqls' =>
      rw [halter] at hsqls
      obtain rfl := Except.ok.inj hsqls
      exact ⟨hsql, alters_of_mem halter ((List.dropLast_sublist _).subset hsql)⟩

theorem dropColumns (table : String) (columns : List String) :
    SendsKnown (.dropColumns table columns) := by
  by_cases hnone : columns = []
  · refine of_length_le_one [] (Nat.zero_le 1) fun {σ} _ => ?_
    rw [Operation.run, Schema.dropColumns, if_pos hnone]
    rfl
  · apply of_statement
    intro σ _
    rw [Operation.run, Schema.dropColumns, if_neg hnone]

end SendsKnown

/-- A call that asks nothing sends at most one statement, unless it is an alteration. -/
theorem sendsKnown_of_asksNothing {op : Operation} (hop : op.asksNothing = true)
    (hattempt : ∀ ops, op ≠ .attempt ops) : SendsKnown op := by
  cases op with
  | create table ds => exact .create table ds
  | alter table ds => exact .alter table ds
  | drop table | dropIfExists table | rename old new | dropIndex table name
  | dropForeignKey table name | disableForeignKeyChecks | enableForeignKeyChecks =>
    apply SendsKnown.of_statement
    intro σ _
    rw [Operation.run]
    rfl
  | dropColumns table columns => exact .dropColumns table columns
  | statement sql => exact .of_statement sql fun {σ} _ => by rw [Operation.run]
  | addIndex table i =>
    refine .of_checked (i.columns = []) (.invalid (.indexWithoutColumns table i.name))
      (addKeySql table i.sql) fun {σ} _ => ?_
    rw [Operation.run]
    rfl
  | addForeignKey table fk =>
    refine .of_checked
      (fk.referencesTable = "" ∨ fk.columns.length ≠ fk.referencesColumns.length)
      (.invalid (.incompleteForeignKey fk.name)) (addKeySql table fk.sql) fun {σ} _ => ?_
    rw [Operation.run]
    rfl
  | fail e => exact .of_error e fun {σ} _ => by rw [Operation.run]; rfl
  | attempt ops => exact absurd rfl (hattempt ops)
  | _ => exact absurd hop Bool.false_ne_true

/-! ## Alterations in a database in memory -/

/-- A statement that alters a table reads as the actions that follow the name. -/
theorem read_alterTable (ledger table : String) {sql : String} {rest : List Char}
    (h : sql.toList = "ALTER TABLE ".toList ++ ident table.toList ++ ' ' :: rest) :
    Command.read ledger sql = .change (.ok (.alter table.toList
      ((clauses (trimEnd (' ' :: rest))).map ColumnChange.ofClause))) := by
  have hlast : ("ALTER TABLE ".toList ++ ident table.toList).getLast? = some '\x60' := by
    rw [ident, List.getLast?_append, List.getLast?_append]
    rfl
  have htrim : trim sql.toList =
      "ALTER TABLE ".toList ++ (ident table.toList ++ trimEnd (' ' :: rest)) := by
    rw [h, trim_append_left rfl hlast (by decide) (by decide), List.append_assoc]
  have hread := Migration.read_of_schemaWord ledger htrim (by decide) (fun _ => ⟨rfl, rfl, rfl⟩)
    fun _ => rfl
  -- No backtick follows the name, so the name is read to its end.
  have hnext : (trimEnd (' ' :: rest)).head? ≠ some '\x60' := head?_trimEnd_cons (by decide) rest
  have hname : SchemaChange.readAlter
      ("ALTER TABLE ".toList ++ (ident table.toList ++ trimEnd (' ' :: rest)))
      (' ' :: (ident table.toList ++ trimEnd (' ' :: rest))) =
      .ok (.alter table.toList ((clauses (trimEnd (' ' :: rest))).map ColumnChange.ofClause)) := by
    rw [SchemaChange.readAlter, readIdent?_blank, readIdent?_ident_append _ _ hnext]
  rw [hread, ← hname]
  rfl

theorem read_of_alters (ledger : String) {sql : String} (h : Alters sql) :
    ∃ table changes, Command.read ledger sql = .change (.ok (.alter table changes)) := by
  obtain ⟨table, rest, hrest⟩ := h
  have htext : sql.toList = "ALTER TABLE ".toList ++ ident table.toList ++ ' ' :: rest := by
    rw [← hrest]
    simp only [String.toList_append, Migration.toList_quoteIdent, List.append_assoc]
    rfl
  exact ⟨_, _, read_alterTable ledger table htext⟩

/-- A statement that alters a table fails only if it is bound to. -/
theorem execute_of_alters {db : Memory} {sql : String} (h : Alters sql)
    (hbound : db.isBoundToFail sql = false) : ∃ n, (db.execute sql []).1 = .ok n := by
  obtain ⟨table, changes, hread⟩ := read_of_alters db.ledgerTable h
  rw [Memory.execute_eq, hbound, if_neg Bool.false_ne_true, hread, Memory.perform]
  dsimp only
  rw [Memory.changeSchema]
  split
  · exact ⟨0, rfl⟩
  · exact ⟨0, rfl⟩

end SchemaMigration.Schema
