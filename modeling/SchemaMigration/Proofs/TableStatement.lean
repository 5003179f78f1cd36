import SchemaMigration.Table.Statement

/-
  What a blueprint's statement depends on.

  A key column and a primary index over one column are two ways to declare the
  same key, and their clauses are the same text in the same place. `keyIndexes`
  lists both as indexes; the checks and the statement that creates the table only
  see this list.

  Main statements: `check_eq_ok_iff`, what a blueprint that passes its checks
  satisfies, and `createStatement_congr`, blueprints with the same columns, key
  indexes, foreign keys and options create their table by the same statement.
-/
namespace SchemaMigration.Table

open Sql

/-! ## Checks that pass -/

section Checks
variable {ε α : Type}

theorem bind_eq_ok_iff {x : Except ε Unit} {y : Unit → Except ε α} {a : α} :
    x >>= y = .ok a ↔ x = .ok () ∧ y () = .ok a := by
  cases x with
  | error e =>
    constructor
    · intro h
      cases h
    · rintro ⟨h, -⟩
      cases h
  | ok u => exact ⟨fun h => ⟨rfl, h⟩, fun h => h.2⟩

theorem forM_eq_ok_iff {f : α → Except ε Unit} {l : List α} :
    l.forM f = .ok () ↔ ∀ a ∈ l, f a = .ok () := by
  induction l with
  | nil => exact ⟨fun _ a ha => absurd ha List.not_mem_nil, fun _ => rfl⟩
  | cons a l ih =>
    show (f a >>= fun _ => l.forM f) = .ok () ↔ _
    rw [bind_eq_ok_iff, ih, List.forall_mem_cons]

end Checks

/-- A definition is its type and what is given of six more parts. -/
theorem Column.definition_parts (c : Column) : c.definition =
    c.type.sql ++ (if c.unsigned && c.type.acceptsUnsigned then " UNSIGNED" else "") ++
      (if c.nullable then " NULL" else " NOT NULL") ++
      (if c.autoIncrement then " AUTO_INCREMENT" else "") ++
      (c.default.map fun d => " DEFAULT " ++ d.sql c.type.fractionalPrecision).getD "" ++
      (if c.onUpdateCurrentTimestamp then
        " ON UPDATE " ++ currentTimestampSql c.type.fractionalPrecision else "") ++
      (c.comment.map fun text => " COMMENT " ++ quoteLiteral text).getD "" := by
  rw [Column.definition]
  cases c.default <;> cases c.comment <;> rfl

/-- An index that passes its check has columns. -/
theorem Index.check_eq_ok_iff {table : String} {i : Index} :
    i.check table = .ok () ↔ i.columns ≠ [] := by
  rw [Index.check]
  by_cases hnil : i.columns = []
  · rw [if_pos hnil]
    exact iff_of_false nofun fun hne => hne hnil
  · rw [if_neg hnil]
    exact iff_of_true rfl hnil

/-- A foreign key that passes its check names a table, and pairs its columns. -/
theorem ForeignKey.check_eq_ok_iff {fk : ForeignKey} :
    fk.check = .ok () ↔ fk.referencesTable ≠ "" ∧ fk.columns ≠ [] ∧
      fk.columns.length = fk.referencesColumns.length := by
  rw [ForeignKey.check]
  by_cases htable : fk.referencesTable = ""
  · rw [if_pos htable]
    exact iff_of_false nofun fun h => h.1 htable
  rw [if_neg htable]
  by_cases hunpaired : fk.columns = [] ∨ fk.columns.length ≠ fk.referencesColumns.length
  · rw [if_pos hunpaired]
    exact iff_of_false nofun fun h => hunpaired.elim h.2.1 fun hne => hne h.2.2
  · rw [if_neg hunpaired]
    obtain ⟨hne, hlength⟩ := not_or.1 hunpaired
    exact iff_of_true rfl ⟨htable, hne, Decidable.not_not.1 hlength⟩

namespace Blueprint

/-- The keys of a blueprint as indexes: the key column, then the declared ones. -/
def keyIndexes (b : Blueprint) : List Index :=
  b.primaryColumn.toList.map (fun name => ⟨.primary, "PRIMARY", [name]⟩) ++ b.indexes

theorem clauses_eq (b : Blueprint) :
    b.clauses = b.columns.map Column.sql ++ b.keyIndexes.map Index.sql ++
      b.foreignKeys.map ForeignKey.sql := by
  have hkey : b.primaryColumn.toList.map (fun name => "PRIMARY KEY (" ++ quoteIdent name ++ ")") =
      (b.primaryColumn.toList.map fun name => ⟨.primary, "PRIMARY", [name]⟩).map Index.sql := by
    rw [List.map_map]
    apply List.map_congr_left
    intro name _
    simp [Index.sql, identList]
  rw [clauses, keyIndexes, List.map_append, hkey]
  simp only [List.append_assoc]

theorem primaryKeys_eq (b : Blueprint) :
    b.primaryKeys = b.keyIndexes.countP (·.kind == .primary) := by
  rw [primaryKeys, keyIndexes, List.countP_append, Nat.add_comm]
  cases b.primaryColumn <;> rfl

/-- What a blueprint that passes its checks satisfies. -/
theorem check_eq_ok_iff {b : Blueprint} :
    b.check = .ok () ↔
      checkName .table b.table = .ok () ∧
      (∀ c ∈ b.columns, checkName .column c.name = .ok () ∧ c.check b.table = .ok ()) ∧
      (∀ i ∈ b.keyIndexes, checkName i.kind.named i.name = .ok () ∧ i.check b.table = .ok ()) ∧
      b.keyIndexes.countP (·.kind == .primary) ≤ 1 ∧
      ∀ fk ∈ b.foreignKeys, checkName .foreignKey fk.name = .ok () ∧ fk.check = .ok () := by
  -- The key of a key column is not checked, but would pass.
  have hprimary : ∀ i ∈ b.primaryColumn.toList.map
      (fun name => (⟨.primary, "PRIMARY", [name]⟩ : Index)),
      checkName i.kind.named i.name = .ok () ∧ i.check b.table = .ok () := by
    intro i hi
    obtain ⟨name, -, rfl⟩ := List.mem_map.1 hi
    have hshort : ¬maxNameLength < "PRIMARY".length := by decide
    exact ⟨if_neg hshort, rfl⟩
  have hkeys : (∀ i ∈ b.keyIndexes,
        checkName i.kind.named i.name = .ok () ∧ i.check b.table = .ok ()) ↔
      ∀ i ∈ b.indexes, checkName i.kind.named i.name = .ok () ∧ i.check b.table = .ok () := by
    rw [keyIndexes, List.forall_mem_append]
    exact and_iff_right hprimary
  -- The key column counts as a primary key like the indexes.
  have hseveral : ∀ rest : Except Fault Unit,
      (if 1 < b.primaryKeys then (do Except.error (.severalPrimaryKeys b.table); rest)
        else do Except.ok (); rest) = .ok () ↔
      b.keyIndexes.countP (·.kind == .primary) ≤ 1 ∧ rest = .ok () := by
    intro rest
    rw [← primaryKeys_eq]
    by_cases hmany : 1 < b.primaryKeys
    · rw [if_pos hmany, bind_eq_ok_iff]
      constructor
      · rintro ⟨h, -⟩
        cases h
      · rintro ⟨h, -⟩
        omega
    · rw [if_neg hmany, bind_eq_ok_iff]
      exact and_congr_left fun _ => ⟨fun _ => Nat.le_of_not_lt hmany, fun _ => rfl⟩
  rw [hkeys]
  simp only [check, checkNames, bind_eq_ok_iff, forM_eq_ok_iff, hseveral]
  constructor
  · rintro ⟨⟨htable, hcolumns, hindexes, hforeign⟩, hcolumns', hone, hindexes', hforeign'⟩
    exact ⟨htable, fun c hc => ⟨hcolumns c hc, hcolumns' c hc⟩,
      fun i hi => ⟨hindexes i hi, hindexes' i hi⟩, hone,
      fun fk hfk => ⟨hforeign fk hfk, hforeign' fk hfk⟩⟩
  · rintro ⟨htable, hcolumns, hindexes, hone, hforeign⟩
    exact ⟨⟨htable, fun c hc => (hcolumns c hc).1, fun i hi => (hindexes i hi).1,
      fun fk hfk => (hforeign fk hfk).1⟩, fun c hc => (hcolumns c hc).2, hone,
      fun i hi => (hindexes i hi).2, fun fk hfk => (hforeign fk hfk).2⟩

theorem createStatement_eq_ok_iff {b : Blueprint} {sql : String} :
    b.createStatement = .ok sql ↔ b.check = .ok () ∧ b.columns ≠ [] ∧ b.createText = sql := by
  rw [createStatement, bind_eq_ok_iff]
  by_cases h : b.columns = [] <;> simp [h]

/-- The statement depends on the columns, the key indexes, the foreign keys and the
options. -/
theorem createStatement_congr {b d : Blueprint} {sql : String} (htable : d.table = b.table)
    (hcolumns : d.columns = b.columns) (hkeys : d.keyIndexes = b.keyIndexes)
    (hforeign : d.foreignKeys = b.foreignKeys)
    (hoptions : (d.engine, d.charset, d.collation, d.comment) =
      (b.engine, b.charset, b.collation, b.comment))
    (h : b.createStatement = .ok sql) : d.createStatement = .ok sql := by
  obtain ⟨hcheck, hne, rfl⟩ := createStatement_eq_ok_iff.1 h
  simp only [Prod.mk.injEq] at hoptions
  obtain ⟨hengine, hcharset, hcollation, hcomment⟩ := hoptions
  refine createStatement_eq_ok_iff.2 ⟨?_, hcolumns ▸ hne, ?_⟩
  · rw [check_eq_ok_iff] at hcheck ⊢
    rwa [htable, hcolumns, hkeys, hforeign]
  · have hclauses : d.clauses = b.clauses := by
      rw [clauses_eq, clauses_eq, hcolumns, hkeys, hforeign]
    unfold createText
    rw [hclauses, htable, hengine, hcharset, hcollation, hcomment]

end Blueprint

end SchemaMigration.Table
