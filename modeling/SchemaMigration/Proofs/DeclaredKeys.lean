import SchemaMigration.Proofs.TableStatement
import SchemaMigration.Table.Declaration

/-
  The keys that declarations leave in a blueprint.

  A primary index is one more member of a list, but a key column takes the place of the
  one declared before it. So a blueprint counts its primary indexes, and all of its key
  columns as one.

  Main statement: `compiles_iff_keys`, the declarations that become a statement.
-/
namespace SchemaMigration.Table

/-- The column that a declaration makes the key of the table. -/
def Declaration.keyColumn? : Declaration → Option String
  | .id name => some name
  | .increments name => some name
  | _ => none

/-- Whether a declaration is that of a primary index. -/
def Declaration.isPrimary : Declaration → Bool
  | .primary _ => true
  | _ => false

/-- The number of keys that are declared, as columns and as indexes. -/
def declaredKeys (ds : List Declaration) : Nat :=
  (ds.filterMap Declaration.keyColumn?).length + ds.countP Declaration.isPrimary

namespace Blueprint

/-! ## What declarations leave -/

theorem primaryColumn_declare (b : Blueprint) (d : Declaration) :
    (b.declare d).primaryColumn = d.keyColumn?.or b.primaryColumn := by
  cases d <;> rfl

theorem countP_declare (b : Blueprint) (d : Declaration) :
    (b.declare d).indexes.countP (·.kind == .primary) =
      b.indexes.countP (·.kind == .primary) + (if d.isPrimary then 1 else 0) := by
  cases d with
  | primary columns => exact List.countP_append
  | unique name columns => exact List.countP_append
  | index name columns => exact List.countP_append
  | _ => rfl

theorem primaryColumn_foldl (b : Blueprint) (ds : List Declaration) :
    (ds.foldl declare b).primaryColumn =
      (ds.filterMap Declaration.keyColumn?).getLast?.or b.primaryColumn := by
  induction ds generalizing b with
  | nil => rfl
  | cons d ds ih =>
    rw [List.foldl_cons, ih, primaryColumn_declare, List.filterMap_cons]
    cases d.keyColumn? with
    | none => rfl
    | some name =>
      rw [List.getLast?_cons]
      cases (ds.filterMap Declaration.keyColumn?).getLast? <;> rfl

theorem countP_foldl (b : Blueprint) (ds : List Declaration) :
    (ds.foldl declare b).indexes.countP (·.kind == .primary) =
      b.indexes.countP (·.kind == .primary) + ds.countP Declaration.isPrimary := by
  induction ds generalizing b with
  | nil => rfl
  | cons d ds ih => rw [List.foldl_cons, ih, countP_declare, List.countP_cons]; omega

/-- The key column is the one declared last. -/
theorem primaryColumn_ofDeclarations (table : String) (ds : List Declaration) :
    (ofDeclarations table ds).primaryColumn =
      (ds.filterMap Declaration.keyColumn?).getLast? := by
  rw [ofDeclarations, primaryColumn_foldl]
  exact Option.or_none

/-- All key columns together count as one key. -/
theorem primaryKeys_ofDeclarations (table : String) (ds : List Declaration) :
    (ofDeclarations table ds).primaryKeys = ds.countP Declaration.isPrimary +
      (if ds.filterMap Declaration.keyColumn? = [] then 0 else 1) := by
  have hindexes : (ofDeclarations table ds).indexes.countP (·.kind == .primary) =
      ds.countP Declaration.isPrimary :=
    (countP_foldl (empty table) ds).trans (Nat.zero_add _)
  rw [primaryKeys, hindexes, primaryColumn_ofDeclarations]
  cases ds.filterMap Declaration.keyColumn? <;> rfl

theorem primaryKeys_le_one_iff (table : String) (ds : List Declaration) :
    (ofDeclarations table ds).primaryKeys ≤ 1 ↔
      declaredKeys ds ≤ 1 ∨ ∀ d ∈ ds, d.isPrimary = false := by
  have hnone : (∀ d ∈ ds, d.isPrimary = false) ↔ ds.countP Declaration.isPrimary = 0 := by
    simp only [List.countP_eq_zero, Bool.not_eq_true]
  rw [primaryKeys_ofDeclarations, declaredKeys, hnone]
  cases ds.filterMap Declaration.keyColumn? with
  | nil =>
    rw [if_pos rfl, List.length_nil]
    omega
  | cons name names =>
    rw [if_neg (List.cons_ne_nil name names), List.length_cons]
    omega

/-! ## What becomes a statement -/

/-- Everything that is checked about a blueprint but the number of its keys. -/
structure Sound (b : Blueprint) : Prop where
  table : checkName .table b.table = .ok ()
  columns : ∀ c ∈ b.columns, checkName .column c.name = .ok () ∧ c.check b.table = .ok ()
  indexes : ∀ i ∈ b.keyIndexes, checkName i.kind.named i.name = .ok () ∧ i.check b.table = .ok ()
  foreignKeys : ∀ fk ∈ b.foreignKeys, checkName .foreignKey fk.name = .ok () ∧ fk.check = .ok ()

theorem check_eq_ok_iff_sound {b : Blueprint} :
    b.check = .ok () ↔ b.Sound ∧ b.primaryKeys ≤ 1 := by
  rw [check_eq_ok_iff, primaryKeys_eq]
  constructor
  · rintro ⟨htable, hcolumns, hindexes, hone, hforeign⟩
    exact ⟨⟨htable, hcolumns, hindexes, hforeign⟩, hone⟩
  · rintro ⟨⟨htable, hcolumns, hindexes, hforeign⟩, hone⟩
    exact ⟨htable, hcolumns, hindexes, hone, hforeign⟩

theorem alterStatements_eq_ok_iff {b : Blueprint} {texts : List String} :
    b.alterStatements = .ok texts ↔ b.check = .ok () ∧ b.columns.map b.addColumnText = texts := by
  rw [alterStatements, bind_eq_ok_iff, Except.ok.injEq]

/-- Declarations become statements if they are sound and declare one key at most or no
primary index. Then the key column is the one declared last. -/
theorem compiles_iff_keys (table : String) (ds : List Declaration) :
    ((∃ sql, (ofDeclarations table ds).createStatement = .ok sql) ↔
      (ofDeclarations table ds).Sound ∧ (ofDeclarations table ds).columns ≠ [] ∧
        (declaredKeys ds ≤ 1 ∨ ∀ d ∈ ds, d.isPrimary = false)) ∧
    ((∃ texts, (ofDeclarations table ds).alterStatements = .ok texts) ↔
      (ofDeclarations table ds).Sound ∧
        (declaredKeys ds ≤ 1 ∨ ∀ d ∈ ds, d.isPrimary = false)) ∧
    (ofDeclarations table ds).primaryColumn =
      (ds.filterMap Declaration.keyColumn?).getLast? := by
  have hkeys := primaryKeys_le_one_iff table ds
  refine ⟨?_, ?_, primaryColumn_ofDeclarations table ds⟩
  · simp only [createStatement_eq_ok_iff, check_eq_ok_iff_sound, hkeys]
    constructor
    · rintro ⟨_, ⟨hsound, hone⟩, hcolumns, -⟩
      exact ⟨hsound, hcolumns, hone⟩
    · rintro ⟨hsound, hcolumns, hone⟩
      exact ⟨_, ⟨hsound, hone⟩, hcolumns, rfl⟩
  · simp only [alterStatements_eq_ok_iff, check_eq_ok_iff_sound, hkeys]
    constructor
    · rintro ⟨_, hchecks, -⟩
      exact hchecks
    · intro hchecks
      exact ⟨_, hchecks, rfl⟩

/-- A key column, and another that takes its place. -/
def twoKeyColumns : List Declaration := [.id "a", .increments "b"]

theorem compiles_two_key_columns :
    1 < declaredKeys twoKeyColumns ∧
    (ofDeclarations "t" twoKeyColumns).createStatement = .ok
      ("CREATE TABLE `t` (\n  `a` BIGINT UNSIGNED NOT NULL AUTO_INCREMENT,\n  " ++
        "`b` INT UNSIGNED NOT NULL AUTO_INCREMENT,\n  PRIMARY KEY (`b`)\n) ENGINE=InnoDB " ++
        "DEFAULT CHARSET=utf8mb4 COLLATE=utf8mb4_unicode_ci") ∧
    (ofDeclarations "t" twoKeyColumns).alterStatements = .ok
      ["ALTER TABLE `t` ADD COLUMN `a` BIGINT UNSIGNED NOT NULL AUTO_INCREMENT",
       "ALTER TABLE `t` ADD COLUMN `b` INT UNSIGNED NOT NULL AUTO_INCREMENT PRIMARY KEY"] := by
  have hcheck : (ofDeclarations "t" twoKeyColumns).check = .ok () := rfl
  refine ⟨by decide, createStatement_eq_ok_iff.2 ⟨hcheck, ?_, ?_⟩,
    alterStatements_eq_ok_iff.2 ⟨hcheck, ?_⟩⟩
  · decide
  · decide +kernel
  · decide +kernel

end Blueprint

end SchemaMigration.Table
