import SchemaMigration.Generation.Generator
import SchemaMigration.Proofs.ReportingCalls

/-
  Inspecting several tables.

  Inspection puts queries to the catalog and notes warnings. No answer depends on the
  warnings, so what is told of a table is the same before and after other tables have been
  looked at, and all tables together are told what each is told alone.

  Main statements: `inspect_onlyWarns`; `run_inspectEach_ok` and `run_inspectEach_error`,
  all tables are told, or the first one that fails says why.
-/
namespace SchemaMigration.Database.Memory

open Sql Catalog

/-- The database differs in its warnings at most. -/
def Warned (db db' : Memory) : Prop := ∃ warnings, db' = { db with warnings }

theorem Warned.refl (db : Memory) : Warned db db := ⟨db.warnings, rfl⟩

/-- No answer depends on the warnings. -/
theorem query_warnings (db : Memory) (warnings : List String) (sql : String)
    (params : List Value) :
    (({ db with warnings } : Memory).query sql params).1 = (db.query sql params).1 := by
  have hite : ∀ (c : Prop) [Decidable c] {x y x' y' : Except Error (List Row) × Memory},
      x'.1 = x.1 → y'.1 = y.1 → (if c then x' else y').1 = (if c then x else y).1 := by
    intro c _ x y x' y' hx hy
    by_cases hc : c
    · rwa [if_pos hc, if_pos hc]
    · rwa [if_neg hc, if_neg hc]
  rw [query, query]
  refine hite _ rfl ?_
  rw [answer, answer]
  dsimp only
  split
  · rfl
  refine hite _ rfl (hite _ rfl (hite _ rfl ?_))
  split
  · rfl
  split
  · rfl
  refine hite _ rfl (hite _ rfl (hite _ rfl (hite _ rfl (hite _ ?_ rfl))))
  rw [withLedger, withLedger]
  exact hite _ rfl rfl

end SchemaMigration.Database.Memory

namespace SchemaMigration.Schema

open Sql Table Database Catalog Migration
open Database.Memory

/-! ## Actions that only warn -/

/-- Nothing is changed but warnings, and nothing depends on them. -/
def OnlyWarns {α : Type} (x : Action Memory α) : Prop :=
  ∀ db, Simulates (fun a b => Warned db a ∧ Warned db b) x x

namespace OnlyWarns
variable {α β : Type}

protected theorem pure (a : α) : OnlyWarns (pure a : Action Memory α) := fun _ => .pure a

protected theorem throw (e : Database.Error) : OnlyWarns (throw e : Action Memory α) := fun _ => .throw e

protected theorem bind {x : Action Memory α} {f : α → Action Memory β} (hx : OnlyWarns x)
    (hf : ∀ a, OnlyWarns (f a)) : OnlyWarns (x >>= f) := fun db => (hx db).bind fun a => hf a db

protected theorem orThrow (r : Except Database.Error α) : OnlyWarns (orThrow r : Action Memory α) := by
  cases r with
  | ok a => exact .pure a
  | error e => exact .throw e

protected theorem warning (text : String) : OnlyWarns (warning text : Action Memory Unit) := by
  rintro db _ _ ⟨⟨_, rfl⟩, ⟨_, rfl⟩⟩
  exact ⟨rfl, ⟨_, rfl⟩, ⟨_, rfl⟩⟩

/-- A query that leaves the database alone. -/
protected theorem query {sql : String} {params : List Value}
    (h : Unchanging (Connection.query sql params : Action Memory (List Row))) :
    OnlyWarns (Connection.query sql params : Action Memory (List Row)) := by
  rintro db _ _ ⟨⟨ws, rfl⟩, ⟨ws', rfl⟩⟩
  refine ⟨?_, ⟨ws, h _⟩, ⟨ws', h _⟩⟩
  exact (query_warnings db ws sql params).trans (query_warnings db ws' sql params).symm

theorem run {x : Action Memory α} (h : OnlyWarns x) {db db' : Memory} (hwarned : Warned db db') :
    (x.run db').1 = (x.run db).1 ∧ Warned db (x.run db').2 :=
  ⟨(h db db' db ⟨hwarned, .refl db⟩).1, (h db db' db ⟨hwarned, .refl db⟩).2.1⟩

end OnlyWarns

theorem tables_onlyWarns : OnlyWarns (tables : Action Memory (List String)) := by
  have hquery := query_unchanging_of_begins begins_listTablesSql (by decide) (by decide) []
  exact (OnlyWarns.query hquery).bind fun _ => .pure _

theorem queryOne_onlyWarns {sql : String} {params : List Value}
    (h : Unchanging (Connection.query sql params : Action Memory (List Row))) :
    OnlyWarns (queryOne sql params : Action Memory (Option Row)) :=
  (OnlyWarns.query h).bind fun _ => .pure _

theorem inspect_onlyWarns (table : String) : OnlyWarns (inspect table : Action Memory Snapshot) := by
  have hthere : OnlyWarns (hasTable table : Action Memory Bool) :=
    (queryOne_onlyWarns (query_hasTableSql_unchanging table)).bind fun _ => .pure _
  have hcolumns : OnlyWarns (inspectColumns table : Action Memory _) :=
    (OnlyWarns.query (query_unchanging_of_begins (begins_columnsSql table) (by decide) (by decide)
      [])).bind fun _ => .orThrow _
  have hindexes : OnlyWarns (inspectIndexes table : Action Memory _) := by
    refine (OnlyWarns.query (query_unchanging_of_begins (begins_indexesSql table) (by decide)
      (by decide) [])).bind fun _ => .bind (fun db => ?_) fun _ => .orThrow _
    exact .forM fun index _ => OnlyWarns.warning (skippedIndexWarning table index) db
  have hforeign : OnlyWarns (inspectForeignKeys table : Action Memory _) :=
    (OnlyWarns.query (query_unchanging_of_begins begins_foreignKeysSql (by decide) (by decide)
      _)).bind fun _ => .pure _
  have hoptions : OnlyWarns (inspectOptions table : Action Memory _) :=
    (queryOne_onlyWarns (query_unchanging_of_begins begins_optionsSql (by decide) (by decide)
      _)).bind fun _ => .pure _
  rw [inspect]
  refine hthere.bind fun there => ?_
  split
  · exact hcolumns.bind fun _ => hindexes.bind fun _ => hforeign.bind fun _ =>
      hoptions.bind fun _ => .pure _
  · exact .throw _

/-! ## One table -/

/-- What is told of a table. -/
def structureOf (db : Memory) (table : String) : Except Database.Error Snapshot :=
  ((inspect table).run db).1

theorem structureOf_of_run {db db' : Memory} {table : String} {snapshot : Snapshot}
    (h : (inspect table).run db = (.ok snapshot, db')) : structureOf db table = .ok snapshot := by
  rw [structureOf, h]

theorem of_run_bind {σ α β : Type} {x : Action σ α} {f : α → Action σ β} {s s'' : σ} {b : β}
    (h : (x >>= f).run s = (.ok b, s'')) :
    ∃ a s', x.run s = (.ok a, s') ∧ (f a).run s' = (.ok b, s'') := by
  rw [Action.run_bind] at h
  rcases hx : x.run s with ⟨e | a, s'⟩
  · rw [hx] at h
    cases h
  · rw [hx] at h
    exact ⟨a, s', rfl, h⟩

/-- What is told of a table is told under its name. -/
theorem table_of_run_inspect {σ : Type} [Connection σ] {table : String} {s s' : σ} {snapshot : Snapshot}
    (h : (inspect table).run s = (.ok snapshot, s')) : snapshot.table = table := by
  obtain ⟨there, s₁, -, h⟩ := of_run_bind h
  split at h
  · obtain ⟨columns, s₂, -, h⟩ := of_run_bind h
    obtain ⟨indexes, s₃, -, h⟩ := of_run_bind h
    obtain ⟨foreignKeys, s₄, -, h⟩ := of_run_bind h
    obtain ⟨options, s₅, -, h⟩ := of_run_bind h
    cases h
    rfl
  · cases h

theorem table_of_structureOf {db : Memory} {table : String} {snapshot : Snapshot}
    (h : structureOf db table = .ok snapshot) : snapshot.table = table :=
  table_of_run_inspect (Prod.ext h rfl)

end SchemaMigration.Schema

namespace SchemaMigration.Generation

open Sql Table Database Schema Catalog Migration
open Database.Memory

/-! ## All tables -/

namespace Generator

/-- Every structure is found under the name of its table. -/
theorem table_of_run_inspectEach {σ : Type} [Connection σ] {l : List String} {s s' : σ}
    {snapshots : NameMap Snapshot} (h : (inspectEach l).run s = (.ok snapshots, s')) :
    ∀ t snapshot, snapshots.get? t = some snapshot → snapshot.table = t := by
  induction l generalizing s s' snapshots with
  | nil =>
    cases h
    exact fun t snapshot ht => absurd ht (by simp)
  | cons table l ih =>
    obtain ⟨first, s₁, hfirst, h⟩ := of_run_bind h
    obtain ⟨others, s₂, hothers, h⟩ := of_run_bind h
    cases h
    intro t snapshot ht
    rw [NameMap.get?_insert] at ht
    split at ht
    · next heq =>
      cases ht
      exact (table_of_run_inspect hfirst).trans heq
    · exact ih hothers t snapshot ht

variable {db : Memory}

/-- Tables that can be told alone are told together. -/
theorem run_inspectEach_ok {db' : Memory} (hwarned : Warned db db') {l : List String}
    (h : ∀ t ∈ l, ∃ snapshot, structureOf db t = .ok snapshot) :
    ∃ snapshots db'', (inspectEach l).run db' = (.ok snapshots, db'') ∧ Warned db db'' ∧
      ∀ t snapshot, snapshots.get? t = some snapshot ↔ t ∈ l ∧ structureOf db t = .ok snapshot := by
  induction l generalizing db' with
  | nil => exact ⟨∅, db', rfl, hwarned, fun t snapshot => by simp⟩
  | cons table l ih =>
    obtain ⟨⟨first, hfirst⟩, h⟩ := List.forall_mem_cons.1 h
    obtain ⟨htold, hwarned'⟩ := (inspect_onlyWarns table).run hwarned
    obtain ⟨others, db'', hothers, hwarned'', hiff⟩ := ih hwarned' h
    have hrun : (inspect table).run db' = (.ok first, ((inspect table).run db').2) :=
      Prod.ext (htold.trans hfirst) rfl
    refine ⟨others.insert table first, db'', ?_, hwarned'', fun t snapshot => ?_⟩
    · rw [inspectEach, Action.run_bind_ok hrun, Action.run_bind_ok hothers]
      rfl
    · rw [NameMap.get?_insert]
      by_cases heq : table = t
      · subst heq
        simp [hfirst]
      · rw [if_neg heq, hiff, List.mem_cons, or_iff_right (Ne.symm heq)]

/-- When a table cannot be told, some one says why. -/
theorem run_inspectEach_error {db' : Memory} (hwarned : Warned db db') {l : List String}
    {t : String} (ht : t ∈ l) {e : Database.Error} (he : structureOf db t = .error e) :
    ∃ t' ∈ l, ∃ e' db'', structureOf db t' = .error e' ∧
      (inspectEach l).run db' = (.error e', db'') := by
  induction l generalizing db' with
  | nil => exact absurd ht List.not_mem_nil
  | cons table l ih =>
    obtain ⟨htold, hwarned'⟩ := (inspect_onlyWarns table).run hwarned
    cases hfirst : structureOf db table with
    | error e' =>
      have hrun : (inspect table).run db' = (.error e', ((inspect table).run db').2) :=
        Prod.ext (htold.trans hfirst) rfl
      exact ⟨table, List.mem_cons_self, e', _, hfirst, Action.run_bind_error hrun⟩
    | ok first =>
      have hrun : (inspect table).run db' = (.ok first, ((inspect table).run db').2) :=
        Prod.ext (htold.trans hfirst) rfl
      have hrest : t ∈ l := by
        rcases List.mem_cons.1 ht with rfl | hrest
        · rw [hfirst] at he
          cases he
        · exact hrest
      obtain ⟨t', ht', e', db'', he', herror⟩ := ih hwarned' hrest
      refine ⟨t', List.mem_cons_of_mem table ht', e', db'', he', ?_⟩
      rw [inspectEach, Action.run_bind_ok hrun, Action.run_bind_error herror]

end Generator

end SchemaMigration.Generation
