import SchemaMigration.Proofs.CarriedWork

/-
  Work that fails.

  A run, a rollback or a reset that ends with an error has either called no script and
  left the rows of the ledger as they were, or has stopped at one migration: those in
  front of it are completed and noted, that one has left no trace in the ledger, and
  the scripts behind it were not called. It does not matter which statement or query
  failed, nor whether a change of the schema had ended the transaction before.

  One assumption is about the rows: none of them has an empty name. A statement without
  parameters that deletes from the ledger takes such a row away, and after a change of
  the schema it is not brought back (`purge_loses_nameless`).

  Main statement: `failedCleanly_of_error`.
-/
namespace SchemaMigration.Migration

open Sql Database Schema Calendar
open Database.Memory

/-- How work ends that fails. That scripts were not called is said by other registries
of the same files: whatever their scripts are, the work fails in the same way and leaves
the same database. -/
inductive FailedCleanly (m : Manager) (w : Work) (db : Memory) (e : Error) (db' : Memory) : Prop
  /-- No script was called. -/
  | before (cause : e.isOfMigration = false) (ledger : db'.ledger = db.ledger)
      (uncalled : ∀ r, SameFiles m r → (w.task (m.withRegistry r)).run db = (.error e, db'))
  /-- All selected files are registered, some of them are completed, the next one has
  failed, and no script behind it was called. -/
  | during {done rest : List String} {next : String}
      (selected : w.selected m db = .ok (done ++ next :: rest))
      (registered : ∀ file ∈ done ++ next :: rest, m.registry.contains file = true)
      (ledger : db'.ledger = w.ledgerAfter db done)
      (cause : (∃ cause, e = .executionFailed next w.direction done cause) ∨
        w.direction = .up ∧ e = .alreadyApplied next)
      (uncalled : ∀ r, SameFiles m r →
        (∀ file ∈ done ++ [next], r.get? file = m.registry.get? file) →
        (w.task (m.withRegistry r)).run db = (.error e, db'))

/-- What makes work fail leaves the ledger to the migrations that were completed before
it. -/
theorem failedCleanly_of_error {m : Manager} (hm : OfGateway m) {db : Memory}
    (htable : m.ledgerTable = db.ledgerTable) (hcanned : db.canned = ∅)
    (hcommit : db.isBoundToFail commitSql = false) (hnamed : ∀ r ∈ db.ledger, r.migration ≠ "")
    (w : Work) {e : Error} {db' : Memory} (h : (w.task m).run db = (.error e, db')) :
    FailedCleanly m w db e db' := by
  have htask : ∀ r, w.task (m.withRegistry r) = if w.isIdle then pure []
      else m.locked (carryOut (m.withRegistry r) w.direction (w.choice m)) := by
    intro r
    rw [Work.task_eq]
    cases w with
    | run limit => rfl
    | rollback steps => rfl
    | reset => rfl
  rw [Work.task_eq] at h
  by_cases hidle : w.isIdle = true
  · rw [if_pos hidle] at h
    cases h
  rw [if_neg hidle] at h
  have hchosen := Work.chosen hm db htable hcanned hnamed w
  -- Before the first migration was begun, or at the migration behind a chain.
  rcases locked_failed hm htable hnamed hcommit hchosen h with
    ⟨hcause, hledger, hindependent⟩ |
      ⟨held, batch, files, start, mid, done, next, rest, hchoice, hsame, hresolved, hchain, hmid,
        hcause, hindependent⟩
  · refine .before hcause hledger fun r hr => ?_
    rw [htask, if_neg hidle]
    exact hindependent r hr
  obtain ⟨hfst, hget⟩ := resolve_eq_ok hresolved
  rw [List.map_append, List.map_cons] at hfst
  have hne : files ≠ [] := by
    rw [← hfst]
    exact List.append_ne_nil_of_right_ne_nil _ (List.cons_ne_nil _ _)
  obtain ⟨hselected, hbatch⟩ := Work.selected_of_choice hm db htable hcanned hne hchoice
  have hsplit : w.selected m db =
      .ok (done.map Prod.fst ++ next.1 :: rest.map Prod.fst) := by
    rw [hselected, ← hfst]
  refine .during hsplit (fun file hfile => ?_) ?_ hcause fun r hr hscripts => ?_
  · rw [← List.map_cons, ← List.map_append] at hfile
    obtain ⟨p, hp, rfl⟩ := List.mem_map.1 hfile
    rw [contains_eq_isSome, hget p hp]
    rfl
  · rw [hmid]
    exact Work.ledger_of_chain hsame hbatch hchain
  · rw [htask, if_neg hidle]
    refine hindependent r hr fun p hp => hscripts p.1 ?_
    rw [← List.map_singleton, ← List.map_append]
    exact List.mem_map_of_mem hp

/-- A script that fails to take a migration back. -/
def stuck : Manager :=
  { Manager.ofRegistry (registryOf [("20240101000000_a.rs", ⟨[], [.fail (.other "stuck")]⟩)]) with
    ledgerTable := "t" }

/-- A database in which that migration is applied. -/
def applied : Memory :=
  { ledgerTable := "t", tables := (∅ : NameMap (List (String × String))).insert "t" []
    ledger := [⟨1, "20240101000000_a.rs", 1, DateTime.ofUnix startOfTime⟩], nextId := 2 }

theorem failedCleanly_stuck : ∃ e db', (Work.reset.task stuck).run applied = (.error e, db') ∧
    FailedCleanly stuck .reset applied e db' := by
  have hm : OfGateway stuck := ⟨gatewayRegistry_registryOf (by decide), .inl rfl⟩
  have hfails : ((Work.reset.task stuck).run applied).1.toBool = false := by decide +kernel
  rcases hrun : (Work.reset.task stuck).run applied with ⟨e | done, db'⟩
  · exact ⟨e, db', rfl, failedCleanly_of_error hm rfl rfl (by decide) (by decide) .reset hrun⟩
  · rw [hrun] at hfails
    cases hfails

/-! ## A row without a name -/

/-- A script that deletes from the ledger without parameters, changes the schema and
then fails. -/
def purging : Manager :=
  { Manager.ofRegistry (registryOf [("20240101000000_a.rs",
      ⟨[.statement "DELETE FROM `t`", .drop "b"], []⟩)]) with ledgerTable := "t" }

/-- A database whose only applied migration has an empty name. -/
def nameless : Memory :=
  { ledgerTable := "t", tables := (∅ : NameMap (List (String × String))).insert "t" []
    ledger := [⟨1, "", 1, DateTime.ofUnix startOfTime⟩], nextId := 2 }

/-- The run fails and the row is gone. -/
theorem purge_loses_nameless :
    OfGateway purging ∧ purging.ledgerTable = nameless.ledgerTable ∧ nameless.canned = ∅ ∧
      nameless.isBoundToFail commitSql = false ∧ (nameless.ledger.map (·.migration)).Nodup ∧
      (nameless.ledger.map (·.id)).Nodup ∧ (∀ r ∈ nameless.ledger, r.batch < 4611686018427387904) ∧
      ∃ e db', ((Work.run none).task purging).run nameless = (.error e, db') ∧
        ¬FailedCleanly purging (.run none) nameless e db' := by
  refine ⟨⟨gatewayRegistry_registryOf (by decide), .inl rfl⟩, rfl, rfl, by decide, by decide,
    by decide, by decide, ?_⟩
  have hgone : (((Work.run none).task purging).run nameless).1.toBool = false ∧
      (((Work.run none).task purging).run nameless).2.ledger = [] := by decide +kernel
  rcases hrun : ((Work.run none).task purging).run nameless with ⟨e | done, db'⟩
  · rw [hrun] at hgone
    refine ⟨e, db', rfl, fun h => ?_⟩
    cases h with
    | before _ hledger _ => cases hgone.2.symm.trans hledger
    | during _ _ hledger _ _ => cases hgone.2.symm.trans hledger
  · rw [hrun] at hgone
    cases hgone.1

end SchemaMigration.Migration
