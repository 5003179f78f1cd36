import SchemaMigration.Database.Rehearsal
import SchemaMigration.Proofs.SentStatements

/-
  Scripts that ask nothing, carried out and rehearsed.

  A rehearsal notes a statement exactly when it is sent, and the two part where a
  statement fails: a rehearsed one never does. A script that gets to its end has met no
  failure that it did not catch. A caught one matters only to an alteration, which
  leaves out the statements behind the one that failed.

  Main statement: `runAll_leads`, a script that gets to its end does so rehearsed, and
  what it sent is what the rehearsal noted.
-/
namespace SchemaMigration.Schema

open Sql Database
open Database.Memory

/-! ## Two connections -/

section
variable {σ τ α β : Type}

/-- From related connections, if the first action answers so does the second, and the
connections stay related. -/
def Leads (R : σ → τ → Prop) (x : Action σ α) (y : Action τ α) : Prop :=
  ∀ s t, R s t → ∀ a s', x.run s = (.ok a, s') → ∃ b t', y.run t = (.ok b, t') ∧ R s' t'

/-- Whatever the two actions answer, related connections stay related. -/
def KeepsRelated (R : σ → τ → Prop) (x : Action σ α) (y : Action τ α) : Prop :=
  ∀ s t, R s t → R (x.run s).2 (y.run t).2

/-- The action answers on every connection. -/
def Answers (x : Action σ α) : Prop := ∀ s, ∃ a s', x.run s = (.ok a, s')

variable {R : σ → τ → Prop}

namespace Leads

protected theorem pure (a b : α) : Leads R (pure a) (pure b) := by
  rintro s t hst _ _ ⟨⟩
  exact ⟨b, t, rfl, hst⟩

protected theorem throw (e : Error) (y : Action τ α) : Leads R (throw e) y := by
  rintro s t hst _ _ ⟨⟩

protected theorem bind {x : Action σ α} {y : Action τ α} {f : α → Action σ β} {g : α → Action τ β}
    (hx : Leads R x y) (hf : ∀ a b, Leads R (f a) (g b)) : Leads R (x >>= f) (y >>= g) := by
  intro s t hst c s'' hrun
  rw [Action.run_bind] at hrun
  cases hxs : x.run s with
  | mk r s' =>
    rw [hxs] at hrun
    cases r with
    | error e => cases hrun
    | ok a =>
      obtain ⟨b, t', hyt, hst'⟩ := hx s t hst a s' hxs
      obtain ⟨d, t'', hgt, hst''⟩ := hf a b s' t' hst' c s'' hrun
      exact ⟨d, t'', (Action.run_bind_ok hyt).trans hgt, hst''⟩

end Leads

theorem Answers.pure (a : α) : Answers (pure a : Action σ α) := fun s => ⟨a, s, rfl⟩

theorem Answers.bind {x : Action σ α} {f : α → Action σ β} (hx : Answers x)
    (hf : ∀ a, Answers (f a)) : Answers (x >>= f) := by
  intro s
  obtain ⟨a, s', hxs⟩ := hx s
  obtain ⟨b, s'', hfs⟩ := hf a s'
  exact ⟨b, s'', (Action.run_bind_ok hxs).trans hfs⟩

/-- What catches every failure answers. -/
theorem Answers.tryCatch (x : Action σ α) (f : Error → α) :
    Answers (tryCatch x fun e => Pure.pure (f e)) := by
  intro s
  rw [Action.run_tryCatch]
  cases x.run s with
  | mk r s' =>
    cases r with
    | error e => exact ⟨f e, s', rfl⟩
    | ok a => exact ⟨a, s', rfl⟩

namespace KeepsRelated

protected theorem pure (a b : α) : KeepsRelated R (pure a) (pure b) := fun _ _ hst => hst

protected theorem throw (e e' : Error) :
    KeepsRelated R (throw e : Action σ α) (throw e' : Action τ α) := fun _ _ hst => hst

/-- Where both actions answer, both go on. -/
protected theorem bind {x : Action σ α} {y : Action τ α} {f : α → Action σ β} {g : α → Action τ β}
    (hx : KeepsRelated R x y)
    (hanswer : ∀ s t, R s t → (∃ a s', x.run s = (.ok a, s')) ∧ ∃ b t', y.run t = (.ok b, t'))
    (hf : ∀ a b, KeepsRelated R (f a) (g b)) : KeepsRelated R (x >>= f) (y >>= g) := by
  intro s t hst
  obtain ⟨⟨a, s', hxs⟩, b, t', hyt⟩ := hanswer s t hst
  have hst' := hx s t hst
  rw [hxs, hyt] at hst'
  rw [Action.run_bind_ok hxs, Action.run_bind_ok hyt]
  exact hf a b s' t' hst'

/-- What is made of the answers does not matter. -/
protected theorem map {x : Action σ α} {y : Action τ α} (hx : KeepsRelated R x y) (f g : α → β) :
    KeepsRelated R (x >>= fun a => pure (f a)) (y >>= fun b => pure (g b)) := by
  have hstate : ∀ {ρ : Type} (z : Action ρ α) (h : α → β) (s : ρ),
      ((z >>= fun a => pure (h a)).run s).2 = (z.run s).2 := by
    intro ρ z h s
    rw [Action.run_bind]
    rcases z.run s with ⟨_ | _, _⟩ <;> rfl
  intro s t hst
  rw [hstate, hstate]
  exact hx s t hst

protected theorem tryCatch {x : Action σ α} {y : Action τ α} (hx : KeepsRelated R x y)
    (f g : Error → α) :
    KeepsRelated R (tryCatch x fun e => pure (f e)) (tryCatch y fun e => pure (g e)) := by
  have hstate : ∀ {ρ : Type} (z : Action ρ α) (h : Error → α) (s : ρ),
      ((tryCatch z fun e => pure (h e)).run s).2 = (z.run s).2 := by
    intro ρ z h s
    rw [Action.run_tryCatch]
    rcases z.run s with ⟨_ | _, _⟩ <;> rfl
  intro s t hst
  rw [hstate, hstate]
  exact hx s t hst

/-- An action that answers leads as soon as it keeps connections related. -/
protected theorem leads {x : Action σ α} {y : Action τ α} (hx : KeepsRelated R x y)
    (hy : Answers y) : Leads R x y := by
  intro s t hst a s' hxs
  obtain ⟨b, t', hyt⟩ := hy t
  have hst' := hx s t hst
  rw [hxs, hyt] at hst'
  exact ⟨b, t', hyt, hst'⟩

end KeepsRelated

end

/-- Running operations one by one, whatever becomes of each, answers. -/
theorem runEach_answers {σ : Type} [Connection σ] (ops : List Operation) :
    Answers (runEach ops : Action σ (List Outcome)) := by
  induction ops with
  | nil =>
    rw [runEach]
    exact .pure _
  | cons op rest ih =>
    rw [runEach]
    exact (Answers.tryCatch _ _).bind fun _ => ih.bind fun _ => .pure _

/-! ## A transaction and a rehearsal -/

/-- An open transaction has sent, since a database was as given, what a rehearsal has
noted. -/
structure SentAsNoted (db : Memory) (t : Transaction Memory) (r : Rehearsal Memory) : Prop where
  isOpen : t.closed = false
  log : t.inner.statements = db.statements ++ r.captured
  failures : t.inner.failures = db.failures

/-- A statement that is sent is noted, and changes nothing of what is bound to fail. -/
theorem execute_log (db : Memory) (sql : String) (params : List Value) :
    (db.execute sql params).2.statements = db.statements ++ [sql] ∧
      (db.execute sql params).2.failures = db.failures := by
  obtain ⟨tables, catalog, ledger, nextId, ticks, saved, h⟩ := execute_frame db sql params
  rw [h]
  exact ⟨rfl, rfl⟩

theorem run_statement_open (db : Memory) (sql : String) :
    (statement sql).run (Transaction.mk db false) =
      ((db.execute sql []).1.map fun _ => (), ⟨(db.execute sql []).2, false⟩) := by
  rw [statement_eq_whileOpen]
  show (((statement sql).run db).1, (⟨((statement sql).run db).2, false⟩ : Transaction Memory)) = _
  rw [run_statement]

section
variable {db : Memory}

theorem statement_keepsRelated (sql : String) :
    KeepsRelated (SentAsNoted db) (statement sql) (statement sql) := by
  rintro ⟨start, _⟩ r ⟨rfl, hlog, hfailures⟩
  obtain ⟨hsent, hsame⟩ := execute_log start sql []
  rw [run_statement_open]
  refine ⟨rfl, ?_, hsame.trans hfailures⟩
  show (start.execute sql []).2.statements = _
  rw [hsent, hlog, List.append_assoc]
  rfl

theorem statement_answers (sql : String) :
    Answers (statement sql : Action (Rehearsal Memory) Unit) := fun r =>
  ⟨(), { r with captured := r.captured ++ [sql] }, rfl⟩

theorem sendAll_leads (r : Except Error (List String)) :
    Leads (SentAsNoted db) (sendAll r) (sendAll r) := by
  cases r with
  | error e => exact .throw e _
  | ok sqls =>
    induction sqls with
    | nil => exact .pure _ _
    | cons sql sqls ih =>
      exact ((statement_keepsRelated sql).leads (statement_answers sql)).bind fun _ _ => ih

/-- If all but the last statement succeed, all are sent. -/
theorem sendAll_keepsRelated {sqls : List String}
    (h : ∀ sql ∈ sqls.dropLast, db.isBoundToFail sql = false ∧ Alters sql) :
    KeepsRelated (SentAsNoted db) (sendAll (.ok sqls)) (sendAll (.ok sqls)) := by
  induction sqls with
  | nil => exact .pure _ _
  | cons sql sqls ih =>
    cases sqls with
    | nil => exact (statement_keepsRelated sql).map _ _
    | cons next sqls =>
      obtain ⟨⟨hbound, halters⟩, hsqls⟩ := List.forall_mem_cons.1 h
      refine (statement_keepsRelated sql).bind ?_ fun _ _ => ih hsqls
      rintro ⟨start, _⟩ r ⟨rfl, hlog, hfailures⟩
      have hbound' : start.isBoundToFail sql = false := by
        rw [isBoundToFail_congr hfailures]
        exact hbound
      obtain ⟨n, hn⟩ := execute_of_alters halters hbound'
      refine ⟨⟨(), ⟨(start.execute sql []).2, false⟩, ?_⟩, statement_answers sql r⟩
      rw [run_statement_open, hn]
      rfl

/-! ## Scripts -/

theorem Operation.Sends.leads {op : Operation} {r : Except Error (List String)} (h : op.Sends r) :
    Leads (SentAsNoted db) op.run op.run := by
  rw [h, h]
  exact (sendAll_leads r).bind fun _ _ => .pure _ _

theorem Operation.Sends.keepsRelated {op : Operation} {r : Except Error (List String)}
    (h : op.Sends r) (hr : ∀ sqls, r = .ok sqls → ∀ sql ∈ sqls.dropLast,
      db.isBoundToFail sql = false ∧ Alters sql) :
    KeepsRelated (SentAsNoted db) op.run op.run := by
  rw [h, h]
  cases r with
  | error e => exact .throw e e
  | ok sqls => exact (sendAll_keepsRelated (hr sqls rfl)).map _ _

mutual

/-- Whatever becomes of an operation, all that its rehearsal notes is sent. -/
theorem Operation.run_keepsRelated (op : Operation) (hop : op.asksNothing = true)
    (hmidway : ∀ sql ∈ op.midway, db.isBoundToFail sql = false) :
    KeepsRelated (SentAsNoted db) op.run op.run := by
  cases op with
  | attempt ops =>
    rw [Operation.asksNothing] at hop
    rw [Operation.midway] at hmidway
    rw [Operation.run, Operation.run]
    exact (runEach_keepsRelated ops hop hmidway).map _ _
  | _ =>
    obtain ⟨r, hsends, hr⟩ := sendsKnown_of_asksNothing hop nofun
    refine hsends.keepsRelated fun sqls hsqls sql hsql => ?_
    obtain ⟨hsql, halters⟩ := hr sqls hsqls sql hsql
    exact ⟨hmidway sql hsql, halters⟩

theorem runEach_keepsRelated (ops : List Operation) (hops : asksNothingAll ops = true)
    (hmidway : ∀ sql ∈ midwayAll ops, db.isBoundToFail sql = false) :
    KeepsRelated (SentAsNoted db) (runEach ops) (runEach ops) := by
  cases ops with
  | nil =>
    rw [runEach, runEach]
    exact .pure _ _
  | cons op rest =>
    rw [asksNothingAll, Bool.and_eq_true] at hops
    rw [midwayAll, List.forall_mem_append] at hmidway
    rw [runEach, runEach]
    refine ((Operation.run_keepsRelated op hops.1 hmidway.1).tryCatch _ _).bind ?_ fun _ _ => ?_
    · exact fun s t _ => ⟨Answers.tryCatch _ _ s, Answers.tryCatch _ _ t⟩
    · exact (runEach_keepsRelated rest hops.2 hmidway.2).bind
        (fun s t _ => ⟨runEach_answers rest s, runEach_answers rest t⟩) fun _ _ => .pure _ _

end

/-- A script that asks nothing and gets to its end gets there rehearsed, and what it sent
is what the rehearsal noted. -/
theorem runAll_leads (script : List Operation) (hscript : asksNothingAll script = true)
    (hcaught : ∀ sql ∈ caughtMidway script, db.isBoundToFail sql = false) :
    Leads (SentAsNoted db) (runAll script) (runAll script) := by
  induction script with
  | nil =>
    rw [runAll, runAll]
    exact .pure _ _
  | cons op rest ih =>
    rw [asksNothingAll, Bool.and_eq_true] at hscript
    rw [caughtMidway, List.flatMap_cons, List.forall_mem_append] at hcaught
    rw [runAll, runAll]
    have hop : Leads (SentAsNoted db) op.run op.run := by
      cases op with
      | attempt ops =>
        rw [Operation.asksNothing] at hscript
        rw [Operation.run, Operation.run]
        exact ((runEach_keepsRelated ops hscript.1 hcaught.1).leads (runEach_answers ops)).bind
          fun _ _ => .pure _ _
      | _ =>
        obtain ⟨r, hsends, -⟩ := sendsKnown_of_asksNothing hscript.1 nofun
        exact hsends.leads
    exact hop.bind fun _ _ => (ih hscript.2 hcaught.2).bind fun _ _ => .pure _ _

end

end SchemaMigration.Schema
