import SchemaMigration.Proofs.ScriptSimulation

/-
  What a connection is asked.

  An observed connection passes everything on to a connection and notes each request,
  queries among them, with the connection that the request found. To observe does not
  disturb: the connection below answers as it would and becomes what it would. So work that
  keeps an invariant of the plain connection shows on an observed one as requests that all
  found a connection with the invariant.

  Main statements: `afterAll_observed` and `noting_since`.
-/
namespace SchemaMigration.Database

open Sql Schema

/-- What can be asked of a connection. -/
inductive Request where
  | execute (sql : String) (params : List Value)
  | query (sql : String) (params : List Value)
  | begin
  | commit
  | rollback
  deriving DecidableEq, Repr

/-- A connection of type `σ` with the requests to it, each with the connection that it
found. -/
structure Observed (σ : Type) where
  inner : σ
  seen : List (Request × σ) := []

namespace Observed
variable {σ α : Type}

/-- An action of the inner connection that is one request. -/
def noting (r : Request) (act : Action σ α) : Action (Observed σ) α := fun o =>
  let (x, inner) := act.run o.inner
  (x, ⟨inner, o.seen ++ [(r, o.inner)]⟩)

instance [Connection σ] : Connection (Observed σ) where
  execute sql params := noting (.execute sql params) (Connection.execute sql params)
  query sql params := noting (.query sql params) (Connection.query sql params)
  begin := noting .begin Connection.begin
  commit := noting .commit Connection.commit
  rollback := noting .rollback Connection.rollback
  warn text o := { o with inner := Connection.warn text o.inner }

/-- The requests alone, in order. -/
def requests (o : Observed σ) : List Request := o.seen.map Prod.fst

end Observed

/-! ## Requests one after the other -/

namespace Request

/-- Whether the request ends a transaction. -/
def isEnding : Request → Bool
  | commit | rollback => true
  | _ => false

variable {σ : Type} [Connection σ]

/-- Asks it of a connection and leaves the answer aside. -/
def send : Request → Action σ Unit
  | execute sql params => do let _ ← Connection.execute (σ := σ) sql params
  | query sql params => do let _ ← Connection.query (σ := σ) sql params
  | begin => Connection.begin
  | commit => Connection.commit
  | rollback => Connection.rollback

/-- The connection after a request, whatever it answered. -/
def after (r : Request) (s : σ) : σ := (r.send.run s).2

/-- The connection after some requests, whatever became of each. -/
def afterAll (requests : List Request) (s : σ) : σ := requests.foldl (fun s r => r.after s) s

theorem after_execute (sql : String) (params : List Value) (s : σ) :
    (execute sql params).after s = ((Connection.execute sql params).run s).2 :=
  congrArg Prod.snd (Action.run_discard (Connection.execute sql params) s)

theorem after_query (sql : String) (params : List Value) (s : σ) :
    (query sql params).after s = ((Connection.query sql params).run s).2 :=
  congrArg Prod.snd (Action.run_discard (Connection.query sql params) s)

theorem after_observed (r : Request) (o : Observed σ) :
    r.after o = ⟨r.after o.inner, o.seen ++ [(r, o.inner)]⟩ := by
  cases r with
  | execute sql params =>
    rw [after_execute, after_execute]
    rfl
  | query sql params =>
    rw [after_query, after_query]
    rfl
  | begin | commit | rollback => rfl

theorem afterAll_observed (requests : List Request) (o : Observed σ) :
    (afterAll requests o).inner = afterAll requests o.inner ∧
      (afterAll requests o).requests = o.requests ++ requests := by
  induction requests generalizing o with
  | nil => exact ⟨rfl, (List.append_nil _).symm⟩
  | cons r requests ih =>
    have hrest := ih (r.after o)
    rw [after_observed] at hrest
    refine ⟨?_, ?_⟩
    · show (afterAll requests (r.after o)).inner = _
      rw [after_observed]
      exact hrest.1
    · show (afterAll requests (r.after o)).requests = _
      rw [after_observed, hrest.2]
      simp [Observed.requests]

end Request

/-! ## Observed work -/

section
variable {σ α : Type}

/-- The connection is that of the observed one, `I` holds of it, and it held of those that
the requests since the start found. -/
def Since (I : σ → Prop) (start o : Observed σ) (s : σ) : Prop :=
  o.inner = s ∧ I s ∧ ∃ seen, o.seen = start.seen ++ seen ∧ ∀ p ∈ seen, I p.2

theorem Since.refl {I : σ → Prop} {o : Observed σ} (h : I o.inner) : Since I o o o.inner :=
  ⟨rfl, h, [], (List.append_nil _).symm, fun _ hp => absurd hp List.not_mem_nil⟩

/-- A request that keeps `I` is one more that finds a connection with it. -/
theorem noting_since {I : σ → Prop} {act : Action σ α} (h : Preserves I act) (r : Request)
    (start : Observed σ) : Simulates (Since I start) (Observed.noting r act) act := by
  intro o s hos
  obtain ⟨rfl, hs, seen, hseen, hheld⟩ := hos
  refine ⟨rfl, rfl, h o.inner hs, seen ++ [(r, o.inner)], ?_, ?_⟩
  · show o.seen ++ [(r, o.inner)] = _
    rw [hseen, List.append_assoc]
  · exact List.forall_mem_append.2 ⟨hheld, List.forall_mem_singleton.2 hs⟩

end

end SchemaMigration.Database
