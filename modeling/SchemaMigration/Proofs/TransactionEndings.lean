import SchemaMigration.Proofs.ObservedRequests

/-
  The end of a transaction.

  A transaction is begun, asked for anything in any order, and brought to its end. What it
  passes on of the requests to it are statements and queries up to the first request that
  ends it, and that request; it keeps to itself what comes later and every request to begin.
  Its end sends a commit or a rollback of its own, also where a request ended it before: only
  one who lets go of a transaction looks whether it is closed.

  Main statements: `afterAll_transaction`, from one request to all of them, and
  `terminatesOnce_iff`.
-/
namespace SchemaMigration.Database

open Sql

/-! ## What is passed on -/

namespace Request

/-- Whether the request is a statement or a query. -/
def isData : Request → Bool
  | execute _ _ | query _ _ => true
  | _ => false

/-- The statements and queries before the first request that ends a transaction. -/
def leading (requests : List Request) : List Request :=
  (requests.takeWhile fun r => !r.isEnding).filter isData

/-- The first request that ends a transaction. -/
def ending? (requests : List Request) : Option Request := requests.find? isEnding

/-- What a transaction passes on of the requests to it. -/
def passedOn (requests : List Request) : List Request :=
  leading requests ++ (ending? requests).toList

theorem isData_of_mem_leading {requests : List Request} {r : Request} (h : r ∈ leading requests) :
    r.isData = true := (List.mem_filter.1 h).2

theorem isEnding_of_ending? {requests : List Request} {r : Request} (h : ending? requests = some r) :
    r.isEnding = true := List.find?_some h

theorem passedOn_begin (requests : List Request) :
    passedOn (begin :: requests) = passedOn requests := rfl

theorem passedOn_data {r : Request} (hr : r.isData = true) (requests : List Request) :
    passedOn (r :: requests) = r :: passedOn requests := by
  cases r with
  | execute sql params | query sql params => rfl
  | begin | commit | rollback => cases hr

theorem ending?_of_not {r : Request} (hr : r.isEnding = false) (requests : List Request) :
    ending? (r :: requests) = ending? requests := List.find?_cons_of_neg (by simp [hr])

theorem passedOn_ending {r : Request} (hr : r.isEnding = true) (requests : List Request) :
    passedOn (r :: requests) = [r] ∧ ending? (r :: requests) = some r := by
  cases r with
  | commit | rollback => exact ⟨rfl, rfl⟩
  | execute sql params | query sql params | begin => cases hr

variable {σ : Type} [Connection σ]

/-- A transaction that is closed does not ask its connection for anything. -/
theorem after_closed (r : Request) (s : σ) :
    r.after (Transaction.mk s true) = ⟨s, true⟩ := by
  cases r with
  | execute sql params => exact after_execute sql params _
  | query sql params => exact after_query sql params _
  | begin | commit | rollback => rfl

theorem after_begin (t : Transaction σ) : begin.after t = t := rfl

theorem after_data {r : Request} (hr : r.isData = true) (s : σ) :
    r.after (Transaction.mk s false) = ⟨r.after s, false⟩ := by
  cases r with
  | execute sql params =>
    rw [after_execute, after_execute]
    rfl
  | query sql params =>
    rw [after_query, after_query]
    rfl
  | begin | commit | rollback => cases hr

/-- What ends a transaction closes it, also if it fails. -/
theorem after_ending {r : Request} (hr : r.isEnding = true) (s : σ) :
    r.after (Transaction.mk s false) = ⟨r.after s, true⟩ := by
  cases r with
  | commit | rollback => rfl
  | execute sql params | query sql params | begin => cases hr

theorem afterAll_closed (requests : List Request) (s : σ) :
    afterAll requests (Transaction.mk s true) = ⟨s, true⟩ := by
  induction requests with
  | nil => rfl
  | cons r requests ih =>
    show afterAll requests (r.after (Transaction.mk s true)) = _
    rw [after_closed, ih]

/-- After any requests to it an open transaction has done what it passes on, and is closed
if one of them ends it. -/
theorem afterAll_transaction (requests : List Request) (s : σ) :
    afterAll requests (Transaction.mk s false) =
      ⟨afterAll (passedOn requests) s, (ending? requests).isSome⟩ := by
  induction requests generalizing s with
  | nil => rfl
  | cons r requests ih =>
    show afterAll requests (r.after (Transaction.mk s false)) = _
    by_cases hending : r.isEnding = true
    · obtain ⟨hpassed, hfirst⟩ := passedOn_ending hending requests
      rw [after_ending hending, afterAll_closed, hpassed, hfirst]
      rfl
    · rw [ending?_of_not (Bool.eq_false_iff.2 hending)]
      by_cases hdata : r.isData = true
      · rw [after_data hdata, ih, passedOn_data hdata]
        rfl
      · obtain rfl : r = begin := by cases r <;> simp_all [isEnding, isData]
        rw [after_begin, ih, passedOn_begin]

end Request

/-! ## From beginning to end -/

namespace Transaction

open Request

variable {σ : Type} [Connection σ]

/-- What an end sends on its own. -/
def Ending.sends (closed : Bool) : Ending → List Request
  | .commit => [.commit]
  | .rollback => [.rollback]
  | .abandon => if closed then [] else [.rollback]

/-- Begins a transaction, asks it for some things, whatever it answers to each, and brings it
to its end. -/
def life (requests : List Request) (e : Ending) : Action σ Unit := do
  Connection.begin
  fun s => (afterAll requests (Transaction.mk s false)).finish e

theorem finish_observed (e : Ending) (o : Observed σ) (closed : Bool) :
    ∃ seen, (Transaction.mk o closed).finish e =
        (((Transaction.mk o.inner closed).finish e).1,
          ⟨((Transaction.mk o.inner closed).finish e).2, o.seen ++ seen⟩) ∧
      seen.map Prod.fst = e.sends closed := by
  cases e with
  | commit => exact ⟨[(.commit, o.inner)], rfl, rfl⟩
  | rollback => exact ⟨[(.rollback, o.inner)], rfl, rfl⟩
  | abandon =>
    cases closed with
    | true => exact ⟨[], Prod.ext rfl (congrArg (Observed.mk o.inner) (List.append_nil _).symm), rfl⟩
    | false =>
      refine ⟨[(.rollback, o.inner)], Prod.ext rfl ?_, rfl⟩
      have hrollback : (Connection.rollback : Action (Observed σ) Unit).run o =
        ((Connection.rollback.run o.inner).1,
          ⟨(Connection.rollback.run o.inner).2, o.seen ++ [(.rollback, o.inner)]⟩) := rfl
      show (Transaction.mk o false).abandon =
        ⟨(Transaction.mk o.inner false).abandon, o.seen ++ [(.rollback, o.inner)]⟩
      rw [abandon, abandon, if_neg Bool.false_ne_true, if_neg Bool.false_ne_true, hrollback]
      generalize (Connection.rollback : Action σ Unit).run o.inner = answer
      obtain ⟨_ | _, s⟩ := answer <;> rfl

/-- What an observed connection is asked by an open transaction, from then on to its end. -/
theorem ended_observed (requests : List Request) (e : Ending) (o : Observed σ) :
    ((afterAll requests (Transaction.mk o false)).finish e).1 =
        ((afterAll requests (Transaction.mk o.inner false)).finish e).1 ∧
      ((afterAll requests (Transaction.mk o false)).finish e).2.inner =
        ((afterAll requests (Transaction.mk o.inner false)).finish e).2 ∧
      ((afterAll requests (Transaction.mk o false)).finish e).2.requests =
        o.requests ++ (passedOn requests ++ e.sends (ending? requests).isSome) := by
  obtain ⟨hinner, hasked⟩ := afterAll_observed (passedOn requests) o
  obtain ⟨seen, hfinish, hsends⟩ :=
    finish_observed e (afterAll (passedOn requests) o) (ending? requests).isSome
  rw [afterAll_transaction, afterAll_transaction, hfinish, hinner]
  refine ⟨rfl, rfl, ?_⟩
  show ((afterAll (passedOn requests) o).seen ++ seen).map Prod.fst = _
  rw [List.map_append, hsends, ← List.append_assoc, ← hasked]
  rfl

/-- Whether the connection lets a transaction begin. -/
def begins (s : σ) : Bool := ((Connection.begin : Action σ Unit).run s).1.isOk

/-- What a connection is asked from the beginning of a transaction to its end. -/
def sentInLife (requests : List Request) (e : Ending) (s : σ) : List Request :=
  ((life requests e).run (Observed.mk s [])).2.requests

/-- To observe the connection changes nothing, and it sees what the transaction passes on,
then what its end sends. -/
theorem life_observed (requests : List Request) (e : Ending) (s : σ) :
    ((life requests e).run (Observed.mk s [])).1 = ((life requests e).run s).1 ∧
      ((life requests e).run (Observed.mk s [])).2.inner = ((life requests e).run s).2 ∧
      sentInLife requests e s = .begin ::
        if begins s then passedOn requests ++ e.sends (ending? requests).isSome else [] := by
  have hbegin : (Connection.begin : Action (Observed σ) Unit).run ⟨s, []⟩ =
    ((Connection.begin.run s).1, ⟨(Connection.begin.run s).2, [(.begin, s)]⟩) := rfl
  rw [sentInLife, life, life, Action.run_bind, Action.run_bind, hbegin, begins]
  obtain ⟨_ | _, s'⟩ := (Connection.begin : Action σ Unit).run s
  · exact ⟨rfl, rfl, rfl⟩
  · exact ended_observed requests e ⟨s', [(.begin, s)]⟩

/-- One request to begin, one that ends, as the last, and only statements and queries in
between. -/
def TerminatesOnce (sent : List Request) : Prop :=
  ∃ body last, sent = .begin :: (body ++ [last]) ∧ last.isEnding = true ∧
    ∀ r ∈ body, r.isData = true

theorem not_terminatesOnce_of_two {body : List Request} {first last : Request}
    (h : first.isEnding = true) : ¬TerminatesOnce (.begin :: (body ++ [first] ++ [last])) := by
  rintro ⟨body', last', hsent, -, hdata⟩
  obtain ⟨rfl, -⟩ := List.append_inj' (List.cons.inj hsent).2 rfl
  have hfirst : first.isData = true := hdata first (by simp)
  cases first with
  | execute sql params | query sql params | begin => cases h
  | commit | rollback => cases hfirst

/-- A transaction on any connection, asked for anything and brought to its end in any way:
what the connection is asked then, which to observe does not change, and that the
transaction terminates exactly once where its owner lets go of it or no request ended it. -/
theorem terminatesOnce_iff (requests : List Request) (e : Ending) (s : σ) :
    ((life requests e).run (Observed.mk s [])).1 = ((life requests e).run s).1 ∧
      ((life requests e).run (Observed.mk s [])).2.inner = ((life requests e).run s).2 ∧
      (sentInLife requests e s = .begin ::
        if begins s then
          leading requests ++ (ending? requests).toList ++ e.sends (ending? requests).isSome
        else []) ∧
      (TerminatesOnce (sentInLife requests e s) ↔
        begins s = true ∧ (e = .abandon ∨ ∀ r ∈ requests, r.isEnding = false)) := by
  obtain ⟨hresult, hinner, hsent⟩ := life_observed requests e s
  refine ⟨hresult, hinner, hsent, ?_⟩
  have hnone : ending? requests = none ↔ ∀ r ∈ requests, r.isEnding = false := by
    simp [ending?, List.find?_eq_none]
  have hdata : ∀ r ∈ leading requests, r.isData = true := fun r => isData_of_mem_leading
  rw [hsent, ← hnone, passedOn]
  cases begins s with
  | false =>
    refine iff_of_false ?_ fun h => absurd h.1 Bool.false_ne_true
    rintro ⟨body, last, h, -⟩
    simp at h
  | true =>
    rw [if_pos rfl]
    cases hfirst : ending? requests with
    | none =>
      -- nobody ended it, so the end of its life does
      refine iff_of_true ?_ ⟨rfl, .inr rfl⟩
      rw [Option.toList_none, List.append_nil]
      cases e with
      | commit => exact ⟨_, .commit, rfl, rfl, hdata⟩
      | rollback | abandon => exact ⟨_, .rollback, rfl, rfl, hdata⟩
    | some first =>
      have hending := isEnding_of_ending? hfirst
      cases e with
      | abandon =>
        refine iff_of_true ⟨_, first, ?_, hending, hdata⟩ ⟨rfl, .inl rfl⟩
        simp [Ending.sends]
      | commit | rollback =>
        exact iff_of_false (not_terminatesOnce_of_two hending) (by simp)

/-- A transaction that was committed through its connection and then is rolled back by its
owner sends both. -/
theorem sent_twice :
    sentInLife [.commit] .rollback (Memory.empty defaultLedgerTable) =
        [.begin, .commit, .rollback] ∧
      ¬TerminatesOnce (sentInLife [.commit] .rollback (Memory.empty defaultLedgerTable)) ∧
      ((life [.commit] .rollback).run (Memory.empty defaultLedgerTable)).2.statements =
        ["START TRANSACTION", "COMMIT", "ROLLBACK"] := by
  have hsent : sentInLife [.commit] .rollback (Memory.empty defaultLedgerTable) =
    [.begin, .commit, .rollback] := by decide +kernel
  have htwo : ¬TerminatesOnce (.begin :: ([] ++ [.commit] ++ [.rollback])) :=
    not_terminatesOnce_of_two rfl
  refine ⟨hsent, ?_, by decide +kernel⟩
  rw [hsent]
  exact htwo

end Transaction

end SchemaMigration.Database
