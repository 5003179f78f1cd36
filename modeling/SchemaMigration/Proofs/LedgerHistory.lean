import SchemaMigration.Proofs.LedgerCalls
import SchemaMigration.Proofs.ReportingCalls

/-
  The ledger over the life of a database in memory.

  A history starts from an empty ledger and goes through any calls of managers, each
  with migrations of its own, while what is bound to fail may change between calls; only
  the statement that commits is spared. Completed migrations and marks are the events
  of a history. The ledger is what the events say: a file has a row if and only if the
  last event about it applied or marked it.

  Main statement: `consistent_of_history`.
-/
namespace SchemaMigration.Migration

open Sql Database Schema Calendar
open Database.Memory

/-! ## Events -/

/-- What was completed. -/
inductive Event where
  | up (file : String)
  | down (file : String)
  | mark (file : String)
  deriving DecidableEq, Repr

namespace Event

/-- The file that the event is about. -/
def file : Event → String
  | .up file | .down file | .mark file => file

/-- Whether the migration counts as applied after the event. -/
def applies : Event → Bool
  | .up _ | .mark _ => true
  | .down _ => false

/-- The event that a migration was completed in a direction. -/
def ofDirection : Direction → String → Event
  | .up => .up
  | .down => .down

end Event

/-- The last of some events that is about a file. -/
def lastEvent? (file : String) (events : List Event) : Option Event :=
  events.reverse.find? fun ev => ev.file == file

theorem lastEvent?_append (file : String) (events more : List Event) :
    lastEvent? file (events ++ more) = (lastEvent? file more).or (lastEvent? file events) := by
  rw [lastEvent?, List.reverse_append, List.find?_append]
  rfl

theorem lastEvent?_singleton (file : String) (ev : Event) :
    lastEvent? file [ev] = if ev.file = file then some ev else none := by
  rw [lastEvent?, List.reverse_singleton, List.find?_singleton]
  simp only [beq_iff_eq]

theorem mem_of_lastEvent? {file : String} {events : List Event} {ev : Event}
    (h : lastEvent? file events = some ev) : ev ∈ events ∧ ev.file = file := by
  have hfile := List.find?_some h
  exact ⟨List.mem_reverse.1 (List.mem_of_find?_eq_some h), beq_iff_eq.1 hfile⟩

/-! ## Histories -/

/-- What a manager can be called for. -/
inductive Call where
  | work (w : Work)
  | mark (file : String) (batch : Option Nat)
  | status
  | pretend (limit : Option Nat)

namespace Call

/-- The database after a call. -/
def after (m : Manager) (db : Memory) : Call → Memory
  | .work w => ((w.task m).run db).2
  | .mark file batch => ((m.mark file batch).run db).2
  | .status => (m.status.run db).2
  | .pretend limit => ((m.pretend limit).run db).2

/-- The events of a call, in order. -/
def events (m : Manager) (db : Memory) : Call → List Event
  | .work w => (w.completed m db).map (Event.ofDirection w.direction)
  | .mark file batch =>
    match ((m.mark file batch).run db).1 with
    | .ok true => [.mark file]
    | _ => []
  | .status | .pretend _ => []

end Call

/-- The databases that can be reached, with the events on the way. -/
inductive History : List Event → Memory → Prop
  | start {db : Memory} (ledger : db.ledger = []) (canned : db.canned = ∅) : History [] db
  /-- Other texts are bound to fail from now on. -/
  | disturbed {events : List Event} {db : Memory} (before : History events db)
      (failures : List String) : History events { db with failures }
  | called {events : List Event} {db : Memory} (before : History events db) {m : Manager}
      (manager : OfGateway m) (table : m.ledgerTable = db.ledgerTable)
      (commits : db.isBoundToFail commitSql = false) (c : Call) :
      History (events ++ c.events m db) (c.after m db)

/-- The ledger is in order, and it is what the events say. -/
structure Consistent (events : List Event) (db : Memory) : Prop where
  canned : db.canned = ∅
  distinct : (db.ledger.map (·.migration)).Nodup
  ascending : db.ledger.Pairwise fun a b => a.id < b.id
  below : ∀ r ∈ db.ledger, r.id < db.nextId
  batches : ∀ r ∈ db.ledger, 1 ≤ r.batch
  artifacts : ∀ r ∈ db.ledger, Parses r.migration
  latest : ∀ file, (∃ r ∈ db.ledger, r.migration = file) ↔
    ∃ ev, lastEvent? file events = some ev ∧ ev.applies = true
  /-- No migration is applied twice without being reverted in between. -/
  once : ∀ before between behind file,
    events = before ++ .up file :: (between ++ .up file :: behind) → .down file ∈ between

namespace Consistent
variable {events : List Event} {db db' : Memory}

theorem named (h : Consistent events db) : Named db :=
  fun r hr => (h.artifacts r hr).ne_empty

theorem of_sameLedger (h : Consistent events db) (hsame : SameLedger db db') :
    Consistent events db' where
  canned := hsame.canned.trans h.canned
  distinct := hsame.ledger ▸ h.distinct
  ascending := hsame.ledger ▸ h.ascending
  below := by
    rw [hsame.ledger, hsame.nextId]
    exact h.below
  batches := hsame.ledger ▸ h.batches
  artifacts := hsame.ledger ▸ h.artifacts
  latest := hsame.ledger ▸ h.latest
  once := h.once

/-- A file with no applied last event has been reverted since it was last applied. -/
theorem once_append {ev : Event} (h : Consistent events db)
    (hnew : ev.applies = true → ∀ last, lastEvent? ev.file events = some last →
      last.applies = false)
    {before between behind : List Event} {file : String}
    (heq : events ++ [ev] = before ++ .up file :: (between ++ .up file :: behind)) :
    .down file ∈ between := by
  -- The second time is the new event, or both are among the events before it.
  rcases List.eq_nil_or_concat behind with rfl | ⟨behind, x, rfl⟩
  · rw [← List.cons_append, ← List.append_assoc] at heq
    obtain ⟨rfl, hev⟩ := List.append_inj' heq rfl
    obtain rfl := List.singleton_inj.1 hev
    have hlast : lastEvent? file (before ++ .up file :: between) =
        (lastEvent? file between).or (some (.up file)) := by
      have hup : lastEvent? file [.up file] = some (.up file) :=
        (lastEvent?_singleton file (.up file)).trans (if_pos rfl)
      rw [← List.singleton_append, lastEvent?_append, lastEvent?_append, hup, Option.or_assoc,
        Option.some_or]
    -- Without an event in between the first time would be the last event.
    cases hbetween : lastEvent? file between with
    | none =>
      rw [hbetween] at hlast
      cases hnew rfl _ hlast
    | some last =>
      rw [hbetween] at hlast
      have hdown := hnew rfl last hlast
      obtain ⟨hmem, hfile⟩ := mem_of_lastEvent? hbetween
      cases last with
      | up file' => cases hdown
      | mark file' => cases hdown
      | down file' =>
        obtain rfl : file' = file := hfile
        exact hmem
  · have hinit : before ++ .up file :: (between ++ .up file :: behind.concat x) =
        before ++ .up file :: (between ++ .up file :: behind) ++ [x] := by
      simp only [List.concat_eq_append, List.append_assoc, List.cons_append]
    rw [hinit] at heq
    exact h.once before between behind file (List.append_inj' heq rfl).1

/-- A fresh file gets its row: the events go on with one that applies it. -/
theorem add {batch : Int} (h : Consistent events db) (ev : Event) (hev : ev.applies = true)
    (hfresh : Fresh db ev.file) (hparses : Parses ev.file) (hbatch : 1 ≤ batch)
    (hsame : SameLedger (db.addRow ev.file batch) db') : Consistent (events ++ [ev]) db' := by
  have hlast : ∀ last, lastEvent? ev.file events = some last → last.applies = false := by
    intro last hlast
    apply Bool.eq_false_iff.2
    intro happlies
    obtain ⟨r, hr, hfile⟩ := (h.latest ev.file).2 ⟨last, hlast, happlies⟩
    exact hfresh r hr hfile
  have hrow : ∀ r ∈ (db.addRow ev.file batch).ledger, r ∈ db.ledger ∨
      r = ⟨db.nextId, ev.file, batch, DateTime.ofUnix (startOfTime + (db.ticks + 1))⟩ :=
    fun r hr => (List.mem_append.1 hr).imp_right List.mem_singleton.1
  refine of_sameLedger ?_ hsame
  refine ⟨h.canned, ?_, ?_, ?_, ?_, ?_, fun file => ?_, fun _ _ _ _ => h.once_append fun _ => hlast⟩
  · show ((db.ledger ++ [_]).map LedgerRow.migration).Nodup
    rw [List.map_append, List.nodup_append]
    refine ⟨h.distinct, List.pairwise_singleton _ _, fun file hfile file' hfile' heq => ?_⟩
    obtain ⟨r, hr, rfl⟩ := List.mem_map.1 hfile
    exact hfresh r hr (heq.trans (List.mem_singleton.1 hfile'))
  · refine List.pairwise_append.2 ⟨h.ascending, List.pairwise_singleton _ _, fun r hr r' hr' => ?_⟩
    obtain rfl := List.mem_singleton.1 hr'
    exact h.below r hr
  · intro r hr
    show r.id < db.nextId + 1
    rcases hrow r hr with hr | rfl
    · exact Nat.lt_succ_of_lt (h.below r hr)
    · exact Nat.lt_succ_self _
  · intro r hr
    rcases hrow r hr with hr | rfl
    · exact h.batches r hr
    · exact hbatch
  · intro r hr
    rcases hrow r hr with hr | rfl
    · exact h.artifacts r hr
    · exact hparses
  · rw [lastEvent?_append, lastEvent?_singleton]
    -- For the file of the event the last event is the new one, for others it is what it was.
    by_cases hfile : ev.file = file
    · rw [if_pos hfile, Option.some_or]
      refine ⟨fun _ => ⟨ev, rfl, hev⟩, fun _ => ?_⟩
      exact ⟨_, List.mem_append_right _ List.mem_cons_self, hfile⟩
    · rw [if_neg hfile, Option.none_or, ← h.latest file]
      constructor
      · rintro ⟨r, hr, hrfile⟩
        rcases hrow r hr with hr | rfl
        · exact ⟨r, hr, hrfile⟩
        · exact absurd hrfile hfile
      · rintro ⟨r, hr, hrfile⟩
        exact ⟨r, List.mem_append_left _ hr, hrfile⟩

/-- The rows of a file are taken away: the events go on with one that reverts it. -/
theorem remove {file : String} (h : Consistent events db)
    (hsame : SameLedger (entered .down 0 db file) db') :
    Consistent (events ++ [.down file]) db' := by
  have hrow : ∀ r ∈ (entered .down 0 db file).ledger, r ∈ db.ledger ∧ r.migration ≠ file :=
    fun r hr => (List.mem_filter.1 hr).imp_right bne_iff_ne.1
  have hsub : (entered .down 0 db file).ledger.Sublist db.ledger := List.filter_sublist
  -- To revert a file applies nothing, so no file is applied twice by it.
  have hreverts : (Event.down file).applies = true → ∀ last,
      lastEvent? (Event.down file).file events = some last → last.applies = false :=
    fun happlies => absurd (show false = true from happlies) Bool.false_ne_true
  refine of_sameLedger ?_ hsame
  refine ⟨h.canned, h.distinct.sublist (hsub.map _), h.ascending.sublist hsub,
    fun r hr => h.below r (hrow r hr).1, fun r hr => h.batches r (hrow r hr).1,
    fun r hr => h.artifacts r (hrow r hr).1, fun file' => ?_,
    fun _ _ _ _ => h.once_append hreverts⟩
  rw [lastEvent?_append, lastEvent?_singleton]
  by_cases hfile : file = file'
  · rw [if_pos (show (Event.down file).file = file' from hfile), Option.some_or]
    constructor
    · rintro ⟨r, hr, hrfile⟩
      exact absurd (hrfile.trans hfile.symm) (hrow r hr).2
    · rintro ⟨ev, hev, happlies⟩
      obtain rfl := Option.some.inj hev
      cases happlies
  · rw [if_neg (show ¬(Event.down file).file = file' from hfile), Option.none_or, ← h.latest file']
    constructor
    · rintro ⟨r, hr, hrfile⟩
      exact ⟨r, (hrow r hr).1, hrfile⟩
    · rintro ⟨r, hr, hrfile⟩
      refine ⟨r, List.mem_filter.2 ⟨hr, bne_iff_ne.2 fun hr' => ?_⟩, hrfile⟩
      exact hfile (hr'.symm.trans hrfile)

end Consistent

/-! ## Calls -/

/-- Along a chain each migration adds its event. -/
theorem Consistent.chain {direction : Direction} {batch : Int} {l : List (String × Scripts)}
    {a b : Memory} (hchain : CompletedAll direction batch l a b)
    (hup : direction = .up → ∀ file ∈ l.map Prod.fst, Parses file ∧ 1 ≤ batch)
    {events : List Event} (h : Consistent events a) :
    Consistent (events ++ (l.map Prod.fst).map (Event.ofDirection direction)) b := by
  induction hchain generalizing events with
  | nil db =>
    rw [List.map_nil, List.map_nil, List.append_nil]
    exact h
  | @cons file scripts rest a b c first _ ih =>
    have hrest : direction = .up → ∀ file ∈ rest.map Prod.fst, Parses file ∧ 1 ≤ batch :=
      fun hd f hf => hup hd f (List.mem_cons_of_mem _ hf)
    have hone : Consistent (events ++ [Event.ofDirection direction file]) b := by
      cases direction with
      | up =>
        obtain ⟨hfile, hbatch⟩ := hup rfl file List.mem_cons_self
        exact h.add (.up file) rfl (first.fresh rfl) hfile hbatch first.ledger
      | down => exact h.remove first.ledger
    have hall := ih hrest hone
    rw [List.append_assoc, List.singleton_append] at hall
    exact hall

theorem Work.parses_of_selected {m : Manager} (hm : OfGateway m) {db : Memory} {w : Work}
    (hup : w.direction = .up) {files : List String} (hselected : w.selected m db = .ok files)
    {file : String} (hfile : file ∈ files) : Parses file := by
  cases w with
  | run limit => exact hm.parses_of_pending hselected hfile
  | rollback steps => cases hup
  | reset => cases hup

theorem Consistent.call {events : List Event} {db : Memory} (h : Consistent events db) {m : Manager}
    (hm : OfGateway m) (htable : m.ledgerTable = db.ledgerTable)
    (hcommit : db.isBoundToFail commitSql = false) (c : Call) :
    Consistent (events ++ c.events m db) (c.after m db) := by
  have hsilent : ∀ db', SameLedger db db' → Consistent (events ++ []) db' := by
    intro db' hsame
    rw [List.append_nil]
    exact h.of_sameLedger hsame
  cases c with
  | work w =>
    obtain ⟨batch, done, start, mid, hstart, hchain, hmid, hcompleted, hselected⟩ :=
      w.chain_of_task hm htable h.canned h.named hcommit
    show Consistent (events ++ (w.completed m db).map _) ((w.task m).run db).2
    rw [hcompleted]
    -- In front of the chain and behind it the ledger does not change.
    refine (Consistent.chain hchain ?_ (h.of_sameLedger hstart)).of_sameLedger hmid
    intro hup file hfile
    obtain ⟨rest, hfiles, hbatch⟩ := hselected fun hnone => by
      rw [hnone] at hfile
      exact List.not_mem_nil hfile
    refine ⟨w.parses_of_selected hm hup hfiles (List.mem_append_left _ hfile), ?_⟩
    rw [hbatch hup]
    have := lastBatch_entries_nonneg h.batches
    omega
  | mark file batch =>
    show Consistent (events ++ (match ((m.mark file batch).run db).1 with
      | .ok true => [.mark file]
      | _ => [])) ((m.mark file batch).run db).2
    rcases mark_cases htable h.canned h.batches file batch with
      ⟨r, db', hrun, hr, hsame⟩ | ⟨b, db', hrun, hparses, hbatch, hfresh, hsame⟩
    · rw [hrun]
      cases r with
      | error e => exact hsilent db' hsame
      | ok added =>
        cases added with
        | false => exact hsilent db' hsame
        | true => exact absurd rfl hr
    · rw [hrun]
      exact h.add (.mark file) rfl hfresh hparses hbatch hsame
  | status => exact hsilent _ ((status_unchanging m).sameLedger db)
  | pretend limit => exact hsilent _ ((pretend_unchanging hm.registry limit).sameLedger db)

/-- In every database that can be reached the ledger is what the events say. -/
theorem consistent_of_history {events : List Event} {db : Memory} (h : History events db) :
    Consistent events db := by
  -- Each way to reach a database keeps the ledger in order; at the start it has no rows.
  induction h with
  | @start db hledger hcanned =>
    refine ⟨hcanned, ?_, ?_, ?_, ?_, ?_, fun file => ?_, ?_⟩
    · rw [hledger]
      exact List.nodup_nil
    · rw [hledger]
      exact List.Pairwise.nil
    · rw [hledger]
      exact fun r hr => absurd hr List.not_mem_nil
    · rw [hledger]
      exact fun r hr => absurd hr List.not_mem_nil
    · rw [hledger]
      exact fun r hr => absurd hr List.not_mem_nil
    · rw [hledger]
      constructor
      · rintro ⟨r, hr, -⟩
        exact absurd hr List.not_mem_nil
      · rintro ⟨ev, hev, -⟩
        cases hev
    · intro before between behind file heq
      exact absurd heq.symm (List.append_ne_nil_of_right_ne_nil _ (List.cons_ne_nil _ _))
  | disturbed _ failures ih =>
    exact ⟨ih.canned, ih.distinct, ih.ascending, ih.below, ih.batches, ih.artifacts, ih.latest,
      ih.once⟩
  | called _ hm htable hcommit c ih => exact ih.call hm htable hcommit c

/-- A manager of one migration without statements. -/
def single : Manager :=
  { Manager.ofRegistry (registryOf [("20240101000000_a.rs", ⟨[], []⟩)]) with ledgerTable := "t" }

/-- A database with an empty ledger. -/
def unmigrated : Memory :=
  { ledgerTable := "t", tables := (∅ : NameMap (List (String × String))).insert "t" [] }

theorem consistent_after_run :
    Consistent [.up "20240101000000_a.rs"] ((Call.work (.run none)).after single unmigrated) := by
  have hevents : [] ++ (Call.work (.run none)).events single unmigrated =
      [.up "20240101000000_a.rs"] := by decide +kernel
  have hm : OfGateway single := ⟨gatewayRegistry_registryOf (by decide), .inl rfl⟩
  have hhistory : History _ ((Call.work (.run none)).after single unmigrated) :=
    .called (.start rfl rfl) hm rfl (by decide) (.work (.run none))
  rw [hevents] at hhistory
  exact consistent_of_history hhistory

end SchemaMigration.Migration
