import Mathlib
import SchemaMigration.Proofs.UndoneRun

/-
  What a rollback takes away.

  A rollback that succeeds has read the ledger and reverted the rows that it selected, the
  one with the greatest number first; a file has one row, so to remove a row by its file
  removes no other. What it selects are all rows of the latest batches: of two rollbacks the
  second goes on where the first stopped, and a rollback of as many batches as there are
  reverts what a reset does.

  No row may have an empty name, for a script can take such a row away
  (`sweeping_loses_nameless`). And of two rollbacks the second has to find the ledger table
  that the first one found: a manager that goes by another name than the database, where
  both are quoted alike, can lose its table to a script (`mistaken_stops`).

  Main statement: `exact_rollback`.
-/
namespace SchemaMigration.Migration

open Text Sql Database Schema Calendar
open Database.Memory

/-! ## Rows of files that are reverted -/

/-- The rows of some files are gone, and the ledger table is not. -/
structure Cleared (files : List String) (db db' : Memory) : Prop where
  settings : SameSettings db db'
  ledger : db'.ledger = db.ledger.filter fun r => !files.contains r.migration
  present : db.tables.contains db.ledgerTable = true → db'.tables.contains db'.ledgerTable = true

theorem Cleared.named {files : List String} {db db' : Memory} (h : Cleared files db db')
    (hnamed : Named db) : Named db' := by
  intro r hr
  rw [h.ledger] at hr
  exact hnamed r (List.mem_filter.1 hr).1

theorem Cleared.cons {file : String} {files : List String} {a b c : Memory}
    (h : Cleared [file] a b) (h' : Cleared files b c) : Cleared (file :: files) a c := by
  refine ⟨h.settings.trans h'.settings, ?_, fun hthere => h'.present (h.present hthere)⟩
  rw [h'.ledger, h.ledger, List.filter_filter]
  refine List.filter_congr fun r _ => ?_
  rw [List.contains_cons, List.contains_cons, List.contains_nil, Bool.or_false, Bool.not_or,
    Bool.and_comm]

section
variable {m : Manager} {batch : Int} {completed : List String}

/-- A migration that is reverted loses its row, under whatever name the manager knows the
table that the database takes the row from. -/
theorem cleared_of_executeOne {db db' : Memory} {file : String} {scripts : Scripts}
    (hreads : Command.read db.ledgerTable (removeSql m.ledgerTable) = .remove) (hnamed : Named db)
    (hscript : allGateway scripts.down = true)
    (h : (m.executeOne .down batch completed file scripts).run db = (.ok (), db')) :
    Cleared [file] db db' := by
  obtain ⟨-, t, hattempt, -, rfl⟩ := executeOne_eq_ok_iff.1 h
  obtain ⟨outcomes, ⟨finish, closed⟩, hran, hrow⟩ := attempt_eq_ok hattempt
  -- The script leaves the ledger as it is.
  have hstart : Undisturbed db (begun db) := ⟨⟨rfl, rfl, rfl, rfl, rfl, rfl⟩, .inr rfl⟩
  have hfinish := script_undisturbed hnamed hscript ⟨begun db, false⟩ ⟨rfl, hstart⟩
  rw [show runAll scripts.down = runAll (scripts.toward .down) from rfl, hran] at hfinish
  obtain ⟨rfl, hsame, -⟩ := hfinish
  -- Its row is taken away by a statement on the same connection.
  have hremove : (m.writeLedger .down file batch : Action Memory Unit).run finish =
      ((finish.execute (removeSql m.ledgerTable) [.text file]).1.map fun _ => (),
        (finish.execute (removeSql m.ledgerTable) [.text file]).2) :=
    run_writeLedger m .down file batch finish
  rw [← hsame.ledgerTable] at hreads
  rw [writeLedger_open, hremove, execute_eq, hreads] at hrow
  split at hrow
  · cases hrow
  obtain ⟨n, hperform⟩ := perform_remove (finish.noted (removeSql m.ledgerTable)) file
  rw [hperform] at hrow
  split at hrow
  · rename_i hthere
    obtain ⟨-, rfl⟩ := Prod.mk.inj hrow
    refine ⟨⟨hsame.ledgerTable, hsame.canned, hsame.failures⟩, ?_, fun _ => hthere⟩
    show finish.ledger.filter (·.migration != file) = _
    rw [hsame.ledger]
    refine List.filter_congr fun r _ => ?_
    rw [List.contains_cons, List.contains_nil, Bool.or_false]
    rfl
  · cases hrow

theorem cleared_of_executeEach {l : List (String × Scripts)} {db db' : Memory}
    {names : List String}
    (hreads : Command.read db.ledgerTable (removeSql m.ledgerTable) = .remove) (hnamed : Named db)
    (hl : ∀ p ∈ l, allGateway p.2.down = true)
    (h : (m.executeEach .down batch completed l).run db = (.ok names, db')) :
    Cleared (l.map Prod.fst) db db' := by
  induction l generalizing completed db with
  | nil =>
    obtain rfl := (Prod.mk.inj h).2
    exact ⟨⟨rfl, rfl, rfl⟩, (List.filter_eq_self.2 fun _ _ => rfl).symm, id⟩
  | cons p l ih =>
    obtain ⟨file, scripts⟩ := p
    obtain ⟨hscript, hl⟩ := List.forall_mem_cons.1 hl
    rw [Manager.executeEach] at h
    obtain ⟨⟨⟩, mid, hfirst, hrest⟩ := Task.of_run_bind h
    have hcleared := cleared_of_executeOne hreads hnamed hscript hfirst
    rw [← hcleared.settings.1] at hreads
    exact hcleared.cons (ih hreads (hcleared.named hnamed) hl hrest)

end

/-! ## Work that reverts -/

/-- Rows that were read are those of the ledger, whatever the name of the table. -/
theorem appliedEntries_eq_some {m : Manager} {db db' : Memory} {entries : List LedgerEntry}
    (hcanned : db.canned = ∅) (h : m.appliedEntries.run db = (.ok (some entries), db')) :
    entries = db.ledger.map entryOf ∧ db' = db ∧
      db.readsLedger (ledgerEntriesSql m.ledgerTable) = true ∧
      db.tables.contains db.ledgerTable = true := by
  rw [Manager.appliedEntries] at h
  obtain ⟨present, mid, hpresent, h⟩ := Task.of_run_bind h
  have hask := Task.of_run_ofAction hpresent
  rw [run_isPresent hcanned] at hask
  obtain rfl := (Prod.mk.inj hask).2
  cases present with
  | false => cases h
  | true =>
    rw [if_pos rfl] at h
    obtain ⟨read, mid', hread, h⟩ := Task.of_run_bind h
    obtain ⟨rfl, rfl, -, hreads, htable⟩ := entries_eq_ok hcanned (Task.of_run_ofAction hread)
    obtain ⟨hsome, rfl⟩ := Prod.mk.inj h
    obtain rfl := Option.some.inj (Except.ok.inj hsome)
    exact ⟨rfl, rfl, hreads, htable⟩

theorem hasTable_of_appliedEntries {m : Manager} {db db' : Memory} (hcanned : db.canned = ∅)
    (h : m.appliedEntries.run db = (.ok none, db')) : db.hasTable m.ledgerTable = false := by
  rw [Manager.appliedEntries] at h
  obtain ⟨present, mid, hpresent, h⟩ := Task.of_run_bind h
  have hask := Task.of_run_ofAction hpresent
  rw [run_isPresent hcanned] at hask
  obtain ⟨hanswer, rfl⟩ := Prod.mk.inj hask
  cases present with
  | false =>
    split at hanswer
    · cases hanswer
    · exact Except.ok.inj hanswer
  | true =>
    rw [if_pos rfl] at h
    obtain ⟨read, mid', -, h⟩ := Task.of_run_bind h
    cases h

theorem revertChoice_eq_ok {m : Manager} {select : List LedgerEntry → List LedgerEntry}
    {db start : Memory} {batch : Int} {files : List String} (hcanned : db.canned = ∅)
    (hthere : db.hasTable m.ledgerTable = true)
    (h : (revertChoice m select).run db = (.ok (batch, files), start)) :
    files = Manager.reversed (select (db.ledger.map entryOf)) ∧ start = db ∧
      db.readsLedger (ledgerEntriesSql m.ledgerTable) = true ∧
      db.tables.contains db.ledgerTable = true := by
  rw [revertChoice] at h
  obtain ⟨applied, mid, happlied, h⟩ := Task.of_run_bind h
  cases applied with
  | none => cases (hasTable_of_appliedEntries hcanned happlied).symm.trans hthere
  | some entries =>
    obtain ⟨rfl, rfl, hreads, htable⟩ := appliedEntries_eq_some hcanned happlied
    obtain ⟨hchosen, rfl⟩ := Prod.mk.inj h
    obtain ⟨-, rfl⟩ := Prod.mk.inj (Except.ok.inj hchosen)
    exact ⟨rfl, rfl, hreads, htable⟩

/-- What counts of a selection is what it selects of the ledger. -/
theorem revertChoice_congr {m : Manager} {select select' : List LedgerEntry → List LedgerEntry}
    {db : Memory} (hcanned : db.canned = ∅)
    (h : select (db.ledger.map entryOf) = select' (db.ledger.map entryOf)) :
    (revertChoice m select).run db = (revertChoice m select').run db := by
  rw [revertChoice, revertChoice, Task.run_bind, Task.run_bind]
  rcases happlied : m.appliedEntries.run db with ⟨e | _ | entries, db'⟩
  · rfl
  · rfl
  · obtain ⟨rfl, rfl, -, -⟩ := appliedEntries_eq_some hcanned happlied
    dsimp only
    rw [h]

theorem carryOut_congr {m : Manager} {direction : Direction}
    {choice choice' : Task Memory (Int × List String)} {db : Memory}
    (h : choice.run db = choice'.run db) :
    (carryOut m direction choice).run db = (carryOut m direction choice').run db := by
  rw [carryOut, carryOut, Task.run_bind, Task.run_bind, h]

/-- Rows that were selected have been reverted, with a ledger table in place. -/
structure Reverted (m : Manager) (select : List LedgerEntry → List LedgerEntry)
    (names : List String) (db db' : Memory) : Prop where
  names_eq : names = Manager.reversed (select (db.ledger.map entryOf))
  cleared : Cleared names db db'
  reads : db.readsLedger (ledgerEntriesSql m.ledgerTable) = true
  present : db'.tables.contains db'.ledgerTable = true

theorem reverted_of_locked {m : Manager} (hm : GatewayRegistry m.registry) {db db' : Memory}
    (hthere : db.hasTable m.ledgerTable = true) (hcanned : db.canned = ∅) (hnamed : Named db)
    {select : List LedgerEntry → List LedgerEntry} {names : List String}
    (h : (m.locked (carryOut m .down (revertChoice m select))).run db = (.ok names, db')) :
    Reverted m select names db db' := by
  rcases locked_cases m db with ⟨e, db₁, -, -, hlock, -⟩ | ⟨held, after, hafter, hlock, -⟩
  · cases (hlock _).symm.trans h
  rw [hlock] at h
  obtain ⟨hresult, rfl⟩ := Prod.mk.inj h
  generalize hdone : ((carryOut m .down (revertChoice m select)).run
    { db with held := held }) = done at hresult
  obtain ⟨r, last⟩ := done
  obtain rfl : r = .ok names := hresult
  obtain ⟨batch, files, start, l, hchoice, hresolve, heach⟩ := carryOut_eq_ok hdone
  have hopen : ({ db with held := held } : Memory).canned = ∅ := hcanned
  obtain ⟨rfl, rfl, hreads, htable⟩ := revertChoice_eq_ok hopen hthere hchoice
  obtain ⟨hfst, -⟩ := resolve_eq_ok hresolve
  -- The rows were read, so the ledger's name stands quoted in the statement that removes one.
  have hremove := read_removeSql_of_infix (infix_ident_of_readsLedger hreads)
  have hcleared := cleared_of_executeEach hremove hnamed (hm.of_resolve hresolve .down) heach
  have hnames : names = l.map Prod.fst := names_of_executeEach m .down _ heach
  rw [← hnames] at hcleared
  have hlocks := hafter last
  have hpresent : (after last).tables.contains (after last).ledgerTable = true := by
    rw [(Prod.mk.inj hlocks.schema).1, hlocks.sameLedger.ledgerTable]
    exact hcleared.present htable
  refine ⟨hnames.trans hfst, ⟨?_, ?_, fun _ => hpresent⟩, hreads, hpresent⟩
  · exact SameSettings.trans hcleared.settings (sameSettings_of_sameLedger hlocks.sameLedger)
  · rw [hlocks.sameLedger.ledger]
    exact hcleared.ledger

/-- The next rollback finds the table that the last one found. -/
theorem Reverted.again {m : Manager} {select : List LedgerEntry → List LedgerEntry}
    {names : List String} {db db' : Memory} (h : Reverted m select names db db')
    (hcanned : db.canned = ∅) (hnamed : Named db)
    (htable : '\x60' ∈ m.ledgerTable.toList → m.ledgerTable = db.ledgerTable) :
    db'.hasTable m.ledgerTable = true ∧ db'.canned = ∅ ∧ Named db' := by
  have htable' : m.ledgerTable = db'.ledgerTable := by
    rw [h.cleared.settings.1]
    by_cases hquote : '\x60' ∈ m.ledgerTable.toList
    · exact htable hquote
    · exact ledgerTable_of_readsLedger hquote h.reads
  refine ⟨?_, h.cleared.settings.2.1.trans hcanned, h.cleared.named hnamed⟩
  rw [htable', Memory.hasTable, h.present, Bool.true_or]

/-! ## The rows that a rollback selects -/

/-- Rows by their numbers, the greatest first. -/
def latestFirst (rows : List LedgerRow) : List LedgerRow :=
  (rows.mergeSort fun a b => decide (a.id ≤ b.id)).reverse

theorem mem_latestFirst {rows : List LedgerRow} {r : LedgerRow} :
    r ∈ latestFirst rows ↔ r ∈ rows := by
  rw [latestFirst, List.mem_reverse, List.mem_mergeSort]

theorem reversed_entries (rows : List LedgerRow) :
    Manager.reversed (rows.map entryOf) = (latestFirst rows).map (·.migration) := by
  have hsame : ∀ a ∈ rows, ∀ b ∈ rows,
      decide (a.id ≤ b.id) = decide ((entryOf a).id ≤ (entryOf b).id) := by
    intro a _ b _
    exact decide_eq_decide.2 Int.ofNat_le.symm
  rw [Manager.reversed, ← List.map_mergeSort hsame, latestFirst, ← List.map_reverse, List.map_map]
  rfl

theorem descending_latestFirst {rows : List LedgerRow} (hids : (rows.map (·.id)).Nodup) :
    (latestFirst rows).Pairwise fun a b => b.id < a.id := by
  have hsorted : (rows.mergeSort fun a b => decide (a.id ≤ b.id)).Pairwise
      fun a b => a.id ≤ b.id :=
    pairwise_sorted (fun a b => a.id ≤ b.id) Nat.le_trans
      (fun a b => Nat.le_total a.id b.id) rows
  have hdistinct : (rows.mergeSort fun a b => decide (a.id ≤ b.id)).Pairwise
      fun a b => a.id ≠ b.id := by
    rw [← List.pairwise_map, ← List.nodup_iff_pairwise_ne]
    exact ((List.mergeSort_perm rows _).map _).nodup_iff.2 hids
  exact List.pairwise_reverse.2
    (hsorted.imp₂ (fun a b hle hne => Nat.lt_of_le_of_ne hle hne) hdistinct)

/-- Rows that descend are determined by which they are. -/
theorem eq_of_descending {l l' : List LedgerRow} (h : l.Pairwise fun a b => b.id < a.id)
    (h' : l'.Pairwise fun a b => b.id < a.id) (hmem : ∀ r, r ∈ l ↔ r ∈ l') : l = l' := by
  have : Std.Irrefl fun a b : LedgerRow => b.id < a.id := ⟨fun a => Nat.lt_irrefl a.id⟩
  have : Std.Antisymm fun a b : LedgerRow => b.id < a.id :=
    ⟨fun a b hab hba => absurd hab (Nat.lt_asymm hba)⟩
  exact List.Pairwise.eq_of_mem_iff h h' hmem

/-- With one row for each file, to remove rows by their files removes just these rows. -/
theorem filter_latestFirst {rows : List LedgerRow} (hmigrations : (rows.map (·.migration)).Nodup)
    (p : LedgerRow → Bool) :
    (rows.filter fun r =>
      !((latestFirst (rows.filter p)).map (·.migration)).contains r.migration) =
      rows.filter fun r => !p r := by
  refine List.filter_congr fun r hr => congrArg not (Bool.eq_iff_iff.2 ?_)
  rw [List.contains_iff_mem, List.mem_map]
  constructor
  · rintro ⟨r', hr', hsame⟩
    obtain ⟨hr', hp⟩ := List.mem_filter.1 (mem_latestFirst.1 hr')
    rwa [List.inj_on_of_nodup_map hmigrations hr' hr hsame] at hp
  · exact fun hp => ⟨r, mem_latestFirst.2 (List.mem_filter.2 ⟨hr, hp⟩), rfl⟩

/-- The rows of the latest batches were reverted, the one with the greatest number first, and
no other. -/
structure RevertsLatest (steps : Nat) (names : List String) (db db' : Memory) : Prop where
  rows : ∃ rows : List LedgerRow, names = rows.map (·.migration) ∧
    (rows.Pairwise fun a b => b.id < a.id) ∧
    ∀ r, r ∈ rows ↔ r ∈ db.ledger ∧ AmongLatest steps (db.ledger.map (·.batch)) r.batch
  ledger : db'.ledger =
    db.ledger.filter fun r => ¬AmongLatest steps (db.ledger.map (·.batch)) r.batch

theorem Reverted.latest {m : Manager} {steps : Nat} {names : List String} {db db' : Memory}
    (h : Reverted m (ofLatest steps) names db db')
    (hmigrations : (db.ledger.map (·.migration)).Nodup) (hids : (db.ledger.map (·.id)).Nodup) :
    RevertsLatest steps names db db' := by
  have hselected : ofLatest steps (db.ledger.map entryOf) =
      (db.ledger.filter fun r => AmongLatest steps (db.ledger.map (·.batch)) r.batch).map
        entryOf := by
    rw [ofLatest_eq, List.filter_map, List.map_map]
    rfl
  have hnames := h.names_eq
  rw [hselected, reversed_entries] at hnames
  refine ⟨⟨_, hnames, descending_latestFirst (hids.sublist (List.filter_sublist.map _)),
    fun r => ?_⟩, ?_⟩
  · rw [mem_latestFirst, List.mem_filter, decide_eq_true_eq]
  · rw [h.cleared.ledger, hnames, filter_latestFirst hmigrations]
    exact List.filter_congr fun r _ => (decide_not).symm

section
variable {a b : Nat} {names₁ names₂ names₃ : List String} {db db₁ db₂ db₃ : Memory}
  (h₁ : RevertsLatest a names₁ db db₁) (h₂ : RevertsLatest b names₂ db₁ db₂)
  (h₃ : RevertsLatest (a + b) names₃ db db₃)
include h₁ h₂ h₃

/-- After some of the latest batches the next ones are reverted. -/
theorem RevertsLatest.ledger_add : db₂.ledger = db₃.ledger := by
  rw [h₂.ledger, h₃.ledger, h₁.ledger, List.filter_filter]
  refine List.filter_congr fun r hr => ?_
  have hleft : (notLatest a (db.ledger.map entryOf)).map (·.batch) =
      (db.ledger.filter fun r => ¬AmongLatest a (db.ledger.map (·.batch)) r.batch).map
        (·.batch) := by
    rw [notLatest_eq, List.filter_map, List.map_map, List.map_map]
    rfl
  have hentries : (db.ledger.map entryOf).map (·.batch) = db.ledger.map (·.batch) := by
    rw [List.map_map]
    rfl
  have hadd := amongLatest_add (a := a) (b := b) (List.mem_map_of_mem hr : entryOf r ∈ _)
  rw [hleft, hentries] at hadd
  rw [← Bool.decide_and, decide_eq_decide]
  constructor
  · rintro ⟨hb, ha⟩
    exact fun hab => hb ((hadd ha).1 hab)
  · intro hab
    have ha : ¬AmongLatest a (db.ledger.map (·.batch)) r.batch :=
      fun ha => hab (ha.mono (Nat.le_add_right a b) (Int.le_refl _))
    exact ⟨fun hb => hab ((hadd ha).2 hb), ha⟩

/-- If later rows have later batches, nothing is reverted out of order. -/
theorem RevertsLatest.names_add (hids : (db.ledger.map (·.id)).Nodup)
    (hordered : ∀ r ∈ db.ledger, ∀ r' ∈ db.ledger, r.id < r'.id → r.batch ≤ r'.batch) :
    names₁ ++ names₂ = names₃ := by
  have hledger := h₁.ledger_add h₂ h₃
  obtain ⟨rows₁, rfl, hdescending₁, hmem₁⟩ := h₁.rows
  obtain ⟨rows₂, rfl, hdescending₂, hmem₂⟩ := h₂.rows
  obtain ⟨rows₃, rfl, hdescending₃, hmem₃⟩ := h₃.rows
  have hleft₁ : ∀ r, r ∈ db₁.ledger ↔
      r ∈ db.ledger ∧ ¬AmongLatest a (db.ledger.map (·.batch)) r.batch := by
    intro r
    rw [h₁.ledger, List.mem_filter, decide_eq_true_eq]
  rw [← List.map_append]
  refine congrArg _ (eq_of_descending
    (List.pairwise_append.2 ⟨hdescending₁, hdescending₂, fun x hx y hy => ?_⟩) hdescending₃
    fun r => ?_)
  · -- a later row has a later batch, so it would have been reverted with the first
    obtain ⟨hx, hlatest⟩ := (hmem₁ x).1 hx
    obtain ⟨hy, hnot⟩ := (hleft₁ y).1 ((hmem₂ y).1 hy).1
    refine Nat.lt_of_not_le fun hle => hnot ?_
    rcases Nat.lt_or_eq_of_le hle with hlt | heq
    · exact hlatest.mono (Nat.le_refl a) (hordered x hx y hy hlt)
    · rwa [List.inj_on_of_nodup_map hids hx hy heq] at hlatest
  · -- the rows of both are those that are not left
    have hleft : r ∈ db₂.ledger ↔ r ∈ db₃.ledger := by rw [hledger]
    rw [h₂.ledger, h₃.ledger, List.mem_filter, List.mem_filter, decide_eq_true_eq,
      decide_eq_true_eq] at hleft
    have hrest := hleft₁ r
    rw [List.mem_append, hmem₁, hmem₂, hmem₃]
    by_cases hr : r ∈ db.ledger
    · tauto
    · tauto

end

/-! ## Rollbacks and the reset -/

section
variable {m : Manager} (hm : GatewayRegistry m.registry) {db : Memory}
  (hthere : db.hasTable m.ledgerTable = true) (hcanned : db.canned = ∅) (hnamed : Named db)
include hm hthere hcanned hnamed

theorem reverted_of_rollback {steps : Nat} {names : List String} {db' : Memory}
    (hsteps : 1 ≤ steps) (h : (m.rollback steps).run db = (.ok names, db')) :
    Reverted m (ofLatest steps) names db db' := by
  rw [rollback_eq, if_neg (Nat.one_le_iff_ne_zero.1 hsteps)] at h
  exact reverted_of_locked hm hthere hcanned hnamed h

/-- With as many steps as there are batches, a rollback is the reset, which empties the
ledger. -/
theorem rollback_eq_reset {n : Nat} (hn : 1 ≤ n)
    (hall : (db.ledger.map (·.batch)).toFinset.card ≤ n) :
    (m.rollback n).run db = m.reset.run db ∧
      ∀ names db', m.reset.run db = (.ok names, db') → db'.ledger = [] := by
  have hentries : (db.ledger.map entryOf).map (·.batch) = db.ledger.map (·.batch) := by
    rw [List.map_map]
    rfl
  have hselected : ofLatest n (db.ledger.map entryOf) = db.ledger.map entryOf :=
    ofLatest_eq_self (by rwa [hentries])
  constructor
  · rw [rollback_eq, if_neg (Nat.one_le_iff_ne_zero.1 hn), reset_eq]
    have hsame : ∀ held, (carryOut m .down (revertChoice m (ofLatest n))).run
        { db with held := held } = (carryOut m .down (revertChoice m id)).run
          { db with held := held } := fun held =>
      have hopen : ({ db with held := held } : Memory).canned = ∅ := hcanned
      carryOut_congr (revertChoice_congr hopen hselected)
    rcases locked_cases m db with ⟨e, db₁, -, -, hlock, -⟩ | ⟨held, after, -, hlock, -⟩
    · rw [hlock, hlock]
    · rw [hlock, hlock, hsame]
  · intro names db' h
    rw [reset_eq] at h
    have hreverted := reverted_of_locked hm hthere hcanned hnamed h
    rw [hreverted.cleared.ledger, hreverted.names_eq]
    -- The reset reverts all that have a row, so no row is left.
    refine List.filter_eq_nil_iff.2 fun r hr hleft => ?_
    have hname : r.migration ∈ Manager.reversed (db.ledger.map entryOf) := by
      rw [reversed_entries]
      exact List.mem_map_of_mem (mem_latestFirst.2 hr)
    rw [Bool.not_eq_true', Bool.eq_false_iff] at hleft
    exact hleft (List.contains_iff_mem.2 hname)

end

/-- A rollback reverts exactly the rows of the latest batches. Two rollbacks leave what one of
as many steps leaves, in the same order if later rows have later batches, and a rollback of
as many steps as there are batches is the reset. -/
theorem exact_rollback {m : Manager} (hm : GatewayRegistry m.registry) {db : Memory}
    (hthere : db.hasTable m.ledgerTable = true) (hcanned : db.canned = ∅)
    (hnamed : ∀ r ∈ db.ledger, r.migration ≠ "")
    (hmigrations : (db.ledger.map (·.migration)).Nodup) (hids : (db.ledger.map (·.id)).Nodup) :
    (∀ steps names db', 1 ≤ steps → (m.rollback steps).run db = (.ok names, db') →
        RevertsLatest steps names db db') ∧
      (('\x60' ∈ m.ledgerTable.toList → m.ledgerTable = db.ledgerTable) →
        ∀ a b names₁ names₂ names₃ db₁ db₂ db₃, 1 ≤ a → 1 ≤ b →
          (m.rollback a).run db = (.ok names₁, db₁) →
          (m.rollback b).run db₁ = (.ok names₂, db₂) →
          (m.rollback (a + b)).run db = (.ok names₃, db₃) →
          db₂.ledger = db₃.ledger ∧
            ((∀ r ∈ db.ledger, ∀ r' ∈ db.ledger, r.id < r'.id → r.batch ≤ r'.batch) →
              names₁ ++ names₂ = names₃)) ∧
      ∀ n, 1 ≤ n → (db.ledger.map (·.batch)).toFinset.card ≤ n →
        (m.rollback n).run db = m.reset.run db ∧
          ∀ names db', m.reset.run db = (.ok names, db') → db'.ledger = [] := by
  have hlatest : ∀ steps names db', 1 ≤ steps → (m.rollback steps).run db = (.ok names, db') →
      RevertsLatest steps names db db' := fun steps names db' hsteps h =>
    (reverted_of_rollback hm hthere hcanned hnamed hsteps h).latest hmigrations hids
  refine ⟨hlatest, fun htable a b names₁ names₂ names₃ db₁ db₂ db₃ ha hb hrun₁ hrun₂ hrun₃ => ?_,
    fun n hn hall => rollback_eq_reset hm hthere hcanned hnamed hn hall⟩
  have hreverted := reverted_of_rollback hm hthere hcanned hnamed ha hrun₁
  obtain ⟨hthere₁, hcanned₁, hnamed₁⟩ := hreverted.again hcanned hnamed htable
  have h₁ := hlatest a names₁ db₁ ha hrun₁
  have h₃ := hlatest (a + b) names₃ db₃ (Nat.le_add_right_of_le ha) hrun₃
  -- The rows that are left still have different files and numbers.
  have hsublist : db₁.ledger.Sublist db.ledger := by
    rw [h₁.ledger]
    exact List.filter_sublist
  have h₂ := (reverted_of_rollback hm hthere₁ hcanned₁ hnamed₁ hb hrun₂).latest
    (hmigrations.sublist (hsublist.map _)) (hids.sublist (hsublist.map _))
  exact ⟨h₁.ledger_add h₂ h₃, h₁.names_add h₂ h₃ hids⟩

/-- Without a lock, a rollback executes the migrations that it selects in the ledger. -/
theorem rollback_of_read {m : Manager} {db : Memory} (hlock : m.lockTimeout = none)
    (hcanned : db.canned = ∅) (hread : (m.appliedEntries.run db).1.toOption.join.isSome = true)
    {steps : Nat} (hsteps : 1 ≤ steps) {files : List String} {l : List (String × Scripts)}
    (hfiles : Manager.reversed (ofLatest steps (db.ledger.map entryOf)) = files)
    (hl : m.resolve files = .ok l) :
    (m.rollback steps).run db = (m.executeEach .down 0 [] l).run db := by
  rw [rollback_eq, if_neg (Nat.one_le_iff_ne_zero.1 hsteps), Manager.locked, hlock]
  rcases happlied : m.appliedEntries.run db with ⟨e | _ | entries, db'⟩
  · rw [happlied] at hread
    cases hread
  · rw [happlied] at hread
    cases hread
  obtain ⟨rfl, rfl, -, -⟩ := appliedEntries_eq_some hcanned happlied
  have hchoice : (revertChoice m (ofLatest steps)).run db' = (.ok (0, files), db') := by
    rw [revertChoice, Task.run_bind_ok happlied]
    dsimp only
    rw [hfiles]
    rfl
  exact (run_carryOut .down hchoice hl).1

/-- A manager of migrations that do nothing. -/
def idling : Manager :=
  { Manager.ofRegistry (registryOf [("20240101000000_a.rs", ⟨[], []⟩),
      ("20240102000000_b.rs", ⟨[], []⟩)]) with ledgerTable := "t" }

/-- A database in which they are applied, in batches with a gap between them. -/
def gapped : Memory :=
  { ledgerTable := "t", tables := (∅ : NameMap (List (String × String))).insert "t" []
    ledger := [⟨1, "20240101000000_a.rs", 1, DateTime.ofUnix startOfTime⟩,
      ⟨2, "20240102000000_b.rs", 4, DateTime.ofUnix startOfTime⟩], nextId := 3 }

theorem exact_rollback_gapped : ∃ db₁ db₂ db₃,
    (idling.rollback 1).run gapped = (.ok ["20240102000000_b.rs"], db₁) ∧
    (idling.rollback 1).run db₁ = (.ok ["20240101000000_a.rs"], db₂) ∧
    idling.reset.run gapped = (.ok ["20240102000000_b.rs", "20240101000000_a.rs"], db₃) ∧
    RevertsLatest 1 ["20240102000000_b.rs"] gapped db₁ ∧ db₂.ledger = db₃.ledger ∧
    db₃.ledger = [] := by
  have hm : GatewayRegistry idling.registry := gatewayRegistry_registryOf (by decide)
  have hthere : gapped.hasTable idling.ledgerTable = true := by decide
  obtain ⟨hlatest, hadd, hreset⟩ := exact_rollback hm hthere rfl (by decide) (by decide)
    (by decide)
  obtain ⟨hsame, hempty⟩ := hreset 2 (by decide) (by decide)
  -- What is selected is sorted, so it is computed before the rest.
  have hone : (idling.rollback 1).run gapped = (idling.executeEach .down 0 []
      [("20240102000000_b.rs", ⟨[], []⟩)]).run gapped :=
    rollback_of_read rfl rfl (by decide +kernel) (Nat.le_refl 1) (by cbv) rfl
  have htwo : (idling.rollback 2).run gapped = (idling.executeEach .down 0 []
      [("20240102000000_b.rs", ⟨[], []⟩), ("20240101000000_a.rs", ⟨[], []⟩)]).run gapped :=
    rollback_of_read rfl rfl (by decide +kernel) (by decide) (by cbv) rfl
  have hruns : ((idling.executeEach .down 0 [] [("20240102000000_b.rs", ⟨[], []⟩)]).run
        gapped).1.toOption = some ["20240102000000_b.rs"] ∧
      ((idling.rollback 1).run ((idling.executeEach .down 0 []
        [("20240102000000_b.rs", ⟨[], []⟩)]).run gapped).2).1.toOption =
          some ["20240101000000_a.rs"] ∧
      ((idling.executeEach .down 0 [] [("20240102000000_b.rs", ⟨[], []⟩),
        ("20240101000000_a.rs", ⟨[], []⟩)]).run gapped).1.toOption =
          some ["20240102000000_b.rs", "20240101000000_a.rs"] := by
    decide +kernel
  rw [← hone, ← htwo] at hruns
  obtain ⟨hfirst, hsecond, hall⟩ := hruns
  have hrun₁ := eq_ok_of_toOption hfirst
  have hrun₂ := eq_ok_of_toOption hsecond
  have hrun₃ := eq_ok_of_toOption hall
  have hreset₃ := hsame.symm.trans hrun₃
  refine ⟨_, _, _, hrun₁, hrun₂, hreset₃, hlatest 1 _ _ (Nat.le_refl 1) hrun₁, ?_,
    hempty _ _ hreset₃⟩
  exact (hadd (fun _ => rfl) 1 1 _ _ _ _ _ _ (Nat.le_refl 1) (Nat.le_refl 1) hrun₁ hrun₂
    hrun₃).1

/-! ## A row without a name, and a table by another name -/

/-- A script that deletes from the ledger without parameters when it is reverted. -/
def sweeping : Manager :=
  { Manager.ofRegistry (registryOf [("20240101000000_a.rs",
      ⟨[], [.statement "DELETE FROM `t`"]⟩)]) with ledgerTable := "t" }

/-- A database in which it is applied after a migration with an empty name. -/
def unnamed : Memory :=
  { ledgerTable := "t", tables := (∅ : NameMap (List (String × String))).insert "t" []
    ledger := [⟨1, "", 1, DateTime.ofUnix startOfTime⟩,
      ⟨2, "20240101000000_a.rs", 2, DateTime.ofUnix startOfTime⟩], nextId := 3 }

/-- A manager that takes another table for the ledger, and a migration that drops it. -/
def mistaken : Manager :=
  { Manager.ofRegistry (registryOf [("20240101000000_a.rs", ⟨[], []⟩),
      ("20240102000000_b.rs", ⟨[], [.drop "t\x60s"]⟩)]) with ledgerTable := "t\x60s" }

/-- A database in which both tables are there. -/
def twofold : Memory :=
  { ledgerTable := "t"
    tables := ((∅ : NameMap (List (String × String))).insert "t" []).insert "t\x60s" []
    ledger := [⟨1, "20240101000000_a.rs", 1, DateTime.ofUnix startOfTime⟩,
      ⟨2, "20240102000000_b.rs", 2, DateTime.ofUnix startOfTime⟩], nextId := 3 }

theorem sweeping_loses_nameless : ∃ names db', (sweeping.rollback 1).run unnamed = (.ok names, db') ∧
    ¬RevertsLatest 1 names unnamed db' := by
  have hone : (sweeping.rollback 1).run unnamed = (sweeping.executeEach .down 0 []
      [("20240101000000_a.rs", ⟨[], [.statement "DELETE FROM `t`"]⟩)]).run unnamed :=
    rollback_of_read rfl rfl (by decide +kernel) (Nat.le_refl 1) (by cbv) rfl
  have hswept : ((sweeping.executeEach .down 0 [] [("20240101000000_a.rs",
        ⟨[], [.statement "DELETE FROM `t`"]⟩)]).run unnamed).1.toOption =
          some ["20240101000000_a.rs"] ∧
      ((sweeping.executeEach .down 0 [] [("20240101000000_a.rs",
        ⟨[], [.statement "DELETE FROM `t`"]⟩)]).run unnamed).2.ledger = [] := by
    decide +kernel
  rw [← hone] at hswept
  obtain ⟨hback, hgone⟩ := hswept
  refine ⟨_, _, eq_ok_of_toOption hback, fun h => ?_⟩
  have hleft : (⟨1, "", 1, DateTime.ofUnix startOfTime⟩ : LedgerRow) ∈
      ((sweeping.rollback 1).run unnamed).2.ledger := by
    rw [h.ledger]
    exact List.mem_filter.2 ⟨List.mem_cons_self, by decide⟩
  rw [hgone] at hleft
  exact List.not_mem_nil hleft

theorem mistaken_stops : ∃ names₁ names₂ names₃ db₁ db₂ db₃,
    (mistaken.rollback 1).run twofold = (.ok names₁, db₁) ∧
    (mistaken.rollback 1).run db₁ = (.ok names₂, db₂) ∧
    (mistaken.rollback 2).run twofold = (.ok names₃, db₃) ∧ db₂.ledger ≠ db₃.ledger := by
  -- What is rolled back is computed from the rows, so only the migrations themselves are run.
  have hone : (mistaken.rollback 1).run twofold = (mistaken.executeEach .down 0 []
      [("20240102000000_b.rs", ⟨[], [.drop "t\x60s"]⟩)]).run twofold :=
    rollback_of_read rfl rfl (by decide +kernel) (Nat.le_refl 1) (by cbv) rfl
  have htwo : (mistaken.rollback 2).run twofold = (mistaken.executeEach .down 0 []
      [("20240102000000_b.rs", ⟨[], [.drop "t\x60s"]⟩), ("20240101000000_a.rs", ⟨[], []⟩)]).run
        twofold :=
    rollback_of_read rfl rfl (by decide +kernel) (by decide) (by cbv) rfl
  have hruns : ((mistaken.executeEach .down 0 []
        [("20240102000000_b.rs", ⟨[], [.drop "t\x60s"]⟩)]).run twofold).1.toOption =
          some ["20240102000000_b.rs"] ∧
      ((mistaken.rollback 1).run ((mistaken.executeEach .down 0 []
        [("20240102000000_b.rs", ⟨[], [.drop "t\x60s"]⟩)]).run twofold).2).1.toOption = some [] ∧
      ((mistaken.rollback 1).run ((mistaken.executeEach .down 0 []
        [("20240102000000_b.rs", ⟨[], [.drop "t\x60s"]⟩)]).run twofold).2).2.ledger ≠ [] ∧
      ((mistaken.executeEach .down 0 [] [("20240102000000_b.rs", ⟨[], [.drop "t\x60s"]⟩),
        ("20240101000000_a.rs", ⟨[], []⟩)]).run twofold).1.toOption =
          some ["20240102000000_b.rs", "20240101000000_a.rs"] ∧
      ((mistaken.executeEach .down 0 [] [("20240102000000_b.rs", ⟨[], [.drop "t\x60s"]⟩),
        ("20240101000000_a.rs", ⟨[], []⟩)]).run twofold).2.ledger = [] := by
    decide +kernel
  rw [← hone, ← htwo] at hruns
  obtain ⟨hfirst, hsecond, hleft, hboth, hempty⟩ := hruns
  exact ⟨_, _, _, _, _, _, eq_ok_of_toOption hfirst, eq_ok_of_toOption hsecond,
    eq_ok_of_toOption hboth, fun h => hleft (h.trans hempty)⟩

/-- The row without a name is lost with the one that is reverted, and after the table of the
other name was dropped, a rollback finds nothing to revert. -/
theorem inexact_rollbacks :
    (GatewayRegistry sweeping.registry ∧ sweeping.ledgerTable = unnamed.ledgerTable ∧
      unnamed.hasTable unnamed.ledgerTable = true ∧ unnamed.canned = ∅ ∧
      (unnamed.ledger.map (·.migration)).Nodup ∧ (unnamed.ledger.map (·.id)).Nodup ∧
      ∃ names db', (sweeping.rollback 1).run unnamed = (.ok names, db') ∧
        ¬RevertsLatest 1 names unnamed db') ∧
      GatewayRegistry mistaken.registry ∧ twofold.hasTable mistaken.ledgerTable = true ∧
      twofold.hasTable twofold.ledgerTable = true ∧ twofold.canned = ∅ ∧
      (∀ r ∈ twofold.ledger, r.migration ≠ "") ∧ (twofold.ledger.map (·.migration)).Nodup ∧
      (twofold.ledger.map (·.id)).Nodup ∧
      ∃ names₁ names₂ names₃ db₁ db₂ db₃,
        (mistaken.rollback 1).run twofold = (.ok names₁, db₁) ∧
        (mistaken.rollback 1).run db₁ = (.ok names₂, db₂) ∧
        (mistaken.rollback 2).run twofold = (.ok names₃, db₃) ∧ db₂.ledger ≠ db₃.ledger :=
  ⟨⟨gatewayRegistry_registryOf (by decide), rfl, by decide, rfl, by decide, by decide,
      sweeping_loses_nameless⟩,
    gatewayRegistry_registryOf (by decide), by decide, by decide, rfl, by decide, by decide,
    by decide, mistaken_stops⟩

end SchemaMigration.Migration
