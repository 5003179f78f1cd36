import SchemaMigration.Proofs.CarriedWork
import SchemaMigration.Proofs.RecordedStatements

/-
  Transactions in what a manager sends.

  A migration shows as a bracket: its transaction is not opened, or it is opened and then
  closed once, by a rollback or, behind the accepted statement that tells the ledger, by a
  commit. Between brackets and inside of them no statement controls transactions if the
  scripts give none that does.

  Main statements: `records_executeOne` for one migration, `records_executeEach` for a
  sequence, and `bracketed_of_work`.
-/
namespace SchemaMigration.Migration

open Text Sql Database Schema Catalog

/-! ## Statements that control transactions -/

/-- The statements that open or close a transaction, in upper case. -/
def controlWords : List (List Char) :=
  ["START TRANSACTION".toList, "BEGIN".toList, "COMMIT".toList, "ROLLBACK".toList]

/-- Whether the statement opens or closes a transaction. -/
def controlsTransaction (sql : String) : Bool :=
  controlWords.contains ((trim sql.toList).map Char.toUpper)

theorem controlsTransaction_iff (ledger sql : String) :
    controlsTransaction sql = true ↔ Command.read ledger sql = .begin ∨
      Command.read ledger sql = .commit ∨ Command.read ledger sql = .rollback := by
  rw [controlsTransaction, List.contains_iff_mem, Command.read]
  generalize trim sql.toList = words
  generalize words.map Char.toUpper = upper
  by_cases hbegin : upper = "START TRANSACTION".toList ∨ upper = "BEGIN".toList
  · rw [if_pos hbegin]
    refine iff_of_true ?_ (.inl rfl)
    rcases hbegin with rfl | rfl <;> decide
  by_cases hcommit : upper = "COMMIT".toList
  · rw [if_neg hbegin, if_pos hcommit, hcommit]
    exact iff_of_true (by decide) (.inr (.inl rfl))
  by_cases hrollback : upper = "ROLLBACK".toList
  · rw [if_neg hbegin, if_neg hcommit, if_pos hrollback, hrollback]
    exact iff_of_true (by decide) (.inr (.inr rfl))
  rw [if_neg hbegin, if_neg hcommit, if_neg hrollback]
  -- No other command is read as one that controls transactions.
  refine iff_of_false ?_ ?_
  · simp only [controlWords, List.mem_cons, List.not_mem_nil, or_false]
    rintro (hword | hword | hword | hword)
    · exact hbegin (.inl hword)
    · exact hbegin (.inr hword)
    · exact hcommit hword
    · exact hrollback hword
  · split
    · simp
    split
    · simp
    split <;> simp

/-- Nothing that starts with these two characters controls transactions. -/
def startsApart : List Char → Bool
  | c :: d :: _ => !isBlank c && !isBlank d &&
      controlWords.all fun w => !([c.toUpper, d.toUpper].isPrefixOf w)
  | _ => false

theorem controlsTransaction_of_begins {start sql : String} (h : Begins start sql)
    (hstart : startsApart start.toList = true) : controlsTransaction sql = false := by
  obtain ⟨rest, hrest⟩ := h
  generalize start.toList = cs at hstart hrest
  rcases cs with _ | ⟨c, _ | ⟨d, tail⟩⟩
  · exact absurd hstart Bool.false_ne_true
  · exact absurd hstart Bool.false_ne_true
  rw [startsApart, Bool.and_eq_true, Bool.and_eq_true, Bool.not_eq_true', Bool.not_eq_true',
    List.all_eq_true] at hstart
  obtain ⟨⟨hc, hd⟩, hwords⟩ := hstart
  have htrim : trim ([c, d] ++ (tail ++ rest)) = [c, d] ++ trimEnd (tail ++ rest) :=
    trim_append_left rfl rfl hc hd
  replace htrim : trim sql.toList = [c, d] ++ trimEnd (tail ++ rest) := by
    rw [← hrest]
    exact htrim
  rw [controlsTransaction, htrim, List.map_append, ← Bool.not_eq_true, List.contains_iff_mem]
  intro hmem
  have hprefix := hwords _ hmem
  rw [Bool.not_eq_true', ← Bool.not_eq_true, List.isPrefixOf_iff_prefix] at hprefix
  exact hprefix (List.prefix_append _ _)

theorem controlsTransaction_of_gateway {sql : String} (h : GatewayText sql) :
    controlsTransaction sql = false := by
  have hstarts : ∀ start ∈ gatewayStarts, startsApart start.toList = true := by decide
  obtain ⟨start, hstart, hbegins⟩ := h
  exact controlsTransaction_of_begins hbegins (hstarts start hstart)

theorem controlsTransaction_ledgerSql (direction : Direction) (table : String) :
    controlsTransaction (ledgerSql direction table) = false := by
  cases direction with
  | up =>
    have hbegins : Begins "INSERT INTO " (recordSql table) := (begins_append _ _).append _
    exact controlsTransaction_of_begins hbegins (by decide)
  | down =>
    have hbegins : Begins "DELETE FROM " (removeSql table) := (begins_append _ _).append _
    exact controlsTransaction_of_begins hbegins (by decide)

/-- None of the statements controls transactions. -/
def Uncontrolled (sent : List Sent) : Prop := ∀ s ∈ sent, controlsTransaction s.sql = false

theorem uncontrolled_nil : Uncontrolled [] := fun _ h => absurd h List.not_mem_nil

theorem Uncontrolled.append {front rest : List Sent} (h : Uncontrolled front)
    (h' : Uncontrolled rest) : Uncontrolled (front ++ rest) :=
  List.forall_mem_append.2 ⟨h, h'⟩

theorem uncontrolled_singleton {s : Sent} (h : controlsTransaction s.sql = false) :
    Uncontrolled [s] := List.forall_mem_singleton.2 h

/-! ## Scripts on a recording -/

section
variable {σ : Type} [Connection σ]

/-- The recording is of the connection, and since it started nothing was sent that
controls transactions. -/
def RecordedSince (start : Recording σ) (r : Recording σ) (s : σ) : Prop :=
  r.inner = s ∧ ∃ sent, r.sent = start.sent ++ sent ∧ Sends start.inner sent s ∧ Uncontrolled sent

theorem RecordedSince.refl (r : Recording σ) : RecordedSince r r r.inner :=
  ⟨rfl, [], (List.append_nil _).symm, .refl _, uncontrolled_nil⟩

/-- Work that sends nothing that controls transactions. -/
abbrev RecordsUncontrolled {ε α : Type} (x : ExceptT ε (StateM (Recording σ)) α)
    (y : ExceptT ε (StateM σ) α) : Prop := Records (fun _ => Uncontrolled) x y

namespace RecordsUncontrolled

protected theorem pure {ε α : Type} (a : α) :
    RecordsUncontrolled (pure a : ExceptT ε (StateM (Recording σ)) α) (pure a) :=
  Records.pure uncontrolled_nil

protected theorem throw {ε α : Type} (e : ε) :
    RecordsUncontrolled (throw e : ExceptT ε (StateM (Recording σ)) α) (throw e) :=
  Records.throw uncontrolled_nil

protected theorem bind {ε α β : Type} {x : ExceptT ε (StateM (Recording σ)) α}
    {y : ExceptT ε (StateM σ) α} {f : α → ExceptT ε (StateM (Recording σ)) β}
    {g : α → ExceptT ε (StateM σ) β} (hx : RecordsUncontrolled x y)
    (hf : ∀ a, RecordsUncontrolled (f a) (g a)) : RecordsUncontrolled (x >>= f) (y >>= g) :=
  Records.bind hx (fun _ _ h => h) fun a _ hfront => (hf a).mono fun _ _ h => hfront.append h

theorem query (sql : String) (params : List Value) :
    RecordsUncontrolled (Connection.query sql params : Action (Recording σ) (List Row))
      (Connection.query sql params) :=
  (records_query sql params).mono fun _ _ h => h ▸ uncontrolled_nil

theorem queryOne (sql : String) (params : List Value) :
    RecordsUncontrolled (queryOne sql params : Action (Recording σ) (Option Row))
      (queryOne sql params) :=
  (records_queryOne sql params).mono fun _ _ h => h ▸ uncontrolled_nil

theorem execute {sql : String} (h : controlsTransaction sql = false) (params : List Value) :
    RecordsUncontrolled (Connection.execute sql params : Action (Recording σ) Nat)
      (Connection.execute sql params) :=
  records_execute sql params fun _ => uncontrolled_singleton h

theorem statement {sql : String} (h : controlsTransaction sql = false) :
    RecordsUncontrolled (statement sql : Action (Recording σ) Unit) (statement sql) :=
  (execute h []).bind fun _ => .pure _

theorem ofAction {α : Type} {x : Action (Recording σ) α} {y : Action σ α}
    (h : RecordsUncontrolled x y) :
    RecordsUncontrolled (Task.ofAction x) (Task.ofAction y) := by
  intro r
  obtain ⟨sent, hrun, hleads, hsent⟩ := h r
  refine ⟨sent, ?_, hleads, hsent⟩
  rw [Task.run_ofAction, hrun]
  rfl

theorem ofExcept {α : Type} (r : Except Error α) :
    RecordsUncontrolled (Task.ofExcept r : Task (Recording σ) α) (Task.ofExcept r) := by
  cases r with
  | ok a => exact .pure a
  | error e => exact .throw e

theorem simulates {α : Type} {x : Action (Recording σ) α} {y : Action σ α}
    (h : RecordsUncontrolled x y) (start : Recording σ) : Simulates (RecordedSince start) x y := by
  rintro r _ ⟨rfl, front, hfront, hleads, huncontrolled⟩
  obtain ⟨sent, hrun, hleads', hsent⟩ := h r
  rw [hrun]
  refine ⟨rfl, rfl, front ++ sent, ?_, hleads.trans hleads', huncontrolled.append hsent⟩
  rw [← List.append_assoc, ← hfront]

end RecordsUncontrolled

/-- Gateway calls send nothing that controls transactions, unless it is given to them. -/
theorem keepsSending_follows (start : Recording σ) :
    KeepsSending (fun sql => controlsTransaction sql = false) (RecordedSince start) where
  statement _ h := (RecordsUncontrolled.statement h).simulates start
  askTable _ := (RecordsUncontrolled.query _ _).simulates start
  askColumn _ _ := (RecordsUncontrolled.query _ _).simulates start
  askTables := (RecordsUncontrolled.query _ _).simulates start
  askColumns _ := (RecordsUncontrolled.query _ _).simulates start

/-- A script of gateway calls that is given no statement which controls transactions. -/
structure LeavesTransactions (script : List Operation) : Prop where
  gateway : allGateway script = true
  given : ∀ sql ∈ givenTextsAll script, controlsTransaction sql = false

theorem runAll_follows {script : List Operation} (h : LeavesTransactions script)
    (r : Recording σ) :
    Simulates (OnOpen (RecordedSince r)) (runAll script : Action (Transaction (Recording σ)) _)
      (runAll script) :=
  runAll_simulates_within (keepsSending_follows r).onOpen
    (fun _ => controlsTransaction_of_gateway) script h.gateway h.given

/-! ## One migration -/

variable (m : Manager) (direction : Direction) (batch : Int)

/-- The statement that tells the ledger of a migration, once it was accepted. -/
def ledgerTold (file : String) : Sent :=
  ⟨ledgerSql direction m.ledgerTable, ledgerParams direction file batch, true⟩

/-- How a migration shows in what is sent, and whether it was committed: its transaction
was not opened, was rolled back, or was committed behind the ledger's statement. -/
inductive Bracket (file : String) : Bool → List Sent → Prop
  | unopened : Bracket file false [⟨beginSql, [], false⟩]
  | undone {body : List Sent} (h : Uncontrolled body) (closed : Bool) :
      Bracket file false (⟨beginSql, [], true⟩ :: body ++ [⟨rollbackSql, [], closed⟩])
  | told {body : List Sent} (h : Uncontrolled body) (kept : Bool) :
      Bracket file kept
        (⟨beginSql, [], true⟩ :: body ++
          [ledgerTold m direction batch file, ⟨commitSql, [], kept⟩])

theorem records_writeLedger (file : String) :
    Records (fun result sent => sent =
        [⟨ledgerSql direction m.ledgerTable, ledgerParams direction file batch, result.isOk⟩])
      (m.writeLedger direction file batch : Action (Recording σ) Unit)
      (m.writeLedger direction file batch) := by
  rw [writeLedger_eq, writeLedger_eq]
  have hexecute : Records (fun result sent => sent =
        [⟨ledgerSql direction m.ledgerTable, ledgerParams direction file batch, result.isOk⟩])
      (Connection.execute (ledgerSql direction m.ledgerTable) (ledgerParams direction file batch) :
        Action (Recording σ) Nat)
      (Connection.execute (ledgerSql direction m.ledgerTable)
        (ledgerParams direction file batch)) := records_execute _ _ fun _ => rfl
  refine hexecute.bind (fun _ _ h => h) ?_
  rintro n _ rfl
  exact .pure rfl

variable {direction}

/-- Inside its transaction a migration controls none, and if it succeeds, the last that it
sends is the statement that tells the ledger. -/
theorem attempt_recorded {scripts : Scripts}
    (hscript : LeavesTransactions (scripts.toward direction)) {file : String}
    {failed : Database.Error → Error} {s : σ} {x : Except Error Unit} {t : Transaction σ}
    (h : m.attempt direction file scripts batch failed (Transaction.mk s false) = (x, t))
    (start : List Sent) :
    ∃ body,
      m.attempt direction file scripts batch failed (Transaction.mk (Recording.mk s start) false) =
        (x, ⟨⟨t.inner, start ++ body⟩, false⟩) ∧
      Sends s body t.inner ∧ Uncontrolled body ∧
      (x = .ok () → ∃ front, body = front ++ [ledgerTold m direction batch file]) := by
  have hsim := runAll_follows hscript ⟨s, start⟩ ⟨⟨s, start⟩, false⟩ ⟨s, false⟩
    ⟨rfl, rfl, .refl ⟨s, start⟩⟩
  rw [Manager.attempt] at h ⊢
  generalize (runAll (scripts.toward direction)).run (Transaction.mk s false) = q at hsim h
  generalize (runAll (scripts.toward direction)).run
    (Transaction.mk (Recording.mk s start) false) = p at hsim ⊢
  obtain ⟨y, ⟨⟨u, _⟩, _⟩⟩ := p
  obtain ⟨_, ⟨_, _⟩⟩ := q
  obtain ⟨rfl, rfl, rfl, rfl, front, rfl, hleads, hfront⟩ := hsim
  cases y with
  | error e =>
    cases h
    exact ⟨front, rfl, hleads, hfront, fun hok => by cases hok⟩
  | ok outcomes =>
    obtain ⟨_, hrun, hleads', rfl⟩ :=
      records_writeLedger m direction batch file ⟨u, start ++ front⟩
    dsimp only at h ⊢
    rw [writeLedger_open] at h ⊢
    rw [hrun]
    generalize (m.writeLedger direction file batch).run u = written at h hleads' ⊢
    obtain ⟨z, v⟩ := written
    have hbody : Uncontrolled (front ++ [⟨ledgerSql direction m.ledgerTable,
        ledgerParams direction file batch, z.isOk⟩]) :=
      hfront.append (uncontrolled_singleton (controlsTransaction_ledgerSql direction m.ledgerTable))
    rw [List.append_assoc]
    cases z with
    | ok _ =>
      cases h
      exact ⟨_, rfl, hleads.trans hleads', hbody, fun _ => ⟨front, rfl⟩⟩
    | error e =>
      -- That there is a row already shows in the error alone.
      cases e <;> cases h <;>
        exact ⟨_, rfl, hleads.trans hleads', hbody, fun hok => by cases hok⟩

/-! ### How a migration ends -/

/-- The rollback of a failed migration is one more statement; a warning is none. -/
theorem undone_recorded (direction : Direction) (file : String) (t : Transaction σ)
    (sent : List Sent) :
    ∃ closed, undone direction file ⟨Recording.mk t.inner sent, false⟩ =
        ⟨undone direction file t, sent ++ [⟨rollbackSql, [], closed⟩]⟩ ∧
      Sends t.inner [⟨rollbackSql, [], closed⟩] (undone direction file t) := by
  have hrun : (Connection.rollback : Action (Recording σ) Unit).run ⟨t.inner, sent⟩ =
      ((Connection.rollback.run t.inner).1, ⟨(Connection.rollback.run t.inner).2,
        sent ++ [⟨rollbackSql, [], (Connection.rollback.run t.inner).1.isOk⟩]⟩) := rfl
  have hsends : Sends (Connection.rollback.run t.inner).2 [] (undone direction file t) := by
    rw [undone]
    rcases (Connection.rollback : Action σ Unit).run t.inner with ⟨_ | _, u⟩
    · exact .warn _ (.refl _)
    · exact .refl _
  refine ⟨(Connection.rollback.run t.inner).1.isOk, ?_, .rollback hsends⟩
  rw [undone, undone, hrun]
  rcases (Connection.rollback : Action σ Unit).run t.inner with ⟨_ | _, u⟩ <;> rfl

/-- A migration shows as a bracket, committed if and only if the migration succeeds. -/
theorem records_executeOne {scripts : Scripts}
    (hscript : LeavesTransactions (scripts.toward direction)) (completed : List String)
    (file : String) :
    Records (fun result sent => Bracket m direction batch file result.isOk sent)
      (m.executeOne direction batch completed file scripts : Task (Recording σ) Unit)
      (m.executeOne direction batch completed file scripts) := by
  rintro ⟨s, start⟩
  have hopen : (Connection.begin : Action (Recording σ) Unit).run ⟨s, start⟩ =
      ((Connection.begin.run s).1, ⟨(Connection.begin.run s).2,
        start ++ [⟨beginSql, [], (Connection.begin.run s).1.isOk⟩]⟩) := rfl
  have hopened : Sends s [⟨beginSql, [], (Connection.begin.run s).1.isOk⟩]
      (Connection.begin.run s).2 := .begin (.refl _)
  rcases hbegin : (Connection.begin : Action σ Unit).run s with ⟨e | _, s'⟩
  · rw [hbegin] at hopen hopened
    rw [executeOne_unopened m batch hbegin, executeOne_unopened m batch hopen]
    exact ⟨_, rfl, hopened, .unopened⟩
  rw [hbegin] at hopen hopened
  rcases hattempt : m.attempt direction file scripts batch
    (.executionFailed file direction completed) (Transaction.mk s' false) with ⟨e | _, t⟩
  · obtain ⟨body, hrecorded, hleads, hbody, -⟩ :=
      attempt_recorded m batch hscript hattempt (start ++ [⟨beginSql, [], true⟩])
    obtain ⟨closed, hundone, hclosed⟩ := undone_recorded direction file t
      (start ++ [⟨beginSql, [], true⟩] ++ body)
    rw [executeOne_failed m batch hbegin hattempt, executeOne_failed m batch hopen hrecorded,
      hundone]
    refine ⟨_, ?_, hopened.trans (hleads.trans hclosed), .undone hbody closed⟩
    rw [List.append_assoc, List.append_assoc]
    rfl
  · obtain ⟨body, hrecorded, hleads, hbody, htold⟩ :=
      attempt_recorded m batch hscript hattempt (start ++ [⟨beginSql, [], true⟩])
    -- An attempt that succeeds has told the ledger last.
    obtain ⟨front, rfl⟩ := htold rfl
    have hfront : Uncontrolled front := fun x hx => hbody x (List.mem_append_left _ hx)
    rw [executeOne_closed m batch hbegin hattempt, executeOne_closed m batch hopen hrecorded]
    have hcommit : (Connection.commit : Action (Recording σ) Unit).run
        ⟨t.inner,
          start ++ [⟨beginSql, [], true⟩] ++ (front ++ [ledgerTold m direction batch file])⟩ =
      ((Connection.commit.run t.inner).1, ⟨(Connection.commit.run t.inner).2,
        start ++ [⟨beginSql, [], true⟩] ++ (front ++ [ledgerTold m direction batch file]) ++
          [⟨commitSql, [], (Connection.commit.run t.inner).1.isOk⟩]⟩) := rfl
    have hclosed : Sends t.inner [⟨commitSql, [], (Connection.commit.run t.inner).1.isOk⟩]
      (Connection.commit.run t.inner).2 := .commit (.refl _)
    rw [hcommit]
    generalize (Connection.commit : Action σ Unit).run t.inner = ended at hclosed ⊢
    obtain ⟨x, u⟩ := ended
    have hleads' := hopened.trans (hleads.trans hclosed)
    rw [List.append_assoc] at hleads'
    refine ⟨_, ?_, hleads', ?_⟩
    · simp only [List.append_assoc]
      rfl
    · cases x <;> exact .told hfront _

/-! ## Sequences of migrations -/

/-- The brackets of migrations in order, and whether all were committed; behind one that
was not committed nothing is sent. -/
inductive Brackets (m : Manager) (direction : Direction) (batch : Int) :
    Bool → List String → List Sent → Prop
  | nil : Brackets m direction batch true [] []
  | cons {file : String} {files : List String} {sent rest : List Sent} {all : Bool}
      (h : Bracket m direction batch file true sent)
      (hrest : Brackets m direction batch all files rest) :
      Brackets m direction batch all (file :: files) (sent ++ rest)
  | last {file : String} {files : List String} {sent : List Sent}
      (h : Bracket m direction batch file false sent) :
      Brackets m direction batch false (file :: files) sent

theorem records_executeEach {l : List (String × Scripts)}
    (hl : ∀ p ∈ l, LeavesTransactions (p.2.toward direction)) (completed : List String) :
    Records (fun result sent => Brackets m direction batch result.isOk (l.map Prod.fst) sent)
      (m.executeEach direction batch completed l : Task (Recording σ) (List String))
      (m.executeEach direction batch completed l) := by
  induction l generalizing completed with
  | nil => exact .pure .nil
  | cons p l ih =>
    obtain ⟨file, scripts⟩ := p
    obtain ⟨hscript, hl⟩ := List.forall_mem_cons.1 hl
    rw [Manager.executeEach, Manager.executeEach]
    refine (records_executeOne m batch hscript completed file).bind ?_ ?_
    · exact fun e sent h => .last h
    · exact fun _ front h => (ih hl (completed ++ [file])).mono fun _ _ hrest => .cons h hrest

/-! ## Work of a manager -/

/-- What is sent is nothing that controls transactions, then the brackets of migrations;
all are committed if the work succeeds, and its answer are their files. -/
def Bracketed (m : Manager) (direction : Direction) (result : Except Error (List String))
    (sent : List Sent) : Prop :=
  ∃ lead batch all files brackets, sent = lead ++ brackets ∧ Uncontrolled lead ∧
    Brackets m direction batch all files brackets ∧
    ∀ names, result = .ok names → all = true ∧ names = files

theorem Bracketed.of_lead {m : Manager} {direction : Direction} {sent : List Sent}
    (h : Uncontrolled sent) (e : Error) : Bracketed m direction (.error e) sent :=
  ⟨sent, 0, true, [], [], (List.append_nil sent).symm, h, .nil, fun _ hok => by cases hok⟩

theorem records_hasTable (table : String) :
    RecordsUncontrolled (hasTable table : Action (Recording σ) Bool) (hasTable table) :=
  (RecordsUncontrolled.queryOne _ _).bind fun _ => .pure _

theorem records_entries (table : String) :
    RecordsUncontrolled (Ledger.entries table : Action (Recording σ) _) (Ledger.entries table) := by
  refine (RecordsUncontrolled.query _ _).bind fun rows => ?_
  split
  · exact .pure _
  · exact .throw _

theorem records_ensure (table : String) :
    RecordsUncontrolled (Ledger.ensure table : Action (Recording σ) Unit)
      (Ledger.ensure table) := by
  refine .statement ?_
  have hbegins : Begins "CREATE TABLE " (createLedgerSql table) := by
    unfold createLedgerSql
    iterate 4 apply Begins.append
    exact begins_append _ "IF NOT EXISTS "
  exact controlsTransaction_of_begins hbegins (by decide)

theorem records_runChoice (limit : Option Nat) :
    RecordsUncontrolled (runChoice m limit : Task (Recording σ) _) (runChoice m limit) := by
  refine (records_ensure m.ledgerTable).ofAction.bind fun _ => ?_
  refine (records_entries m.ledgerTable).ofAction.bind fun entries => ?_
  exact (RecordsUncontrolled.ofExcept _).bind fun files => .pure _

theorem records_revertChoice (select : List LedgerEntry → List LedgerEntry) :
    RecordsUncontrolled (revertChoice m select : Task (Recording σ) _)
      (revertChoice m select) := by
  have happlied : RecordsUncontrolled (m.appliedEntries : Task (Recording σ) _)
      m.appliedEntries := by
    refine (records_hasTable m.ledgerTable).ofAction.bind fun present => ?_
    cases present with
    | true => exact (records_entries m.ledgerTable).ofAction.bind fun _ => .pure _
    | false => exact .pure _
  refine happlied.bind fun entries => ?_
  cases entries with
  | none => exact .pure _
  | some entries => exact .pure _

/-- The migrations of a registry leave transactions alone. -/
def AllLeaveTransactions (r : Registry) : Prop :=
  ∀ e ∈ r.entries.entries, ∀ direction : Direction, LeavesTransactions (e.2.2.toward direction)

theorem AllLeaveTransactions.of_get? {r : Registry} (h : AllLeaveTransactions r) {file : String}
    {scripts : Scripts} (hget : r.get? file = some scripts) (direction : Direction) :
    LeavesTransactions (scripts.toward direction) := by
  rw [Registry.get?, NameMap.get?, Option.map_map, Option.map_eq_some_iff] at hget
  obtain ⟨e, he, rfl⟩ := hget
  exact h e (List.mem_of_find?_eq_some he) direction

variable {m}

theorem records_carryOut (hm : AllLeaveTransactions m.registry)
    {choice : Task (Recording σ) (Int × List String)} {choice' : Task σ (Int × List String)}
    (hchoice : RecordsUncontrolled choice choice') :
    Records (Bracketed m direction) (carryOut m direction choice)
      (carryOut m direction choice') := by
  refine Records.bind hchoice (fun e _ h => .of_lead h e) ?_
  rintro ⟨batch, files⟩ lead hlead
  cases hresolve : m.resolve files with
  | error e => exact .throw (.of_lead (by rwa [List.append_nil]) e)
  | ok l =>
    have hl : ∀ p ∈ l, LeavesTransactions (p.2.toward direction) := fun p hp =>
      hm.of_get? ((resolve_eq_ok hresolve).2 p hp) direction
    have hnames : ∀ s : σ, ∀ names, ((m.executeEach direction batch [] l).run s).1 = .ok names →
        names = l.map Prod.fst := fun s names h =>
      names_of_executeEach m direction batch (Prod.ext h rfl)
    have heach := Records.and_result (R := fun result => ∀ names, result = .ok names →
      names = l.map Prod.fst) (records_executeEach m batch hl []) hnames
    refine heach.mono fun result sent h => ?_
    refine ⟨lead, batch, _, _, sent, rfl, hlead, h.1, fun names hok => ⟨?_, h.2 names hok⟩⟩
    rw [hok]
    rfl

/-! ### Under the lock -/

theorem Bracketed.prepend {result : Except Error (List String)} {front sent : List Sent}
    (h : Bracketed m direction result sent) (hfront : Uncontrolled front) :
    Bracketed m direction result (front ++ sent) := by
  obtain ⟨lead, batch, all, files, brackets, rfl, hlead, hbrackets, hnames⟩ := h
  exact ⟨front ++ lead, batch, all, files, brackets, (List.append_assoc _ _ _).symm,
    hfront.append hlead, hbrackets, hnames⟩

/-- Work, and the lock given back after it. -/
def releasing {τ α : Type} [Connection τ] (name : String) (act : Task τ α) : Task τ α :=
  fun s => ((act.run s).1, releaseLock name (act.run s).2)

theorem withLock_eq {τ α : Type} [Connection τ] (name : String) (seconds : Nat)
    (act : Task τ α) :
    withLock name (some seconds) act =
      acquireLock name seconds >>= fun _ => releasing name act := by
  funext s
  show withLock name (some seconds) act s =
    (acquireLock name seconds >>= fun _ => releasing name act).run s
  rw [Task.run_bind]
  dsimp only [withLock]
  rcases (acquireLock name seconds).run s with ⟨_ | _, s'⟩ <;> rfl

/-- To give the lock back sends nothing. -/
theorem releaseLock_recorded (name : String) (s : σ) (sent : List Sent) :
    releaseLock name (Recording.mk s sent) = ⟨releaseLock name s, sent⟩ ∧
      Sends s [] (releaseLock name s) := by
  obtain ⟨_, hrun, hleads, rfl⟩ := records_queryOne releaseLockSql [.text name] ⟨s, sent⟩
  rw [List.append_nil] at hrun
  dsimp only at hrun hleads
  rw [releaseLock, releaseLock, hrun]
  generalize (queryOne releaseLockSql [.text name] : Action σ _).run s = answer at hleads
  obtain ⟨_ | _, s'⟩ := answer
  · exact ⟨rfl, hleads.trans (.warn _ (.refl _))⟩
  · exact ⟨rfl, hleads⟩

theorem records_releasing {α : Type} {P : Except Error α → List Sent → Prop}
    {x : Task (Recording σ) α} {y : Task σ α} (h : Records P x y) (name : String) :
    Records P (releasing name x) (releasing name y) := by
  intro r
  obtain ⟨sent, hrun, hleads, hsent⟩ := h r
  obtain ⟨hrelease, hreleased⟩ := releaseLock_recorded name (y.run r.inner).2 (r.sent ++ sent)
  refine ⟨sent, ?_, ?_, hsent⟩
  · show ((x.run r).1, releaseLock name (x.run r).2) = _
    rw [hrun, hrelease]
    rfl
  · have hall := hleads.trans hreleased
    rwa [List.append_nil] at hall

theorem records_locked {x : Task (Recording σ) (List String)} {y : Task σ (List String)}
    (h : Records (Bracketed m direction) x y) :
    Records (Bracketed m direction) (m.locked x) (m.locked y) := by
  rw [Manager.locked, Manager.locked]
  cases m.lockTimeout with
  | none => exact h
  | some seconds =>
    have hacquire : RecordsUncontrolled
        (acquireLock (lockName m.ledgerTable) seconds : Task (Recording σ) Unit)
        (acquireLock (lockName m.ledgerTable) seconds) := by
      refine (RecordsUncontrolled.queryOne _ _).ofAction.bind fun row => ?_
      split
      · exact .pure ()
      · exact .throw _
    rw [withLock_eq, withLock_eq]
    refine Records.bind hacquire (fun e _ h => .of_lead h e) fun _ front hfront => ?_
    exact (records_releasing h _).mono fun _ _ h => h.prepend hfront

/-! ### What a manager is told to do -/

/-- The work as a task on any connection. -/
def Work.taskOn {τ : Type} [Connection τ] (m : Manager) : Work → Task τ (List String)
  | .run limit => m.run limit
  | .rollback steps => m.rollback steps
  | .reset => m.reset

theorem Work.taskOn_memory (m : Manager) (w : Work) : w.taskOn m = w.task m := by
  cases w <;> rfl

theorem records_taskOn (hm : AllLeaveTransactions m.registry) (w : Work) :
    Records (Bracketed m w.direction) (w.taskOn m : Task (Recording σ) (List String))
      (w.taskOn m) := by
  have hnothing : Bracketed m w.direction (.ok []) [] :=
    ⟨[], 0, true, [], [], rfl, uncontrolled_nil, .nil, fun _ h => ⟨rfl, (Except.ok.inj h).symm⟩⟩
  cases w with
  | run limit =>
    rw [Work.taskOn, Work.taskOn, run_eq, run_eq]
    split
    · exact .pure hnothing
    · exact records_locked (records_carryOut hm (records_runChoice m limit))
  | rollback steps =>
    rw [Work.taskOn, Work.taskOn, rollback_eq, rollback_eq]
    split
    · exact .pure hnothing
    · exact records_locked (records_carryOut hm (records_revertChoice m _))
  | reset =>
    rw [Work.taskOn, Work.taskOn, reset_eq, reset_eq]
    exact records_locked (records_carryOut hm (records_revertChoice m id))

end

/-- On a database in memory, whatever it holds and whatever in it is bound to fail, what the
work of a manager adds to the log is bracketed. -/
theorem bracketed_of_work {m : Manager} (hm : AllLeaveTransactions m.registry) (w : Work)
    (db : Memory) :
    ∃ sent, (w.taskOn m).run (Recording.mk db []) =
        (((w.task m).run db).1, ⟨((w.task m).run db).2, sent⟩) ∧
      ((w.task m).run db).2.statements = db.statements ++ sent.map (·.sql) ∧
      Bracketed m w.direction ((w.task m).run db).1 sent := by
  obtain ⟨sent, hrun, hleads, hsent⟩ := records_taskOn hm w (Recording.mk db [])
  rw [Work.taskOn_memory] at hrun hleads hsent
  exact ⟨sent, hrun, hleads.statements, hsent⟩

/-- A manager of one migration, whose scripts give their statements as they are. -/
def filling : Manager :=
  .ofRegistry ⟨⟨[("m20240101000000_a", "20240101000000_a.rs",
    ⟨[.statement "INSERT INTO `t` VALUES (1)"], [.statement "DELETE FROM `t`"]⟩)],
    List.pairwise_singleton _ _⟩⟩

/-- A database that refuses to commit. -/
def uncommitting : Memory := (Memory.empty defaultLedgerTable).failOn commitSql

theorem bracketed_of_work_uncommitting :
    AllLeaveTransactions filling.registry ∧
    ∃ sent, (((Work.run none).task filling).run uncommitting).2.statements =
        uncommitting.statements ++ sent.map (·.sql) ∧
      Bracketed filling .up (((Work.run none).task filling).run uncommitting).1 sent := by
  have hleave : AllLeaveTransactions filling.registry := by
    intro e he direction
    obtain rfl := List.mem_singleton.1 he
    cases direction with
    | up => exact ⟨rfl, by decide +kernel⟩
    | down => exact ⟨rfl, by decide +kernel⟩
  obtain ⟨sent, -, hlog, hsent⟩ := bracketed_of_work hleave (.run none) uncommitting
  exact ⟨hleave, sent, hlog, hsent⟩

end SchemaMigration.Migration
