import SchemaMigration.Proofs.ScriptEffects
import SchemaMigration.Proofs.TransactionBrackets

/-
  What a rollback of the database in memory restores.

  The ledger as it was when a transaction began is put aside, and stays put aside until
  the transaction is closed or a statement changes the schema, or fails to. Between the
  two no statement puts aside another one. So after a rollback the ledger is that of the
  beginning, or that of just before the rollback, by which statements came between; tables
  stay as they are in either case.

  Main statements: `executeAll_within` and `rollback_of_open`.
-/
namespace SchemaMigration.Database.Memory

open Text Sql Migration

/-! ## Statements that end a transaction by the way -/

/-- Whether a statement is carried out and starts with a word of those that change the
schema. How it ends is of no concern. What is bound to fail stays the same from statement to
statement, so any database on the way may be asked. -/
def endsTransaction (db : Memory) (sql : String) : Bool :=
  !db.isBoundToFail sql && Command.changesSchema (trim sql.toList)

/-- What starts with such a word is read as a change, whichever table is the ledger. -/
theorem read_of_changesSchema (ledger : String) {sql : String}
    (h : Command.changesSchema (trim sql.toList) = true) :
    Command.read ledger sql = .change (SchemaChange.read (trim sql.toList)) := by
  obtain ⟨w, hw, hprefix⟩ := List.any_eq_true.1 h
  replace hprefix := List.isPrefixOf_iff_prefix.1 hprefix
  have hsplit : trim sql.toList =
      (trim sql.toList).take w.length ++ (trim sql.toList).drop w.length :=
    (List.take_append_drop _ _).symm
  have hword : ((trim sql.toList).take w.length).map Char.toUpper = w := by
    rw [List.map_take]
    exact (List.prefix_iff_eq_take.1 hprefix).symm
  rw [hsplit]
  generalize (trim sql.toList).take w.length = word at hsplit hword
  subst hword
  simp only [Command.schemaWords, List.mem_cons, List.not_mem_nil, or_false] at hw
  refine read_of_schemaWord ledger hsplit ?_ ?_ ?_
  · rcases hw with hw | hw | hw | hw <;> rw [hw] <;> decide
  · rcases hw with hw | hw | hw | hw <;> rw [hw] <;> exact fun _ => ⟨rfl, rfl, rfl⟩
  · rcases hw with hw | hw | hw | hw <;> rw [hw] <;> exact fun _ => rfl

/-- Nothing else is read as a change. -/
theorem changesSchema_of_read {ledger sql : String} {c : Except Error SchemaChange}
    (h : Command.read ledger sql = .change c) :
    Command.changesSchema (trim sql.toList) = true := by
  rw [Command.read] at h
  iterate 5
    split at h
    · cases h
  split at h
  · assumption
  · cases h

/-! ## Statements inside a transaction -/

/-- From the first state to the second the same is bound to fail, and what was put aside
is still put aside, unless the transaction has ended. -/
structure Within (ended : Bool) (db db' : Memory) : Prop where
  failures : db'.failures = db.failures
  saved : db'.saved = if ended then none else db.saved

namespace Within
variable {a b c : Memory} {ended ended' : Bool}

protected theorem refl (a : Memory) : Within false a a := ⟨rfl, rfl⟩

protected theorem trans (h : Within ended a b) (h' : Within ended' b c) :
    Within (ended || ended') a c := by
  refine ⟨h'.failures.trans h.failures, ?_⟩
  rw [h'.saved, h.saved]
  cases ended <;> cases ended' <;> rfl

theorem isBoundToFail (h : Within ended a b) (sql : String) :
    b.isBoundToFail sql = a.isBoundToFail sql :=
  isBoundToFail_congr h.failures sql

theorem endsTransaction (h : Within ended a b) (sql : String) :
    b.endsTransaction sql = a.endsTransaction sql := by
  rw [Memory.endsTransaction, h.isBoundToFail]
  rfl

end Within

theorem withLedger_within {α : Type} {db : Memory} {act : Except Error α × Memory}
    (h : Within false db act.2) : Within false db (db.withLedger act).2 := by
  rw [withLedger]
  split
  · exact h
  · exact .refl db

theorem record_within (db : Memory) (ifAbsent : Bool) (params : List Value) :
    Within false db (db.record ifAbsent params).2 := by
  rw [record]
  split
  · exact .refl db
  · dsimp only
    split
    · split
      · exact .refl db
      · exact .refl db
    · exact ⟨rfl, rfl⟩

/-- A statement that controls no transaction puts no ledger aside, and gives up the one
put aside exactly when it changes the schema, even if it fails at that. -/
theorem execute_within {sql : String} (h : controlsTransaction sql = false) (db : Memory)
    (params : List Value) :
    Within (db.endsTransaction sql) db (db.execute sql params).2 := by
  have hnoted : Within false db (db.noted sql) := ⟨rfl, rfl⟩
  rw [execute_eq, endsTransaction]
  by_cases hfails : db.isBoundToFail sql = true
  · rw [if_pos hfails, hfails]
    exact hnoted
  rw [if_neg hfails, Bool.eq_false_iff.2 hfails, Bool.not_false, Bool.true_and]
  cases hchanges : Command.changesSchema (trim sql.toList) with
  | true =>
    rw [read_of_changesSchema db.ledgerTable hchanges]
    have hended := perform_change (db.noted sql) params (SchemaChange.read (trim sql.toList))
    exact ⟨hended.1.failures, hended.2⟩
  | false =>
    have hcontrol := mt (controlsTransaction_iff db.ledgerTable sql).2 (Bool.eq_false_iff.1 h)
    have hchange : ∀ c, Command.read db.ledgerTable sql ≠ .change c := fun c hread =>
      Bool.false_ne_true (hchanges.symm.trans (changesSchema_of_read hread))
    -- What is left is a row that is added or removed, or no effect at all.
    generalize Command.read db.ledgerTable sql = command at hcontrol hchange
    cases command with
    | begin => exact absurd (.inl rfl) hcontrol
    | commit => exact absurd (.inr (.inl rfl)) hcontrol
    | rollback => exact absurd (.inr (.inr rfl)) hcontrol
    | change c => exact absurd rfl (hchange c)
    | record ifAbsent => exact hnoted.trans (withLedger_within (record_within _ ifAbsent params))
    | remove => exact hnoted.trans (withLedger_within ⟨rfl, rfl⟩)
    | other => exact hnoted

/-- The database after statements with their parameters, whatever each of them answers. -/
def executeAll (body : List (String × List Value)) (db : Memory) : Memory :=
  body.foldl (fun db s => (db.execute s.1 s.2).2) db

theorem executeAll_within {body : List (String × List Value)}
    (h : ∀ s ∈ body, controlsTransaction s.1 = false) (db : Memory) :
    Within (body.any fun s => db.endsTransaction s.1) db (db.executeAll body) := by
  induction body generalizing db with
  | nil => exact .refl db
  | cons s body ih =>
    obtain ⟨hs, hbody⟩ := List.forall_mem_cons.1 h
    have hstep := execute_within hs db s.2
    have hrest := ih hbody (db.execute s.1 s.2).2
    -- What is bound to fail is the same behind the statement as before it.
    simp only [hstep.endsTransaction] at hrest
    exact hstep.trans hrest

/-! ## From the beginning to the rollback -/

/-- Whether a statement consists of these words, in any case and between any blanks. -/
def Says (words sql : String) : Prop := (trim sql.toList).map Char.toUpper = words.toList

instance (words sql : String) : Decidable (Says words sql) :=
  inferInstanceAs (Decidable ((trim sql.toList).map Char.toUpper = words.toList))

theorem read_of_begin (ledger : String) {sql : String}
    (h : Says "START TRANSACTION" sql ∨ Says "BEGIN" sql) : Command.read ledger sql = .begin :=
  if_pos h

theorem read_of_rollback (ledger : String) {sql : String} (h : Says "ROLLBACK" sql) :
    Command.read ledger sql = .rollback := by
  rw [Command.read, h]
  rfl

/-- A statement that succeeds is carried out as it is read. -/
theorem execute_of_isOk {db : Memory} {sql : String} {params : List Value}
    (h : (db.execute sql params).1.isOk = true) :
    db.execute sql params = (db.noted sql).perform params (Command.read db.ledgerTable sql) := by
  rw [execute_eq] at h ⊢
  by_cases hfails : db.isBoundToFail sql = true
  · rw [if_pos hfails] at h
    cases h
  · exact if_neg hfails

/-- The beginning of a transaction puts the ledger aside. -/
theorem execute_begin {db : Memory} {sql : String} {params : List Value}
    (h : Says "START TRANSACTION" sql ∨ Says "BEGIN" sql)
    (hok : (db.execute sql params).1.isOk = true) :
    (db.execute sql params).2 = { db.noted sql with saved := some (db.ledger, db.nextId) } := by
  rw [execute_of_isOk hok, read_of_begin _ h]
  rfl

/-- A rollback restores the ledger that was put aside, if one was, and touches no table. -/
theorem execute_rollback {db : Memory} {sql : String} {params : List Value}
    (h : Says "ROLLBACK" sql) (hok : (db.execute sql params).1.isOk = true) :
    let after := (db.execute sql params).2
    (after.ledger, after.nextId) = db.saved.getD (db.ledger, db.nextId) ∧
      after.tables = db.tables ∧ after.catalog = db.catalog := by
  have hperform : ∀ a : Memory, ((a.perform params .rollback).2.ledger,
      (a.perform params .rollback).2.nextId) = a.saved.getD (a.ledger, a.nextId) ∧
      (a.perform params .rollback).2.tables = a.tables ∧
      (a.perform params .rollback).2.catalog = a.catalog := by
    intro a
    rw [perform]
    cases a.saved <;> exact ⟨rfl, rfl, rfl⟩
  rw [execute_of_isOk hok, read_of_rollback _ h]
  exact hperform (db.noted sql)

/-- Statements between the beginning of a transaction and a rollback. The ledger and its
counter are as they were at the beginning if none of the statements ends the transaction
by the way, and as just before the rollback if one does; the tables are in both cases. -/
theorem rollback_of_open (db : Memory) {opening closing : String}
    {openingParams closingParams : List Value} {body : List (String × List Value)}
    (hopening : Says "START TRANSACTION" opening ∨ Says "BEGIN" opening)
    (hopened : (db.execute opening openingParams).1.isOk = true)
    (hbody : ∀ s ∈ body, controlsTransaction s.1 = false)
    (hclosing : Says "ROLLBACK" closing)
    (hclosed : (((db.execute opening openingParams).2.executeAll body).execute closing
      closingParams).1.isOk = true) :
    let before := (db.execute opening openingParams).2.executeAll body
    let after := (before.execute closing closingParams).2
    ((∀ s ∈ body, db.endsTransaction s.1 = false) →
      after.ledger = db.ledger ∧ after.nextId = db.nextId) ∧
    ((∃ s ∈ body, db.endsTransaction s.1 = true) →
      after.ledger = before.ledger ∧ after.nextId = before.nextId) ∧
    after.tables = before.tables ∧ after.catalog = before.catalog := by
  have hwithin := executeAll_within hbody (db.execute opening openingParams).2
  have hsaved : ((db.execute opening openingParams).2.executeAll body).saved =
      if body.any fun s => db.endsTransaction s.1 then none else some (db.ledger, db.nextId) := by
    rw [hwithin.saved, execute_begin hopening hopened]
    rfl
  -- The rollback restores what was put aside at the beginning, if that is still there.
  obtain ⟨hrows, htables, hcatalog⟩ := execute_rollback hclosing hclosed
  rw [hsaved] at hrows
  refine ⟨fun hnone => ?_, fun hsome => ?_, htables, hcatalog⟩
  · have hany : (body.any fun s => db.endsTransaction s.1) = false :=
      List.any_eq_false.2 fun s hs => Bool.eq_false_iff.1 (hnone s hs)
    rw [hany] at hrows
    exact Prod.mk.inj hrows
  · have hany : (body.any fun s => db.endsTransaction s.1) = true := List.any_eq_true.2 hsome
    rw [hany] at hrows
    exact Prod.mk.inj hrows

/-- A database with a ledger, where everything about one table is bound to fail. -/
def guarded : Memory :=
  { (empty defaultLedgerTable).failOn "\x60forbidden\x60" with
    tables := (∅ : NameMap _).insert defaultLedgerTable [("id", "int")] }

/-- A statement that adds a row to the ledger, and another behind it. -/
def recordThen (sql : String) : List (String × List Value) :=
  [("INSERT INTO \x60migrations\x60 (\x60migration\x60, \x60batch\x60) VALUES (?, ?)",
    [.text "a", .int 1]), (sql, [])]

/-- A row, and a table that is bound to fail. -/
def refused : List (String × List Value) :=
  recordThen "CREATE TABLE \x60forbidden\x60 (\x60id\x60 int)"

/-- A row, and a table that is there already. -/
def clashing : List (String × List Value) :=
  recordThen " create table \x60migrations\x60 (\x60id\x60 int)"

/-- The second statement fails both times, but only what is carried out ends the
transaction. -/
theorem rollback_of_open_guarded :
    ((∀ s ∈ refused, guarded.endsTransaction s.1 = false) ∧
      (((guarded.execute "START TRANSACTION" []).2.executeAll refused).execute
        " rollback" []).2.ledger = guarded.ledger) ∧
    ((∃ s ∈ clashing, guarded.endsTransaction s.1 = true) ∧
      (((guarded.execute "START TRANSACTION" []).2.executeAll clashing).execute
        " rollback" []).2.ledger =
          ((guarded.execute "START TRANSACTION" []).2.executeAll clashing).ledger) := by
  have hopening : Says "START TRANSACTION" "START TRANSACTION" := by decide
  have hclosing : Says "ROLLBACK" " rollback" := by decide
  have hopened : (guarded.execute "START TRANSACTION" []).1.isOk = true := by decide +kernel
  constructor
  · have hrefused : ∀ s ∈ refused, guarded.endsTransaction s.1 = false := by decide +kernel
    have hbody : ∀ s ∈ refused, controlsTransaction s.1 = false := by decide +kernel
    have hclosed : (((guarded.execute "START TRANSACTION" []).2.executeAll refused).execute
      " rollback" []).1.isOk = true := by decide +kernel
    have hback := rollback_of_open guarded (.inl hopening) hopened hbody hclosing hclosed
    exact ⟨hrefused, (hback.1 hrefused).1⟩
  · have hclashing : ∃ s ∈ clashing, guarded.endsTransaction s.1 = true := by decide +kernel
    have hbody : ∀ s ∈ clashing, controlsTransaction s.1 = false := by decide +kernel
    have hclosed : (((guarded.execute "START TRANSACTION" []).2.executeAll clashing).execute
      " rollback" []).1.isOk = true := by decide +kernel
    have hback := rollback_of_open guarded (.inl hopening) hopened hbody hclosing hclosed
    exact ⟨hclashing, (hback.2.1 hclashing).1⟩

end SchemaMigration.Database.Memory
