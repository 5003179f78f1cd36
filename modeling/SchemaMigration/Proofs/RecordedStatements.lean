import SchemaMigration.Database.Memory
import SchemaMigration.Database.Rehearsal
import SchemaMigration.Proofs.RehearsedScript

/-
  What is sent to a connection.

  A recording passes everything on to a connection and notes each statement, with
  whether it was accepted. `Records P x y`: on a recording, `x` does what `y` does on the
  plain connection, the statements that it sends lead from the connection before to the
  one after, and they are as `P` says of the result. It is closed under all that work on
  a connection is made of.

  A blueprint is refused before its first statement, and one that passes its checks has
  its statements sent in order, as far as they are accepted.

  Main statements: `Sends.statements`, the log of a database in memory is what was sent
  to it, and `definitions_checked_first`.
-/
namespace SchemaMigration.Database

open Sql

/-- A statement that was sent, and whether it was accepted. -/
structure Sent where
  sql : String
  params : List Value
  accepted : Bool
  deriving DecidableEq, Repr

/-- A connection of type `σ` with the statements that were sent to it. -/
structure Recording (σ : Type) where
  inner : σ
  sent : List Sent := []

namespace Recording
variable {σ α : Type}

/-- An action of the inner connection that sends a statement. -/
def sending (sql : String) (params : List Value) (act : Action σ α) : Action (Recording σ) α :=
  fun r =>
    let (x, inner) := act.run r.inner
    (x, ⟨inner, r.sent ++ [⟨sql, params, x.isOk⟩]⟩)

/-- An action of the inner connection that sends no statement. -/
def passing (act : Action σ α) : Action (Recording σ) α := fun r =>
  let (x, inner) := act.run r.inner
  (x, { r with inner })

instance [Connection σ] : Connection (Recording σ) where
  execute sql params := sending sql params (Connection.execute sql params)
  query sql params := passing (Connection.query sql params)
  begin := sending beginSql [] Connection.begin
  commit := sending commitSql [] Connection.commit
  rollback := sending rollbackSql [] Connection.rollback
  warn text r := { r with inner := Connection.warn text r.inner }

end Recording

variable {σ : Type} [Connection σ]

/-! ## What statements lead to -/

/-- The statements, with queries and warnings between them, lead from a connection to
another. -/
inductive Sends : σ → List Sent → σ → Prop
  | refl (s : σ) : Sends s [] s
  | execute {s t : σ} {sent : List Sent} (sql : String) (params : List Value)
      (h : Sends ((Connection.execute sql params).run s).2 sent t) :
      Sends s (⟨sql, params, ((Connection.execute sql params).run s).1.isOk⟩ :: sent) t
  | begin {s t : σ} {sent : List Sent} (h : Sends (Connection.begin.run s).2 sent t) :
      Sends s (⟨beginSql, [], (Connection.begin.run s).1.isOk⟩ :: sent) t
  | commit {s t : σ} {sent : List Sent} (h : Sends (Connection.commit.run s).2 sent t) :
      Sends s (⟨commitSql, [], (Connection.commit.run s).1.isOk⟩ :: sent) t
  | rollback {s t : σ} {sent : List Sent} (h : Sends (Connection.rollback.run s).2 sent t) :
      Sends s (⟨rollbackSql, [], (Connection.rollback.run s).1.isOk⟩ :: sent) t
  | query {s t : σ} {sent : List Sent} (sql : String) (params : List Value)
      (h : Sends ((Connection.query sql params).run s).2 sent t) : Sends s sent t
  | warn {s t : σ} {sent : List Sent} (text : String)
      (h : Sends (Connection.warn text s) sent t) : Sends s sent t

theorem Sends.trans {s t u : σ} {front rest : List Sent} (h : Sends s front t)
    (h' : Sends t rest u) : Sends s (front ++ rest) u := by
  induction h with
  | refl s => exact h'
  | execute sql params _ ih => exact .execute sql params (ih h')
  | begin _ ih => exact .begin (ih h')
  | commit _ ih => exact .commit (ih h')
  | rollback _ ih => exact .rollback (ih h')
  | query sql params _ ih => exact .query sql params (ih h')
  | warn text _ ih => exact .warn text (ih h')

/-- The log of a database in memory is what was sent to it. -/
theorem Sends.statements {db db' : Memory} {sent : List Sent} (h : Sends db sent db') :
    db'.statements = db.statements ++ sent.map (·.sql) := by
  have hexecute : ∀ (db : Memory) (sql : String) (params : List Value) (sent : List Sent)
      (accepted : Bool), (db.execute sql params).2.statements ++ sent.map (·.sql) =
        db.statements ++ (⟨sql, params, accepted⟩ :: sent).map Sent.sql := by
    intro db sql params sent accepted
    rw [(Schema.execute_log db sql params).1, List.append_assoc]
    rfl
  induction h with
  | refl db => exact (List.append_nil _).symm
  | execute sql params _ ih => exact ih.trans (hexecute _ sql params _ _)
  | begin _ ih => exact ih.trans (hexecute _ beginSql [] _ _)
  | commit _ ih => exact ih.trans (hexecute _ commitSql [] _ _)
  | rollback _ ih => exact ih.trans (hexecute _ rollbackSql [] _ _)
  | @query db _ sent sql params _ ih =>
    obtain ⟨held, hheld⟩ := Memory.query_frame db sql params
    have hlog : (db.query sql params).2.statements = db.statements := by rw [hheld]
    exact ih.trans (congrArg (· ++ sent.map (·.sql)) hlog)
  | warn text _ ih => exact ih

/-! ## Recorded work -/

section
variable {ε α β : Type}

/-- On a recording, `x` does what `y` does on the plain connection, and what it sends
leads to where `y` does and is as `P` says of the result. -/
def Records (P : Except ε α → List Sent → Prop) (x : ExceptT ε (StateM (Recording σ)) α)
    (y : ExceptT ε (StateM σ) α) : Prop :=
  ∀ r : Recording σ, ∃ sent,
    x.run r = ((y.run r.inner).1, ⟨(y.run r.inner).2, r.sent ++ sent⟩) ∧
      Sends r.inner sent (y.run r.inner).2 ∧ P (y.run r.inner).1 sent

namespace Records
variable {P Q : Except ε α → List Sent → Prop} {x : ExceptT ε (StateM (Recording σ)) α}
  {y : ExceptT ε (StateM σ) α}

theorem mono (h : Records P x y) (hPQ : ∀ a sent, P a sent → Q a sent) : Records Q x y := by
  intro r
  obtain ⟨sent, hrun, hleads, hsent⟩ := h r
  exact ⟨sent, hrun, hleads, hPQ _ _ hsent⟩

/-- What is known of every result is known of what is recorded. -/
theorem and_result {R : Except ε α → Prop} (h : Records P x y) (hR : ∀ s, R (y.run s).1) :
    Records (fun a sent => P a sent ∧ R a) x y := by
  intro r
  obtain ⟨sent, hrun, hleads, hsent⟩ := h r
  exact ⟨sent, hrun, hleads, hsent, hR r.inner⟩

protected theorem pure {a : α} (h : P (.ok a) []) :
    Records P (pure a : ExceptT ε (StateM (Recording σ)) α) (pure a) :=
  fun r => ⟨[], by rw [List.append_nil]; rfl, .refl _, h⟩

protected theorem throw {e : ε} (h : P (.error e) []) :
    Records P (throw e : ExceptT ε (StateM (Recording σ)) α) (throw e) :=
  fun r => ⟨[], by rw [List.append_nil]; rfl, .refl _, h⟩

/-- Work goes on behind what was sent, unless it failed. -/
protected theorem bind {R : Except ε β → List Sent → Prop}
    {f : α → ExceptT ε (StateM (Recording σ)) β} {g : α → ExceptT ε (StateM σ) β}
    (hx : Records P x y) (hfailed : ∀ e sent, P (.error e) sent → R (.error e) sent)
    (hf : ∀ a front, P (.ok a) front → Records (fun b sent => R b (front ++ sent)) (f a) (g a)) :
    Records R (x >>= f) (y >>= g) := by
  intro r
  obtain ⟨front, hrun, hleads, hfront⟩ := hx r
  have hleft : (x >>= f).run r = ExceptT.bindCont f (x.run r).1 (x.run r).2 := rfl
  have hright : (y >>= g).run r.inner =
    ExceptT.bindCont g (y.run r.inner).1 (y.run r.inner).2 := rfl
  rw [hleft, hright, hrun]
  generalize y.run r.inner = p at hleads hfront
  obtain ⟨e | a, s⟩ := p
  · exact ⟨front, rfl, hleads, hfailed e front hfront⟩
  · obtain ⟨sent, hrun', hleads', hsent⟩ := hf a front hfront ⟨s, r.sent ++ front⟩
    refine ⟨front ++ sent, ?_, hleads.trans hleads', hsent⟩
    rw [← List.append_assoc]
    exact hrun'

end Records

theorem records_execute (sql : String) (params : List Value)
    {P : Except Error Nat → List Sent → Prop}
    (h : ∀ s : σ, P ((Connection.execute sql params).run s).1
      [⟨sql, params, ((Connection.execute sql params).run s).1.isOk⟩]) :
    Records P (Connection.execute sql params : Action (Recording σ) Nat)
      (Connection.execute sql params) :=
  fun r => ⟨_, rfl, .execute sql params (.refl _), h r.inner⟩

theorem records_query (sql : String) (params : List Value) :
    Records (fun _ sent => sent = [])
      (Connection.query sql params : Action (Recording σ) (List Row))
      (Connection.query sql params) :=
  fun r => ⟨[], by rw [List.append_nil]; rfl, .query sql params (.refl _), rfl⟩

theorem records_queryOne (sql : String) (params : List Value) :
    Records (fun _ sent => sent = []) (queryOne sql params : Action (Recording σ) (Option Row))
      (queryOne sql params) := by
  refine (records_query sql params).bind (fun _ _ h => h) ?_
  rintro rows _ rfl
  exact .pure rfl

end

/-! ## Connections that check no definition -/

/-- The result is not that a definition is at fault. -/
def FaultFree {α : Type} (r : Except Error α) : Prop := ∀ f, r ≠ .error (.invalid f)

/-- A connection that refuses no statement for the fault of a definition. -/
class ChecksNoDefinition (σ : Type) [Connection σ] : Prop where
  execute_faultFree : ∀ (sql : String) (params : List Value) (s : σ),
    FaultFree ((Connection.execute sql params).run s).1

section
variable {α β : Type}

theorem faultFree_ok (a : α) : FaultFree (.ok a) := by
  rintro f ⟨⟩

/-- A failure is what it is, whatever was to be computed. -/
theorem FaultFree.error {e : Error} (h : FaultFree (.error e : Except Error α)) :
    FaultFree (.error e : Except Error β) :=
  fun f he => h f (congrArg Except.error (Except.error.inj he))

theorem faultFree_map {r : Except Error α} (h : FaultFree r) (f : α → β) :
    FaultFree (r.map f) := by
  cases r with
  | ok a => exact faultFree_ok (f a)
  | error e => exact h.error

end

theorem SchemaChange.faultFree_read (sql : List Char) : FaultFree (SchemaChange.read sql) := by
  have hcreate : ∀ ifMissing rest, FaultFree (readCreate sql ifMissing rest) := by
    intro ifMissing rest
    rw [readCreate]
    split <;> rintro f ⟨⟩
  have hdrop : ∀ rest, FaultFree (tableAt rest) := by
    intro rest
    rw [tableAt]
    split <;> rintro f ⟨⟩
  have hrename : ∀ rest, FaultFree (readRename sql rest) := by
    intro rest
    rw [readRename]
    split
    · rintro f ⟨⟩
    · split <;> rintro f ⟨⟩
  have halter : ∀ rest, FaultFree (readAlter sql rest) := by
    intro rest
    rw [readAlter]
    split <;> rintro f ⟨⟩
  rw [SchemaChange.read]
  split
  · exact hcreate true _
  split
  · exact hcreate false _
  split
  · exact faultFree_map (hdrop _) _
  split
  · exact faultFree_map (hdrop _) _
  split
  · exact hrename _
  split
  · exact halter _
  · exact faultFree_ok _

theorem Command.faultFree_of_read {ledger sql : String} {change : Except Error SchemaChange}
    (h : Command.read ledger sql = .change change) : FaultFree change := by
  rw [Command.read] at h
  repeat (split at h; · cases h)
  split at h
  · obtain rfl := Command.change.inj h
    exact SchemaChange.faultFree_read _
  · cases h

namespace Memory

theorem faultFree_changeSchema (db : Memory) (c : SchemaChange) :
    FaultFree (db.changeSchema c).1 := by
  cases c with
  | create ifMissing table columns =>
    rw [changeSchema]
    split
    · cases ifMissing <;> rintro f ⟨⟩
    · rintro f ⟨⟩
  | drop ifPresent table =>
    rw [changeSchema]
    split <;> rintro f ⟨⟩
  | rename old new =>
    rw [changeSchema]
    split <;> rintro f ⟨⟩
  | alter table changes =>
    rw [changeSchema]
    split <;> rintro f ⟨⟩
  | other => rintro f ⟨⟩

theorem faultFree_withLedger {α : Type} (db : Memory) {act : Except Error α × Memory}
    (h : FaultFree act.1) : FaultFree (db.withLedger act).1 := by
  rw [withLedger]
  split
  · exact h
  · rintro f ⟨⟩

theorem faultFree_record (db : Memory) (ifAbsent : Bool) (params : List Value) :
    FaultFree (db.record ifAbsent params).1 := by
  rw [record]
  split
  · rintro f ⟨⟩
  · dsimp only
    split
    · cases ifAbsent <;> rintro f ⟨⟩
    · rintro f ⟨⟩

theorem faultFree_perform (db : Memory) (params : List Value) {c : Command}
    (hc : ∀ change, c = .change change → FaultFree change) :
    FaultFree (db.perform params c).1 := by
  cases c with
  | begin | commit | other => rintro f ⟨⟩
  | rollback =>
    rw [perform]
    split <;> rintro f ⟨⟩
  | record ifAbsent => exact faultFree_withLedger db (faultFree_record db ifAbsent params)
  | remove => exact faultFree_withLedger db (faultFree_ok _)
  | change r =>
    cases r with
    | error e => exact (hc _ rfl).error
    | ok change => exact faultFree_map (faultFree_changeSchema _ change) _

instance : ChecksNoDefinition Memory where
  execute_faultFree sql params db := by
    show FaultFree (db.execute sql params).1
    rw [execute_eq]
    split
    · rintro f ⟨⟩
    · exact faultFree_perform _ params fun _ hread => Command.faultFree_of_read hread

end Memory

instance {σ : Type} [Connection σ] [ChecksNoDefinition σ] :
    ChecksNoDefinition (Transaction σ) where
  execute_faultFree sql params := by
    rintro ⟨s, _ | _⟩
    · exact ChecksNoDefinition.execute_faultFree sql params s
    · rintro f ⟨⟩

instance {σ : Type} [Connection σ] : ChecksNoDefinition (Rehearsal σ) where
  execute_faultFree _ _ _ := faultFree_ok 0

end SchemaMigration.Database

namespace SchemaMigration.Schema

open Sql Table Database

/-! ## What the definition of a table sends -/

/-- The statement as it is sent, accepted or not. -/
def sentText (accepted : Bool) (sql : String) : Sent := ⟨sql, [], accepted⟩

/-- Statements sent in order: all of them were accepted, or the first that was refused
is the last that was sent. -/
def SentInOrder (sqls : List String) (result : Except Error Unit) (sent : List Sent) : Prop :=
  (result = .ok () ∧ sent = sqls.map (sentText true)) ∨
    ∃ front sql rest e, sqls = front ++ sql :: rest ∧ result = .error e ∧
      sent = front.map (sentText true) ++ [sentText false sql]

theorem SentInOrder.cons {sql : String} {sqls : List String} {result : Except Error Unit}
    {sent : List Sent} (h : SentInOrder sqls result sent) :
    SentInOrder (sql :: sqls) result (sentText true sql :: sent) := by
  rcases h with ⟨rfl, rfl⟩ | ⟨front, refused, rest, e, rfl, rfl, rfl⟩
  · exact .inl ⟨rfl, rfl⟩
  · exact .inr ⟨sql :: front, refused, rest, e, rfl, rfl, rfl⟩

/-- The statements of an alteration: one for each column, then one for each index, then
one for each foreign key. -/
def alterationTexts (b : Blueprint) : List String :=
  b.columns.map b.addColumnText ++
    (b.indexes.map Index.sql ++ b.foreignKeys.map ForeignKey.sql).map (addKeySql b.table)

theorem alterationSql_eq (b : Blueprint) :
    alterationSql b = b.check.map fun _ => alterationTexts b := by
  rw [alterationSql, Blueprint.alterStatements]
  cases b.check <;> rfl

section
variable {σ : Type} [Connection σ] [ChecksNoDefinition σ]

theorem records_statement (sql : String) :
    Records (fun result sent => FaultFree result ∧ sent = [sentText result.isOk sql])
      (statement sql : Action (Recording σ) Unit) (statement sql) := by
  have hexecute : Records
      (fun result sent => FaultFree result ∧ sent = [sentText result.isOk sql])
      (Connection.execute sql [] : Action (Recording σ) Nat) (Connection.execute sql []) :=
    records_execute sql [] fun s => ⟨ChecksNoDefinition.execute_faultFree sql [] s, rfl⟩
  refine hexecute.bind ?_ ?_
  · rintro e _ ⟨hfree, rfl⟩
    exact ⟨hfree.error, rfl⟩
  · rintro n _ ⟨-, rfl⟩
    exact .pure ⟨faultFree_ok (), rfl⟩

/-- Statements are sent one by one, up to the first that is refused. -/
theorem records_forM (sqls : List String) :
    Records (fun result sent => FaultFree result ∧ SentInOrder sqls result sent)
      (sqls.forM statement : Action (Recording σ) Unit) (sqls.forM statement) := by
  induction sqls with
  | nil => exact .pure ⟨faultFree_ok (), .inl ⟨rfl, rfl⟩⟩
  | cons sql sqls ih =>
    refine (records_statement sql).bind ?_ ?_
    · rintro e _ ⟨hfree, rfl⟩
      exact ⟨hfree, .inr ⟨[], sql, sqls, e, rfl, rfl, rfl⟩⟩
    · rintro ⟨⟩ _ ⟨-, rfl⟩
      exact ih.mono fun result sent h => ⟨h.1, h.2.cons⟩

/-- A blueprint that is at fault sends nothing; one that passes its checks is not refused
for a fault later, and its alteration sends what the blueprint alone determines. -/
theorem definitions_checked_first (b : Blueprint) :
    Records (fun result sent => ∀ f, result = .error (.invalid f) → sent = [])
      (createTable b : Action (Recording σ) Unit) (createTable b) ∧
    Records (fun result sent => (∀ f, result = .error (.invalid f) → sent = []) ∧
        (b.check = .ok () → FaultFree result ∧ SentInOrder (alterationTexts b) result sent))
      (alterTable b : Action (Recording σ) Unit) (alterTable b) := by
  constructor
  · rw [createTable, createTable]
    cases b.createStatement with
    | error f => exact .throw fun _ _ => rfl
    | ok sql => exact (records_statement sql).mono fun _ _ h f hf => absurd hf (h.1 f)
  · rw [alterTable_eq, alterTable_eq, alterationSql_eq]
    cases b.check with
    | error f => exact .throw ⟨fun _ _ => rfl, fun hok => by cases hok⟩
    | ok _ =>
      refine (records_forM (alterationTexts b)).mono fun result sent h => ?_
      exact ⟨fun f hf => absurd hf (h.1 f), fun _ => h⟩

end

/-- Two columns and an index for a table. -/
def indexedColumns : Blueprint :=
  Blueprint.ofDeclarations "t"
    [.column "a" .integer, .column "b" .text, .index none ["a"]]

/-- A database that refuses what names the second column. -/
def refusing : Memory := (Memory.empty "migrations").failOn "`b`"

theorem definitions_checked_first_refused :
    indexedColumns.check = .ok () ∧
    SentInOrder
      ["ALTER TABLE `t` ADD COLUMN `a` INT NOT NULL",
       "ALTER TABLE `t` ADD COLUMN `b` TEXT NOT NULL",
       "ALTER TABLE `t` ADD KEY `t_a_index` (`a`)"]
      ((alterTable indexedColumns).run (Recording.mk refusing [])).1
      ((alterTable indexedColumns).run (Recording.mk refusing [])).2.sent := by
  have hcheck : indexedColumns.check = .ok () := rfl
  have htexts : alterationTexts indexedColumns =
    ["ALTER TABLE `t` ADD COLUMN `a` INT NOT NULL",
     "ALTER TABLE `t` ADD COLUMN `b` TEXT NOT NULL",
     "ALTER TABLE `t` ADD KEY `t_a_index` (`a`)"] := by decide +kernel
  obtain ⟨sent, hrun, -, -, hsent⟩ := (definitions_checked_first indexedColumns).2 (.mk refusing [])
  refine ⟨hcheck, ?_⟩
  rw [← htexts, hrun]
  exact (hsent hcheck).2

end SchemaMigration.Schema
