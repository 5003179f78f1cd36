import SchemaMigration.Database.Transaction
import SchemaMigration.Proofs.CatalogAnswers
import SchemaMigration.Schema.Operation

/-
  Scripts on two connections.

  `Simulates R x y`: from related connections the actions `x` and `y` give the same
  result and related connections. It is closed under all that gateway calls are made
  of. A migration made of gateway calls can send a statement or ask one of four
  queries, so a relation that these keep is kept by every script. The statements are
  those that a script gives as they are, and those that begin like a gateway call's.

  Main statements: `runAll_simulates_within` for scripts whose statements are among
  given ones, `runAll_simulates` for all, `runAll_preserves` for one connection and an
  invariant in place of a relation, and `KeepsSending.onOpen`, which lifts them to
  transactions.
-/
namespace SchemaMigration.Schema

open Sql Table Database Catalog

section
variable {σ τ α β : Type}

/-- From related connections both actions give the same result and related
connections. -/
def Simulates (R : σ → τ → Prop) (x : Action σ α) (y : Action τ α) : Prop :=
  ∀ s t, R s t → (x.run s).1 = (y.run t).1 ∧ R (x.run s).2 (y.run t).2

namespace Simulates
variable {R : σ → τ → Prop}

protected theorem pure (a : α) : Simulates R (pure a) (pure a) := fun _ _ h => ⟨rfl, h⟩

protected theorem throw (e : Error) :
    Simulates R (throw e : Action σ α) (throw e) := fun _ _ h => ⟨rfl, h⟩

protected theorem bind {x : Action σ α} {y : Action τ α} {f : α → Action σ β} {g : α → Action τ β}
    (hx : Simulates R x y) (hf : ∀ a, Simulates R (f a) (g a)) :
    Simulates R (x >>= f) (y >>= g) := by
  intro s t hst
  obtain ⟨hresult, hstate⟩ := hx s t hst
  rw [Action.run_bind, Action.run_bind]
  generalize hxs : x.run s = p at hresult hstate
  generalize hyt : y.run t = q at hresult hstate
  obtain ⟨r, s'⟩ := p
  obtain ⟨r', t'⟩ := q
  obtain rfl : r = r' := hresult
  cases r with
  | error e => exact ⟨rfl, hstate⟩
  | ok a => exact hf a s' t' hstate

protected theorem tryCatch {x : Action σ α} {y : Action τ α} {f : Error → Action σ α}
    {g : Error → Action τ α} (hx : Simulates R x y) (hf : ∀ e, Simulates R (f e) (g e)) :
    Simulates R (tryCatch x f) (tryCatch y g) := by
  intro s t hst
  obtain ⟨hresult, hstate⟩ := hx s t hst
  rw [Action.run_tryCatch, Action.run_tryCatch]
  generalize hxs : x.run s = p at hresult hstate
  generalize hyt : y.run t = q at hresult hstate
  obtain ⟨r, s'⟩ := p
  obtain ⟨r', t'⟩ := q
  obtain rfl : r = r' := hresult
  cases r with
  | error e => exact hf e s' t' hstate
  | ok a => exact ⟨rfl, hstate⟩

protected theorem ite {c : Prop} [Decidable c] {x x' : Action σ α} {y y' : Action τ α}
    (h : c → Simulates R x y) (h' : ¬c → Simulates R x' y') :
    Simulates R (if c then x else x') (if c then y else y') := by
  by_cases hc : c
  · rw [if_pos hc, if_pos hc]
    exact h hc
  · rw [if_neg hc, if_neg hc]
    exact h' hc

protected theorem forM {l : List β} {f : β → Action σ Unit} {g : β → Action τ Unit}
    (h : ∀ b ∈ l, Simulates R (f b) (g b)) : Simulates R (l.forM f) (l.forM g) := by
  induction l with
  | nil => exact .pure ()
  | cons b l ih =>
    obtain ⟨hb, hl⟩ := List.forall_mem_cons.1 h
    exact hb.bind fun _ => ih hl

/-- What passed a check is one of the values that pass it. -/
protected theorem checked {r : Except Fault α} {f : α → Action σ β} {g : α → Action τ β}
    (h : ∀ a, r = .ok a → Simulates R (f a) (g a)) :
    Simulates R (checked r >>= f) (checked r >>= g) := by
  cases r with
  | ok a => exact h a rfl
  | error f => exact .throw _

protected theorem done {x : Action σ Unit} {y : Action τ Unit} (h : Simulates R x y) :
    Simulates R (done x) (done y) := h.bind fun _ => .pure _

end Simulates

/-- The action keeps an invariant, whatever its result. -/
def Preserves (I : σ → Prop) (x : Action σ α) : Prop := ∀ s, I s → I (x.run s).2

theorem Preserves.simulates {I : σ → Prop} {x : Action σ α} (h : Preserves I x) :
    Simulates (fun s t => s = t ∧ I s) x x := by
  rintro s t ⟨rfl, hs⟩
  exact ⟨rfl, rfl, h s hs⟩

/-- Both transactions are open, and their connections are related. -/
def OnOpen (R : σ → τ → Prop) (t : Transaction σ) (u : Transaction τ) : Prop :=
  t.closed = false ∧ u.closed = false ∧ R t.inner u.inner

theorem Simulates.whileOpen {R : σ → τ → Prop} {x : Action σ α} {y : Action τ α}
    (h : Simulates R x y) :
    Simulates (OnOpen R) (Transaction.whileOpen x) (Transaction.whileOpen y) := by
  rintro ⟨s, _⟩ ⟨t, _⟩ ⟨rfl, rfl, hst⟩
  exact ⟨(h s t hst).1, rfl, rfl, (h s t hst).2⟩

theorem Preserves.whileOpen {I : σ → Prop} {x : Action σ α} (h : Preserves I x) :
    Preserves (fun t : Transaction σ => t.closed = false ∧ I t.inner) (Transaction.whileOpen x) := by
  rintro ⟨s, _⟩ ⟨rfl, hs⟩
  exact ⟨rfl, h s hs⟩

end

/-! ## Gateway calls -/

mutual

/-- Whether an operation is a gateway call, a failure, or made of such. -/
def Operation.isGateway : Operation → Bool
  | .execute _ _ | .query _ _ | .queryOne _ _ | .begin | .commit | .rollback => false
  | .attempt ops => allGateway ops
  | .ifHasTable _ present absent | .ifHasColumn _ _ present absent =>
    allGateway present && allGateway absent
  | _ => true

/-- Whether a script consists of gateway calls. -/
def allGateway : List Operation → Bool
  | [] => true
  | op :: rest => op.isGateway && allGateway rest

end

mutual

/-- The statements that an operation sends as they are given to it. -/
def Operation.givenTexts : Operation → List String
  | .statement sql => [sql]
  | .attempt ops => givenTextsAll ops
  | .ifHasTable _ present absent | .ifHasColumn _ _ present absent =>
    givenTextsAll present ++ givenTextsAll absent
  | _ => []

/-- The statements that a script sends as they are given to it. -/
def givenTextsAll : List Operation → List String
  | [] => []
  | op :: rest => op.givenTexts ++ givenTextsAll rest

end

/-- How the statements begin that gateway calls make up. -/
def gatewayStarts : List String :=
  ["CREATE TABLE ", "ALTER TABLE ", "DROP TABLE ", "RENAME TABLE ", "SET FOREIGN_KEY_CHECKS="]

/-- The statement begins like one that a gateway call makes up. -/
def GatewayText (sql : String) : Prop := ∃ start ∈ gatewayStarts, Begins start sql

namespace GatewayText

theorem append {sql : String} (h : GatewayText sql) (rest : String) : GatewayText (sql ++ rest) := by
  obtain ⟨start, hstart, hbegins⟩ := h
  exact ⟨start, hstart, hbegins.append rest⟩

theorem create (rest : String) : GatewayText ("CREATE TABLE " ++ rest) :=
  ⟨_, by decide, begins_append _ rest⟩

theorem alter (rest : String) : GatewayText ("ALTER TABLE " ++ rest) :=
  ⟨_, by decide, begins_append _ rest⟩

theorem alterBy (table words rest : String) :
    GatewayText ("ALTER TABLE " ++ table ++ words ++ rest) :=
  ((alter table).append words).append rest

theorem drop (rest : String) : GatewayText ("DROP TABLE " ++ rest) :=
  ⟨_, by decide, begins_append _ rest⟩

theorem dropIfExists (rest : String) : GatewayText ("DROP TABLE IF EXISTS " ++ rest) := by
  have hwords : Begins "DROP TABLE " "DROP TABLE IF EXISTS " := begins_append _ "IF EXISTS "
  exact ⟨_, by decide, hwords.append rest⟩

theorem rename (old new : String) :
    GatewayText ("RENAME TABLE " ++ old ++ " TO " ++ new) :=
  ⟨_, by decide, ((begins_append _ old).append _).append new⟩

theorem checks (rest : String) : GatewayText ("SET FOREIGN_KEY_CHECKS=" ++ rest) :=
  ⟨_, by decide, begins_append _ rest⟩

theorem createStatement {b : Blueprint} {sql : String} (h : b.createStatement = .ok sql) :
    GatewayText sql := by
  rw [Blueprint.createStatement] at h
  cases hcheck : b.check with
  | error f =>
    rw [hcheck] at h
    cases h
  | ok _ =>
    rw [hcheck] at h
    change (if b.columns = [] then _ else Except.ok b.createText) = _ at h
    split at h
    · cases h
    · obtain rfl := Except.ok.inj h
      unfold Blueprint.createText
      iterate 9 apply append
      exact create _

theorem alterStatements {b : Blueprint} {sqls : List String} (h : b.alterStatements = .ok sqls) :
    ∀ sql ∈ sqls, GatewayText sql := by
  rw [Blueprint.alterStatements] at h
  cases hcheck : b.check with
  | error f =>
    rw [hcheck] at h
    cases h
  | ok _ =>
    rw [hcheck] at h
    obtain rfl := Except.ok.inj h
    intro sql hsql
    obtain ⟨c, -, rfl⟩ := List.mem_map.1 hsql
    unfold Blueprint.addColumnText
    iterate 4 apply append
    exact alter _

end GatewayText

variable {σ τ : Type} [Connection σ] [Connection τ]

/-- What gateway calls ask keeps connections related. -/
structure KeepsAsking (R : σ → τ → Prop) : Prop where
  askTable : ∀ table, Simulates R (Connection.query hasTableSql [.text table])
    (Connection.query hasTableSql [.text table])
  askColumn : ∀ table column, Simulates R (Connection.query hasColumnSql [.text table, .text column])
    (Connection.query hasColumnSql [.text table, .text column])
  askTables : Simulates R (Connection.query listTablesSql []) (Connection.query listTablesSql [])
  askColumns : ∀ table, Simulates R (Connection.query (columnsSql table) [])
    (Connection.query (columnsSql table) [])

/-- What gateway calls ask, and those of given statements that they send, keep connections
related. -/
structure KeepsSending (May : String → Prop) (R : σ → τ → Prop) : Prop
    extends KeepsAsking R where
  statement : ∀ sql, May sql → Simulates R (statement sql) (statement sql)

/-- What gateway calls send and ask keeps connections related. -/
structure KeepsGateway (R : σ → τ → Prop) : Prop extends KeepsAsking R where
  statement : ∀ sql, Simulates R (statement sql) (statement sql)

theorem KeepsGateway.sending {R : σ → τ → Prop} (h : KeepsGateway R) :
    KeepsSending (fun _ => True) R := ⟨h.toKeepsAsking, fun sql _ => h.statement sql⟩

namespace KeepsAsking
variable {R : σ → τ → Prop} (h : KeepsAsking R)
include h

theorem hasTable (table : String) : Simulates R (hasTable table) (hasTable table) :=
  ((h.askTable table).bind fun _ => .pure _).bind fun _ => .pure _

theorem hasColumn (table column : String) :
    Simulates R (hasColumn table column) (hasColumn table column) :=
  ((h.askColumn table column).bind fun _ => .pure _).bind fun _ => .pure _

theorem tables : Simulates R tables tables := h.askTables.bind fun _ => .pure _

end KeepsAsking

namespace KeepsSending
variable {May : String → Prop} {R : σ → τ → Prop} (h : KeepsSending May R)
  (hgateway : ∀ sql, GatewayText sql → May sql)
include h hgateway

theorem gatewayStatement {sql : String} (hsql : GatewayText sql) :
    Simulates R (Database.statement sql) (Database.statement sql) :=
  h.statement sql (hgateway sql hsql)

theorem createTable (b : Blueprint) : Simulates R (createTable b) (createTable b) :=
  .checked fun _ hsql => h.gatewayStatement hgateway (.createStatement hsql)

theorem addIndex (table : String) (i : Index) :
    Simulates R (addIndex table i) (addIndex table i) :=
  .ite (fun _ => .throw _) fun _ => h.gatewayStatement hgateway (.alterBy _ _ _)

theorem addForeignKey (table : String) (fk : ForeignKey) :
    Simulates R (addForeignKey table fk) (addForeignKey table fk) :=
  .ite (fun _ => .throw _) fun _ => h.gatewayStatement hgateway (.alterBy _ _ _)

theorem alterTable (b : Blueprint) : Simulates R (alterTable b) (alterTable b) := by
  refine .checked fun columns hcolumns => ?_
  have hsent : ∀ sql ∈ columns, Simulates R (Database.statement sql) (Database.statement sql) :=
    fun sql hsql => h.gatewayStatement hgateway (GatewayText.alterStatements hcolumns sql hsql)
  refine (Simulates.forM hsent).bind fun _ => ?_
  exact (Simulates.forM fun i _ => h.addIndex hgateway b.table i).bind fun _ =>
    .forM fun fk _ => h.addForeignKey hgateway b.table fk

theorem dropColumns (table : String) (columns : List String) :
    Simulates R (dropColumns table columns) (dropColumns table columns) :=
  .ite (fun _ => .pure ()) fun _ => h.gatewayStatement hgateway (.alterBy _ _ _)

theorem renameColumn (table old new : String) :
    Simulates R (renameColumn table old new) (renameColumn table old new) := by
  refine (h.askColumns table).bind fun rows => ?_
  split
  · refine h.gatewayStatement hgateway ?_
    unfold renameColumnSql
    iterate 4 apply GatewayText.append
    exact .alterBy _ _ _
  · exact .throw _

end KeepsSending

section
variable {May : String → Prop} {R : σ → τ → Prop}

mutual

theorem Operation.run_simulates (h : KeepsSending May R)
    (hgateway : ∀ sql, GatewayText sql → May sql) (op : Operation) (hop : op.isGateway = true)
    (hgiven : ∀ sql ∈ op.givenTexts, May sql) :
    Simulates R (op.run : Action σ Outcome) op.run := by
  cases op with
  | create table ds =>
    rw [Operation.run, Operation.run]
    exact (h.createTable hgateway _).done
  | alter table ds =>
    rw [Operation.run, Operation.run]
    exact (h.alterTable hgateway _).done
  | drop table =>
    rw [Operation.run, Operation.run]
    exact (h.gatewayStatement hgateway (.drop _)).done
  | dropIfExists table =>
    rw [Operation.run, Operation.run]
    exact (h.gatewayStatement hgateway (.dropIfExists _)).done
  | rename old new =>
    rw [Operation.run, Operation.run]
    exact (h.gatewayStatement hgateway (.rename _ _)).done
  | dropIndex table name =>
    rw [Operation.run, Operation.run]
    exact (h.gatewayStatement hgateway ((GatewayText.alter _).append _)).done
  | dropForeignKey table name =>
    rw [Operation.run, Operation.run]
    exact (h.gatewayStatement hgateway (.alterBy _ _ _)).done
  | disableForeignKeyChecks =>
    rw [Operation.run, Operation.run]
    exact (h.gatewayStatement hgateway (.checks "0")).done
  | enableForeignKeyChecks =>
    rw [Operation.run, Operation.run]
    exact (h.gatewayStatement hgateway (.checks "1")).done
  | statement sql =>
    rw [Operation.run, Operation.run]
    rw [Operation.givenTexts, List.forall_mem_singleton] at hgiven
    exact (h.statement sql hgiven).done
  | hasTable table =>
    rw [Operation.run, Operation.run]
    exact (h.hasTable table).bind fun _ => .pure _
  | hasColumn table column =>
    rw [Operation.run, Operation.run]
    exact (h.hasColumn table column).bind fun _ => .pure _
  | dropColumns table columns =>
    rw [Operation.run, Operation.run]
    exact (h.dropColumns hgateway table columns).done
  | renameColumn table old new =>
    rw [Operation.run, Operation.run]
    exact (h.renameColumn hgateway table old new).done
  | tables =>
    rw [Operation.run, Operation.run]
    exact h.tables.bind fun _ => .pure _
  | columns table =>
    rw [Operation.run, Operation.run]
    exact (h.askColumns table).bind fun _ => .pure _
  | addIndex table i =>
    rw [Operation.run, Operation.run]
    exact (h.addIndex hgateway table i).done
  | addForeignKey table fk =>
    rw [Operation.run, Operation.run]
    exact (h.addForeignKey hgateway table fk).done
  -- These are no calls of the gateway.
  | execute sql params | query sql params | queryOne sql params | begin | commit | rollback =>
    exact absurd hop Bool.false_ne_true
  | fail e =>
    rw [Operation.run, Operation.run]
    exact .throw e
  | attempt ops =>
    rw [Operation.run, Operation.run]
    rw [Operation.isGateway] at hop
    -- Operations inside another are simulated by the induction over lists of them.
    rw [Operation.givenTexts] at hgiven
    exact (runEach_simulates h hgateway ops hop hgiven).bind fun _ => .pure _
  | ifHasTable table present absent =>
    rw [Operation.run, Operation.run]
    rw [Operation.isGateway, Bool.and_eq_true] at hop
    rw [Operation.givenTexts, List.forall_mem_append] at hgiven
    refine (h.hasTable table).bind fun b => .ite (fun _ => ?_) fun _ => ?_
    · exact (runAll_simulates_within h hgateway present hop.1 hgiven.1).bind fun _ => .pure _
    · exact (runAll_simulates_within h hgateway absent hop.2 hgiven.2).bind fun _ => .pure _
  | ifHasColumn table column present absent =>
    rw [Operation.run, Operation.run]
    rw [Operation.isGateway, Bool.and_eq_true] at hop
    rw [Operation.givenTexts, List.forall_mem_append] at hgiven
    refine (h.hasColumn table column).bind fun b => .ite (fun _ => ?_) fun _ => ?_
    · exact (runAll_simulates_within h hgateway present hop.1 hgiven.1).bind fun _ => .pure _
    · exact (runAll_simulates_within h hgateway absent hop.2 hgiven.2).bind fun _ => .pure _

/-- Scripts of gateway calls whose statements are among given ones have the same result on
related connections, and keep them related. -/
theorem runAll_simulates_within (h : KeepsSending May R)
    (hgateway : ∀ sql, GatewayText sql → May sql) (ops : List Operation)
    (hops : allGateway ops = true) (hgiven : ∀ sql ∈ givenTextsAll ops, May sql) :
    Simulates R (runAll ops : Action σ _) (runAll ops) := by
  cases ops with
  | nil =>
    rw [runAll, runAll]
    exact .pure _
  | cons op rest =>
    rw [allGateway, Bool.and_eq_true] at hops
    rw [givenTextsAll, List.forall_mem_append] at hgiven
    rw [runAll, runAll]
    refine (Operation.run_simulates h hgateway op hops.1 hgiven.1).bind fun _ => ?_
    exact (runAll_simulates_within h hgateway rest hops.2 hgiven.2).bind fun _ => .pure _

theorem runEach_simulates (h : KeepsSending May R)
    (hgateway : ∀ sql, GatewayText sql → May sql) (ops : List Operation)
    (hops : allGateway ops = true) (hgiven : ∀ sql ∈ givenTextsAll ops, May sql) :
    Simulates R (runEach ops : Action σ _) (runEach ops) := by
  cases ops with
  | nil =>
    rw [runEach, runEach]
    exact .pure _
  | cons op rest =>
    rw [allGateway, Bool.and_eq_true] at hops
    rw [givenTextsAll, List.forall_mem_append] at hgiven
    rw [runEach, runEach]
    have hop := Operation.run_simulates h hgateway op hops.1 hgiven.1
    refine (hop.tryCatch fun e => .pure _).bind fun _ => ?_
    exact (runEach_simulates h hgateway rest hops.2 hgiven.2).bind fun _ => .pure _

end

end

/-- Scripts of gateway calls give the same result on related connections, and keep them
related. -/
theorem runAll_simulates {R : σ → τ → Prop} (h : KeepsGateway R) (ops : List Operation)
    (hops : allGateway ops = true) : Simulates R (runAll ops : Action σ _) (runAll ops) :=
  runAll_simulates_within h.sending (fun _ _ => trivial) ops hops fun _ _ => trivial

/-- Scripts of gateway calls keep what statements without parameters and queries keep. -/
theorem runAll_preserves {I : σ → Prop} (hstatement : ∀ sql, Preserves I (statement sql))
    (hquery : ∀ sql params, Preserves I (Connection.query sql params)) {ops : List Operation}
    (hops : allGateway ops = true) : Preserves I (runAll ops) := by
  intro s hs
  have hkeeps : KeepsGateway fun s t : σ => s = t ∧ I s :=
    ⟨⟨fun _ => (hquery _ _).simulates, fun _ _ => (hquery _ _).simulates,
      (hquery _ _).simulates, fun _ => (hquery _ _).simulates⟩,
      fun sql => (hstatement sql).simulates⟩
  exact (runAll_simulates hkeeps ops hops s s ⟨rfl, hs⟩).2.2

/-! ## Transactions -/

/-- A statement whose count does not matter passes through an open transaction. -/
theorem discard_eq_whileOpen (sql : String) (params : List Value) :
    (do let _ ← Connection.execute sql params : Action (Transaction σ) Unit) =
      Transaction.whileOpen (do let _ ← Connection.execute sql params) := by
  funext t
  obtain ⟨s, closed⟩ := t
  have hopen := Action.run_discard (Connection.execute sql params : Action (Transaction σ) Nat)
  cases closed with
  | true => exact hopen ⟨s, true⟩
  | false =>
    refine (hopen ⟨s, false⟩).trans ?_
    have hinner := Action.run_discard (Connection.execute sql params : Action σ Nat) s
    show _ = (((do let _ ← Connection.execute sql params : Action σ Unit).run s).1,
      (⟨((do let _ ← Connection.execute sql params : Action σ Unit).run s).2, false⟩ : Transaction σ))
    rw [hinner]
    rfl

theorem statement_eq_whileOpen (sql : String) :
    (statement sql : Action (Transaction σ) Unit) = Transaction.whileOpen (statement sql) :=
  discard_eq_whileOpen sql []

theorem runAll_preserves_open {I : σ → Prop} (hstatement : ∀ sql, Preserves I (statement sql))
    (hquery : ∀ sql params, Preserves I (Connection.query sql params)) {ops : List Operation}
    (hops : allGateway ops = true) :
    Preserves (fun t : Transaction σ => t.closed = false ∧ I t.inner) (runAll ops) := by
  refine runAll_preserves (fun sql => ?_) (fun sql params => (hquery sql params).whileOpen) hops
  rw [statement_eq_whileOpen]
  exact (hstatement sql).whileOpen

theorem KeepsAsking.onOpen {R : σ → τ → Prop} (h : KeepsAsking R) : KeepsAsking (OnOpen R) where
  askTable table := (h.askTable table).whileOpen
  askColumn table column := (h.askColumn table column).whileOpen
  askTables := h.askTables.whileOpen
  askColumns table := (h.askColumns table).whileOpen

/-- What holds for scripts on connections holds for scripts in transactions on them. -/
theorem KeepsSending.onOpen {May : String → Prop} {R : σ → τ → Prop} (h : KeepsSending May R) :
    KeepsSending May (OnOpen R) where
  toKeepsAsking := h.toKeepsAsking.onOpen
  statement sql hsql := by
    rw [statement_eq_whileOpen, statement_eq_whileOpen]
    exact (h.statement sql hsql).whileOpen

theorem KeepsGateway.onOpen {R : σ → τ → Prop} (h : KeepsGateway R) : KeepsGateway (OnOpen R) where
  toKeepsAsking := h.toKeepsAsking.onOpen
  statement sql := h.sending.onOpen.statement sql trivial

end SchemaMigration.Schema
