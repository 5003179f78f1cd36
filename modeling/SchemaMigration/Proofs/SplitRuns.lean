import SchemaMigration.Proofs.RegistryOrder
import SchemaMigration.Proofs.SuccessfulRuns

/-
  A run in two parts.

  A run of some migrations and then a run of some more do what one run of all of them does,
  but for the batch: the second run makes sure of a ledger that is there, chooses what the
  first left waiting, and starts from tables, a catalog and rows that are those of the one
  run after its first part. From there the rows differ in their batches alone, and no script
  sees a batch.

  That the second run takes up where the first stopped needs that no file is listed twice. A
  registry has one migration for each identity, and a directory one file for each name.

  Main statement: `run_add`.
-/
namespace SchemaMigration.Migration

open Sql Database Schema
open Database.Memory

/-! ## Files that are listed once -/

theorem GatewayRegistry.named {r : Registry} (h : GatewayRegistry r) : r.Named := by
  induction h with
  | empty => exact Registry.named_empty
  | @register r r' file scripts _ _ _ hr ih =>
    have hafter := (ih.after_call file scripts).1
    rwa [hr] at hafter

theorem GatewayRegistry.nodup_filenames {r : Registry} (h : GatewayRegistry r) :
    r.filenames.Nodup :=
  h.named.pairwise_filenames.imp String.ne_of_lt

/-- A manager of migrations made of gateway calls, which are found in the registry, or in a
directory of a tree that has each location once. -/
structure FindsOnce (m : Manager) : Prop where
  registry : GatewayRegistry m.registry
  available : m.available = .ok m.registry.filenames ∨
    ∃ files directory, (files.nodes.map Prod.fst).Nodup ∧
      m.available = (discover files directory).map fun fs => fs.map (·.filename)

namespace FindsOnce
variable {m : Manager} (h : FindsOnce m)
include h

theorem ofGateway : OfGateway m := by
  refine ⟨h.registry, h.available.imp_right ?_⟩
  rintro ⟨files, directory, -, havailable⟩
  exact ⟨files, directory, havailable⟩

theorem nodup {files : List String} (hfiles : m.available = .ok files) : files.Nodup := by
  rcases h.available with havailable | ⟨tree, directory, htree, havailable⟩
  · obtain rfl := Except.ok.inj (hfiles.symm.trans havailable)
    exact h.registry.nodup_filenames
  · rw [hfiles] at havailable
    cases hdiscover : discover tree directory with
    | error e =>
      rw [hdiscover] at havailable
      cases havailable
    | ok found =>
      rw [hdiscover] at havailable
      obtain rfl := Except.ok.inj havailable
      exact nodup_discovered htree hdiscover

end FindsOnce

/-- Without the first elements the rest is left. -/
theorem filter_not_contains_take {l : List String} (h : l.Nodup) (n : Nat) :
    (l.filter fun x => !(l.take n).contains x) = l.drop n := by
  have hsplit := List.take_append_drop n l
  rw [← hsplit] at h
  obtain ⟨-, -, hdisjoint⟩ := List.nodup_append.1 h
  have hfront : ((l.take n).filter fun x => !(l.take n).contains x) = [] :=
    filter_not_contains_eq_nil fun _ => id
  have hback : ((l.drop n).filter fun x => !(l.take n).contains x) = l.drop n := by
    refine List.filter_eq_self.2 fun x hx => ?_
    rw [Bool.not_eq_true', Bool.eq_false_iff]
    exact fun hmem => hdisjoint x (List.contains_iff_mem.1 hmem) x hx rfl
  calc (l.filter fun x => !(l.take n).contains x)
      = (l.take n ++ l.drop n).filter fun x => !(l.take n).contains x := by rw [hsplit]
    _ = l.drop n := by rw [List.filter_append, hfront, hback, List.nil_append]

/-! ## The second part -/

section
variable {m : Manager} {db₀ start₁ mid₁ db₁ start₂ mid₂ : Memory} {a b : Nat}
  {names₁ names₂ : List String} {l₁ l₂ : List (String × Scripts)}
  (h₁ : Applied m (some a) names₁ l₁ db₀ start₁ mid₁)
  (hlocks : OnlyLocks mid₁ db₁) (h₂ : Applied m (some b) names₂ l₂ db₁ start₂ mid₂)
include h₁ hlocks h₂

/-- What the first part leaves waiting is chosen next. -/
theorem pending_add (hm : FindsOnce m) :
    m.pending (db₀.ledger.map entryOf) (some (a + b)) = .ok (names₁ ++ names₂) := by
  obtain ⟨available, havailable, hnames₁⟩ := h₁.names_eq
  obtain ⟨available', havailable', hnames₂⟩ := h₂.names_eq
  obtain rfl := Except.ok.inj (havailable.symm.trans havailable')
  have hdistinct : (waiting available db₀.ledger).Nodup :=
    (hm.nodup havailable).sublist List.filter_sublist
  have hleft : waiting available db₁.ledger = (waiting available db₀.ledger).drop a := by
    rw [hlocks.sameLedger.ledger, h₁.waiting_eq hm.ofGateway havailable, ← hnames₁]
    exact filter_not_contains_take hdistinct a
  rw [hleft] at hnames₂
  rw [pending_of_available havailable]
  show Except.ok ((waiting available db₀.ledger).take (a + b)) = _
  rw [List.take_add, ← hnames₁, ← hnames₂]
  rfl

/-- The second part starts from what one run would have come to. -/
theorem related_second (hcanned : db₀.canned = ∅) :
    Related (fun x y => x.map withoutBatch = y.map withoutBatch) start₂ mid₁ := by
  have hsame := hlocks.sameLedger.trans h₂.same
  obtain ⟨htables, hcatalog⟩ := Prod.mk.inj hlocks.schema
  have hcanned₁ : mid₁.canned = ∅ := h₁.conditions.canned.trans hcanned
  have hthere : db₁.hasTable m.ledgerTable = true := by
    rw [Memory.hasTable, h₂.table, hlocks.sameLedger.ledgerTable, htables, h₁.present, Bool.true_or]
  obtain ⟨hcatalog', htables'⟩ := ensure_keeps_schema h₂.ensured
  refine ⟨⟨hsame.ledgerTable.symm, ?_, ?_, hsame.failures.symm, ?_, hcanned₁⟩,
    hsame.nextId.symm, hsame.ticks.symm, ?_⟩
  · exact ((htables' hthere).trans htables).symm
  · exact (hcatalog'.trans hcatalog).symm
  · exact hsame.canned.trans hcanned₁
  · rw [hsame.ledger]

/-- The one run makes the same choice, of all files, and goes on after the first of them. -/
theorem carryOut_add (hm : FindsOnce m) (hcanned : db₀.canned = ∅) :
    ∃ mid₃, (carryOut m .up (runChoice m (some (a + b)))).run db₀ = (.ok (names₁ ++ names₂), mid₃) ∧
      Related (fun x y => x.map withoutBatch = y.map withoutBatch) mid₂ mid₃ := by
  have hchoice := runChoice_of_read h₁.ensured h₁.read (pending_add h₁ hlocks h₂ hm)
  have hresolve : m.resolve (names₁ ++ names₂) = .ok (l₁ ++ l₂) := by
    rw [← h₁.files, ← h₂.files, ← List.map_append]
    refine resolve_of_get? fun p hp => ?_
    rcases List.mem_append.1 hp with hp | hp
    · exact (resolve_eq_ok h₁.resolved).2 p hp
    · exact (resolve_eq_ok h₂.resolved).2 p hp
  have hquoted : QuotedAsIs start₂.ledgerTable := by
    rw [h₂.same.ledgerTable]
    exact h₂.quoted
  obtain ⟨mid₃, hexecuted, hend⟩ := executeEach_follows (lasting_withoutBatch _ _)
    (related_second h₁ hlocks h₂ hcanned) (h₂.table.trans h₂.same.ledgerTable.symm) hquoted
    h₂.scripts names₁ h₂.executed
  refine ⟨mid₃, ?_, hend⟩
  rw [(run_carryOut .up hchoice hresolve).1, run_executeEach_append, h₁.executed]
  dsimp only
  rw [hexecuted, h₂.files]

end

/-- Two runs that succeed, one after the other, do what one run of both limits together does:
that succeeds as well, with the files of both, and leaves the same tables, the same catalog and
the same rows but for their batches. The ledger table of the manager is that of the database, or
it has another name in which no backtick hides that of the database. -/
theorem run_add {m : Manager} (hm : FindsOnce m) {db₀ db₁ db₂ : Memory}
    (htable : '\x60' ∈ m.ledgerTable.toList → m.ledgerTable = db₀.ledgerTable)
    (hcanned : db₀.canned = ∅) {a b : Nat} (ha : 1 ≤ a) (hb : 1 ≤ b) {names₁ names₂ : List String}
    (h₁ : (m.run (some a)).run db₀ = (.ok names₁, db₁))
    (h₂ : (m.run (some b)).run db₁ = (.ok names₂, db₂)) :
    ∃ db₃, (m.run (some (a + b))).run db₀ = (.ok (names₁ ++ names₂), db₃) ∧
      db₃.tables = db₂.tables ∧ db₃.catalog = db₂.catalog ∧
      db₃.ledger.map (fun r => (r.id, r.migration, r.appliedAt)) =
        db₂.ledger.map (fun r => (r.id, r.migration, r.appliedAt)) := by
  have hlimit : ∀ {n : Nat}, 1 ≤ n → some n ≠ some 0 := by
    rintro n hn h
    obtain rfl := Option.some.inj h
    exact absurd hn (by decide)
  obtain ⟨held, after, hafter, hlock, l₁, start₁, mid₁, happlied₁, rfl⟩ :=
    applied_of_run hm.ofGateway htable hcanned (hlimit ha) h₁
  have hsame := happlied₁.conditions
  have hlocks := hafter mid₁
  have htable' : '\x60' ∈ m.ledgerTable.toList → m.ledgerTable = (after mid₁).ledgerTable :=
    fun _ => (happlied₁.table.trans hsame.ledgerTable.symm).trans hlocks.sameLedger.ledgerTable.symm
  have hcanned' : (after mid₁).canned = ∅ :=
    (hlocks.sameLedger.canned.trans hsame.canned).trans hcanned
  obtain ⟨held', after', hafter', -, l₂, start₂, mid₂, happlied₂, rfl⟩ :=
    applied_of_run hm.ofGateway htable' hcanned' (hlimit hb) h₂
  -- Between the two runs the lock was given back and taken again, which the rows do not notice.
  have hlocks' : OnlyLocks mid₁ { after mid₁ with held := held' } := by
    obtain ⟨held'', warnings, hafter⟩ := hlocks
    rw [hafter]
    exact ⟨held', warnings, rfl⟩
  obtain ⟨mid₃, hrun, hend⟩ := carryOut_add happlied₁ hlocks' happlied₂ hm hcanned
  refine ⟨after mid₃, ?_, ?_, ?_, ?_⟩
  · rw [run_eq, if_neg (hlimit (Nat.le_add_right_of_le ha)), hlock, hrun]
  · rw [(Prod.mk.inj (hafter mid₃).schema).1, (Prod.mk.inj (hafter' mid₂).schema).1]
    exact hend.alike.tables
  · rw [(Prod.mk.inj (hafter mid₃).schema).2, (Prod.mk.inj (hafter' mid₂).schema).2]
    exact hend.alike.catalog
  · rw [(hafter mid₃).sameLedger.ledger, (hafter' mid₂).sameLedger.ledger]
    exact hend.rows.symm

/-- A manager of two migrations, of which the second drops the table that the first makes. -/
def successive : Manager :=
  { Manager.ofRegistry (registryOf [
      ("20240101000000_a.rs", ⟨[.statement "CREATE TABLE `a` (`id` int)"], []⟩),
      ("20240102000000_b.rs", ⟨[.drop "a"], []⟩)]) with
    ledgerTable := "t" }

/-- Each is applied by a run of its own, or both by one. -/
theorem run_add_successive : ∃ db₁ db₂ db₃,
    (successive.run (some 1)).run (Memory.empty "t") = (.ok ["20240101000000_a.rs"], db₁) ∧
      (successive.run (some 1)).run db₁ = (.ok ["20240102000000_b.rs"], db₂) ∧
      (successive.run (some 2)).run (Memory.empty "t") =
        (.ok ["20240101000000_a.rs", "20240102000000_b.rs"], db₃) ∧
      db₃.tables = db₂.tables ∧ db₃.catalog = db₂.catalog ∧
      db₃.ledger.map (fun r => (r.id, r.migration, r.appliedAt)) =
        db₂.ledger.map (fun r => (r.id, r.migration, r.appliedAt)) := by
  have hm : FindsOnce successive := ⟨gatewayRegistry_registryOf (by decide), .inl rfl⟩
  have hruns : ((successive.run (some 1)).run (Memory.empty "t")).1.toOption =
        some ["20240101000000_a.rs"] ∧
      ((successive.run (some 1)).run ((successive.run (some 1)).run (Memory.empty "t")).2).1.toOption =
        some ["20240102000000_b.rs"] := by decide +kernel
  obtain ⟨hfirst, hsecond⟩ := hruns
  have hrun₁ := eq_ok_of_toOption hfirst
  have hrun₂ := eq_ok_of_toOption hsecond
  obtain ⟨db₃, hrun, hend⟩ :=
    run_add hm (fun _ => rfl) rfl (Nat.le_refl 1) (Nat.le_refl 1) hrun₁ hrun₂
  exact ⟨_, _, db₃, hrun₁, hrun₂, hrun, hend⟩

end SchemaMigration.Migration
