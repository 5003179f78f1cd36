/-
  The order in which tables that refer to each other are created.

  A table waits for every other listed table that it refers to. The ready table
  that comes first by name is placed next; when none is ready the rest lies on or
  behind a cycle and follows by name. Where a table is listed more than once, its
  last entry says how many placements it waits for, and a placement counts once
  for each of its entries that refer to the placed table.

  Main statements: `latest_eq_self` and `suppliers_eq_awaited`, a table that is
  listed once waits for the tables of its only entry; `ready_pending_iff`, it is
  ready when all of them are placed.
-/
namespace SchemaMigration.Catalog

/-- A table and the tables it refers to. -/
structure TableReferences where
  name : String
  references : List String
  deriving DecidableEq, Repr

/-- The names from `all` that an entry refers to, each once, its own excepted. -/
def TableReferences.awaited (all : List String) (t : TableReferences) : List String :=
  (t.references.filter fun r => r != t.name && all.contains r).eraseDups

/-- The last entry of each name. -/
def latest : List TableReferences → List TableReferences
  | [] => []
  | t :: rest => if rest.any (·.name == t.name) then latest rest else t :: latest rest

/-- A table that is not placed yet. -/
structure PendingTable where
  name : String
  /-- How many placements the table waits for. -/
  needed : Nat
  /-- The tables whose placement counts, as often as it counts. -/
  suppliers : List String
  deriving DecidableEq, Repr

namespace PendingTable

/-- The pending form of a table's last entry. -/
def ofEntry (tables : List TableReferences) (t : TableReferences) : PendingTable :=
  let all := tables.map (·.name)
  ⟨t.name, (t.awaited all).length,
    (tables.filter (·.name == t.name)).flatMap (·.awaited all)⟩

/-- Whether enough placements have counted. -/
def ready (placed : List String) (t : PendingTable) : Bool :=
  t.needed ≤ t.suppliers.countP placed.contains

end PendingTable

/-- The tables with those placed first that wait for nothing, and the names that
remain when none is ready. `waiting` is sorted by name. -/
def placeReady (placed : List String) (waiting : List PendingTable) : List String × List String :=
  match _h : waiting.find? (·.ready placed) with
  | none => (placed, waiting.map (·.name))
  | some t => placeReady (placed ++ [t.name]) (waiting.erase t)
termination_by waiting.length
decreasing_by
  have hm := List.mem_of_find?_eq_some _h
  have := List.length_erase_of_mem hm
  have := List.length_pos_of_mem hm
  omega

/-- The tables in an order that puts referenced tables first, and the names for
which there is no such order. -/
def dependencyOrder (tables : List TableReferences) : List String × List String :=
  let sorted := (latest tables).mergeSort fun a b => decide (a.name ≤ b.name)
  let (placed, cyclic) := placeReady [] (sorted.map (PendingTable.ofEntry tables))
  (placed ++ cyclic, cyclic)

/-- The warning about tables for which there is no order. -/
def cycleWarning (cyclic : List String) : String :=
  "circular foreign key references between " ++ String.intercalate ", " cyclic ++
    "; generating them alphabetically"

/-! ## Tables of distinct names -/

theorem latest_eq_self {tables : List TableReferences} (h : (tables.map (·.name)).Nodup) :
    latest tables = tables := by
  induction tables with
  | nil => rfl
  | cons t rest ih =>
    obtain ⟨hnot, hrest⟩ := List.nodup_cons.1 h
    have hany : rest.any (·.name == t.name) = false := by
      rw [List.any_eq_false]
      intro u hu he
      exact hnot (List.mem_map.2 ⟨u, hu, eq_of_beq he⟩)
    rw [latest, hany, ih hrest]
    rfl

theorem filter_name_eq_singleton {tables : List TableReferences} {t : TableReferences}
    (h : (tables.map (·.name)).Nodup) (ht : t ∈ tables) :
    tables.filter (·.name == t.name) = [t] := by
  induction tables with
  | nil => simp at ht
  | cons u rest ih =>
    obtain ⟨hnot, hrest⟩ := List.nodup_cons.1 h
    rcases List.mem_cons.1 ht with rfl | hmem
    · have : rest.filter (·.name == t.name) = [] := by
        rw [List.filter_eq_nil_iff]
        intro u hu he
        exact hnot (List.mem_map.2 ⟨u, hu, eq_of_beq he⟩)
      simp [this]
    · have hne : (u.name == t.name) = false := by
        rw [beq_eq_false_iff_ne]
        intro he
        exact hnot (List.mem_map.2 ⟨t, hmem, he.symm⟩)
      simp [hne, ih hrest hmem]

theorem suppliers_eq_awaited {tables : List TableReferences} {t : TableReferences}
    (h : (tables.map (·.name)).Nodup) (ht : t ∈ tables) :
    (PendingTable.ofEntry tables t).suppliers = t.awaited (tables.map (·.name)) := by
  simp [PendingTable.ofEntry, filter_name_eq_singleton h ht]

/-- A table that is listed once is ready when all it waits for is placed. -/
theorem ready_pending_iff {tables : List TableReferences} {t : TableReferences}
    (h : (tables.map (·.name)).Nodup) (ht : t ∈ tables) (placed : List String) :
    (PendingTable.ofEntry tables t).ready placed = true ↔
      ∀ r ∈ t.awaited (tables.map (·.name)), r ∈ placed := by
  have hneeded : (PendingTable.ofEntry tables t).needed =
      (t.awaited (tables.map (·.name))).length := rfl
  rw [PendingTable.ready, suppliers_eq_awaited h ht, hneeded, decide_eq_true_iff]
  constructor
  · intro hle r hr
    have := List.countP_eq_length.1 (Nat.le_antisymm List.countP_le_length hle) r hr
    simpa using this
  · intro hall
    exact Nat.le_of_eq (List.countP_eq_length.2 fun r hr => by simpa using hall r hr).symm

end SchemaMigration.Catalog
