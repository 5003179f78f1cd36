import SchemaMigration.Proofs.Replay

/-
  The structure that the calls of a snapshot rebuild.

  `Snapshot.rebuilt` says what comes out of the calls in terms of the short forms that
  the calls use. Here it is said in terms of the table: columns, keys and options of
  the snapshot, less what a declaration gives by itself. A key column is one that the
  declaration of a wide or of a plain key declares as it is.

  Main statement: `rebuilds_calls`.
-/
namespace SchemaMigration.Catalog

open Text Table

/-! ## Key columns -/

/-- The declaration of a key, wide or plain, declares the column as it is. -/
def IsKeyColumn (c : Column) : Prop :=
  ∃ d, (d = .id c.name ∨ d = .increments c.name) ∧
    (Blueprint.ofDeclarations "" [d]).columns = [c]

/-- Short forms are for the columns that the declaration of a key declares. -/
theorem isKeyColumn_iff {c : Column} (hafter : c.after = none) :
    IsKeyColumn c ↔ ∃ form, keyForm? c = some form := by
  constructor
  · rintro ⟨d, rfl | rfl, hd⟩
    · rw [← List.singleton_inj.1 hd]
      exact ⟨.id, rfl⟩
    · rw [← List.singleton_inj.1 hd]
      exact ⟨.increments, rfl⟩
  · rintro ⟨form, hform⟩
    have hself := eq_of_keyForm? hafter hform
    cases form with
    | id => exact ⟨.id c.name, .inl rfl, congrArg (fun d => [d]) hself.symm⟩
    | increments => exact ⟨.increments c.name, .inr rfl, congrArg (fun d => [d]) hself.symm⟩

/-- The primary key is a column alone, which the declaration of a key declares. -/
def Snapshot.HasKeyColumn (s : Snapshot) (name : String) : Prop :=
  (∃ i ∈ s.indexes, i.kind = .primary ∧ i.columns = [name]) ∧
    ∃ c ∈ s.columns, c.column.name = name ∧ IsKeyColumn c.column

/-- Of one primary key the first is any. -/
theorem find?_primary {is : List Index} (hone : is.countP (·.kind = .primary) ≤ 1) {i : Index}
    (hi : i ∈ is) (hprimary : i.kind = .primary) : is.find? (·.kind = .primary) = some i := by
  induction is with
  | nil => exact absurd hi List.not_mem_nil
  | cons j is ih =>
    by_cases hj : j.kind = .primary
    · rw [List.countP_cons_of_pos (by simpa using hj)] at hone
      have hnone : is.countP (·.kind = .primary) = 0 := by omega
      rw [List.find?_cons_of_pos (by simpa using hj)]
      rcases List.mem_cons.1 hi with rfl | hi
      · rfl
      · exact absurd hprimary (by simpa using List.countP_eq_zero.1 hnone i hi)
    · rw [List.countP_cons_of_neg (by simpa using hj)] at hone
      have hne : i ≠ j := fun h => hj (h ▸ hprimary)
      rw [List.find?_cons_of_neg (by simpa using hj)]
      exact ih hone ((List.mem_cons.1 hi).resolve_left hne)

/-- The key that the calls declare in its short form is the key column of the snapshot. -/
theorem keyColumn?_eq_some_iff {s : Snapshot} (h : s.IsDescribable)
    (hone : s.indexes.countP (·.kind = .primary) ≤ 1) (name : String) :
    s.keyColumn?.map Prod.fst = some name ↔ s.HasKeyColumn name := by
  constructor
  · intro hkey
    obtain ⟨⟨_, form⟩, hsome, rfl⟩ := Option.map_eq_some_iff.1 hkey
    obtain ⟨⟨i, hi, hcolumns⟩, c, hc, hform⟩ := Snapshot.keyColumn?_eq_some hsome
    obtain ⟨d, hd, rfl⟩ := List.mem_map.1 (List.mem_of_find?_eq_some hc)
    refine ⟨⟨i, List.mem_of_find?_eq_some hi, by simpa using List.find?_some hi, hcolumns⟩, d, hd,
      by simpa using List.find?_some hc, ?_⟩
    exact (isKeyColumn_iff (h.columns d hd).after).2 ⟨form, hform⟩
  · rintro ⟨⟨i, hi, hprimary, hcolumns⟩, c, hc, rfl, hself⟩
    obtain ⟨form, hform⟩ := (isKeyColumn_iff (h.columns c hc).after).1 hself
    have hnames : ((s.columns.map (·.column)).map (·.name)).Nodup := by
      rw [List.map_map]
      exact h.names
    have hfound : s.column? c.column.name = some c.column :=
      find?_name hnames (List.mem_map_of_mem hc)
    have hfirst : s.primaryKey? = some i := find?_primary hone hi hprimary
    rw [Snapshot.keyColumn?, hfirst, Option.map_some, hcolumns]
    simp only [hfound, Option.bind_some, hform, Option.map_some]

/-! ## The whole table -/

/-- The index has the name and the columns of a foreign key. -/
def Snapshot.BelongsToForeignKey (s : Snapshot) (i : Index) : Prop :=
  i.kind = .index ∧ ∃ fk ∈ s.foreignKeys, fk.name = i.name ∧ fk.columns = i.columns

instance (s : Snapshot) (i : Index) : Decidable (s.BelongsToForeignKey i) := by
  unfold Snapshot.BelongsToForeignKey
  infer_instance

/-- An option is the given one up to letter case, and the default if none is given. -/
def OptionAgrees (given : Option String) (default actual : String) : Prop :=
  match given with
  | some value => sameName actual value = true
  | none => actual = default

/-- The blueprint has the structure of the snapshot. A null default of a nullable column
is none, and a key column and the foreign keys stand for the indexes they bring. -/
structure Rebuilds (s : Snapshot) (b : Blueprint) : Prop where
  table : b.table = s.table
  columns : b.columns = s.columns.map fun c => replayed c.column
  foreignKeys : b.foreignKeys = s.foreignKeys
  indexes : b.indexes = s.indexes.filter fun i =>
    ¬(i.kind = .primary ∧ b.primaryColumn.isSome) ∧ ¬s.BelongsToForeignKey i
  primaryColumn : ∀ name, b.primaryColumn = some name ↔ s.HasKeyColumn name
  engine : OptionAgrees s.options.engine defaultEngine b.engine
  charset : OptionAgrees s.options.charset defaultCharset b.charset
  collation : OptionAgrees s.options.collation defaultCollation b.collation
  comment : b.comment = s.options.comment.filter (· ≠ "")

/-- What differs is taken over, and what is left out is the default. -/
theorem optionAgrees_differing (given : Option String) (default : String) :
    OptionAgrees given default ((TableOptions.differing given default).getD default) := by
  cases given with
  | none => rfl
  | some value =>
    show sameName ((TableOptions.differing (some value) default).getD default) value = true
    cases hsame : sameName value default with
    | true =>
      have hsym : sameName default value = true := by
        rw [sameName, beq_iff_eq] at hsame ⊢
        exact hsame.symm
      simpa [TableOptions.differing, Option.filter_some, hsame] using hsym
    | false =>
      have hself : sameName value value = true := beq_self_eq_true _
      simpa [TableOptions.differing, Option.filter_some, hsame] using hself

theorem isForeignKeyIndex_iff (s : Snapshot) (i : Index) :
    isForeignKeyIndex s.foreignKeys i = true ↔ s.BelongsToForeignKey i := by
  simp [isForeignKeyIndex, Snapshot.BelongsToForeignKey]

theorem describedIndexes_eq (s : Snapshot) :
    s.describedIndexes = s.indexes.filter fun i =>
      ¬(i.kind = .primary ∧ s.rebuilt.primaryColumn.isSome) ∧ ¬s.BelongsToForeignKey i := by
  have hset : s.rebuilt.primaryColumn.isSome = s.keyColumn?.isSome := Option.isSome_map
  apply List.filter_congr
  intro i _
  rw [hset, Bool.eq_iff_iff]
  simp [← isForeignKeyIndex_iff]

/-- The calls of a snapshot rebuild its structure. -/
theorem rebuilds_calls {s : Snapshot} (h : s.IsDescribable)
    (hone : s.indexes.countP (·.kind = .primary) ≤ 1) :
    Rebuilds s (Blueprint.ofCalls s.table s.calls) := by
  rw [ofCalls_calls h]
  exact {
    table := rfl
    columns := rfl
    foreignKeys := rfl
    indexes := describedIndexes_eq s
    primaryColumn := keyColumn?_eq_some_iff h hone
    engine := optionAgrees_differing _ _
    charset := optionAgrees_differing _ _
    collation := optionAgrees_differing _ _
    comment := rfl }

/-- A table whose key, times and foreign key have short forms, beside columns that
only look like them. -/
def visits : Snapshot where
  table := "visits"
  columns :=
    [⟨{ name := "id", type := .integer, unsigned := true, autoIncrement := true }, "int unsigned"⟩,
      ⟨{ name := "page_id", type := .bigInteger, nullable := true, default := some .null,
          unsigned := true }, "bigint unsigned"⟩,
      ⟨{ name := "created_at", type := .timestamp 0, nullable := true }, "timestamp"⟩,
      ⟨{ name := "deleted_at", type := .timestamp 3, nullable := true }, "timestamp(3)"⟩,
      ⟨{ name := "updated_at", type := .timestamp 0, nullable := true }, "timestamp"⟩]
  indexes :=
    [⟨.primary, "PRIMARY", ["id"]⟩, ⟨.index, "visits_page_id_foreign", ["page_id"]⟩,
      ⟨.index, "recent", ["created_at", "id"]⟩]
  foreignKeys :=
    [⟨"visits_page_id_foreign", ["page_id"], "pages", ["id"], .setNull, .restrict⟩]
  options := { engine := some "innodb", charset := some "latin1", comment := some "" }

theorem rebuilds_visits : visits.IsDescribable ∧ visits.indexes.countP (·.kind = .primary) ≤ 1 ∧
    Rebuilds visits (Blueprint.ofCalls visits.table visits.calls) := by
  have h : visits.IsDescribable := by
    refine ⟨by decide, ?_, by decide⟩
    simp only [visits, List.forall_mem_cons]
    exact ⟨⟨rfl, by decide⟩, ⟨rfl, by decide⟩, ⟨rfl, by decide⟩, ⟨rfl, by decide⟩,
      ⟨rfl, by decide⟩, by simp⟩
  exact ⟨h, by decide, rebuilds_calls h (by decide)⟩

end SchemaMigration.Catalog
