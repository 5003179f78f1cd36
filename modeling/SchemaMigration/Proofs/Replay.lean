import SchemaMigration.Catalog.Description

/-
  Replaying the calls that describe a table.

  The calls of a snapshot are written for columns, indexes, foreign keys and
  options in turn, and each part only grows its own part of a blueprint. A short
  form of a column declares the column it stands for: a counting key, the pair of
  creation and update times, or the deletion mark. `Snapshot.rebuilt` is the
  blueprint that comes out; it differs from the snapshot only in what the
  defaults give again.

  Main statement: `ofCalls_calls`, the calls of a snapshot rebuild it.
-/
namespace SchemaMigration.Catalog

open Text Table

/-! ## Modifiers -/

/-- The column after a modifier. -/
def applyModifier (c : Column) : Modifier → Column
  | .unsigned => { c with unsigned := true }
  | .autoIncrement => { c with autoIncrement := true }
  | .nullable => { c with nullable := true }
  | .default value => { c with default := some value }
  | .useCurrentOnUpdate => { c with onUpdateCurrentTimestamp := true }
  | .comment text => { c with comment := some text }

theorem declare_modifier (b : Blueprint) (m : Modifier) :
    b.declare m.declaration = b.modify fun c => applyModifier c m := by
  cases m <;> rfl

/-- Modifiers act on the column declared last. -/
theorem foldl_modifiers (ms : List Modifier) (b : Blueprint) (c : Column) :
    (ms.map Modifier.declaration).foldl Blueprint.declare (b.addColumn c) =
      b.addColumn (ms.foldl applyModifier c) := by
  induction ms generalizing c with
  | nil => rfl
  | cons m ms ih =>
    have hstep : (b.addColumn c).declare m.declaration = b.addColumn (applyModifier c m) := by
      rw [declare_modifier, Blueprint.modify, Blueprint.addColumn, Blueprint.modifyLast_append]
      rfl
    rw [List.map_cons, List.foldl_cons, hstep, ih, List.foldl_cons]

/-- A column as its call gives it back: null is the default of a nullable column
anyway. -/
def replayed (c : Column) : Column :=
  if c.nullable = true ∧ c.default = some .null then { c with default := none } else c

/-- A column that calls can describe. -/
structure IsDescribable (c : Column) : Prop where
  after : c.after = none
  unsigned : c.unsigned = true → c.type.acceptsUnsigned = true

theorem foldl_modifiersOf {c : Column} (h : IsDescribable c) :
    (modifiersOf c).foldl applyModifier { name := c.name, type := c.type } = replayed c := by
  obtain ⟨name, type, nullable, default, unsigned, autoIncrement, onUpdate, comment, after⟩ := c
  obtain ⟨hafter, hunsigned⟩ := h
  simp only at hafter hunsigned
  subst hafter
  have hsign : (unsigned && type.acceptsUnsigned) = unsigned := by
    cases unsigned with
    | false => rfl
    | true => rw [hunsigned rfl]; rfl
  simp only [modifiersOf, hsign, List.foldl_append]
  -- Each part sets its own field, so the flags are split all at once.
  cases default with
  | none =>
    cases unsigned <;> cases autoIncrement <;> cases nullable <;> cases onUpdate <;>
      cases comment <;> rfl
  | some d =>
    cases d <;> cases unsigned <;> cases autoIncrement <;> cases nullable <;> cases onUpdate <;>
      cases comment <;> rfl

/-! ## Columns -/

theorem build_column (b : Blueprint) {c : Column} (h : IsDescribable c) :
    b.build (.column c.name c.type (modifiersOf c)) = b.addColumn (replayed c) := by
  show ((modifiersOf c).map Modifier.declaration).foldl Blueprint.declare
    (b.addColumn { name := c.name, type := c.type }) = _
  rw [foldl_modifiers, foldl_modifiersOf h]

/-- A plain timestamp is what the short form of its name declares. -/
theorem replayed_of_isPlainTimestamp {name : String} {c : Column} (h : IsDescribable c)
    (hc : isPlainTimestamp name c = true) :
    replayed c = { name, type := .timestamp 0, nullable := true } := by
  obtain ⟨cname, type, nullable, default, unsigned, autoIncrement, onUpdate, comment, after⟩ := c
  obtain ⟨hafter, hunsigned⟩ := h
  simp only [isPlainTimestamp, Bool.and_eq_true, Bool.or_eq_true, beq_iff_eq,
    Bool.not_eq_true', Option.isNone_iff_eq_none] at hc hafter hunsigned
  obtain ⟨⟨⟨⟨⟨⟨rfl, rfl⟩, rfl⟩, hdefault⟩, rfl⟩, rfl⟩, rfl⟩ := hc
  have hsign : unsigned = false := Bool.eq_false_iff.2 fun hu => absurd (hunsigned hu) (by decide)
  subst hsign hafter
  rcases hdefault with rfl | rfl <;> rfl

/-- The column that a key form declares. -/
def keyType : KeyForm → ColumnType
  | .id => .bigInteger
  | .increments => .integer

theorem build_key (b : Blueprint) (form : KeyForm) (name : String) :
    b.build (.key form name) = b.keyColumn name (keyType form) := by
  cases form <;> rfl

theorem eq_of_keyForm? {c : Column} {form : KeyForm} (hafter : c.after = none)
    (h : keyForm? c = some form) :
    c = { name := c.name, type := keyType form, unsigned := true, autoIncrement := true } := by
  obtain ⟨name, type, nullable, default, unsigned, autoIncrement, onUpdate, comment, after⟩ := c
  simp only [keyForm?] at h hafter
  split at h
  · rename_i hplain
    simp only [Bool.and_eq_true, Bool.not_eq_true', Option.isNone_iff_eq_none] at hplain
    obtain ⟨⟨⟨⟨⟨rfl, rfl⟩, rfl⟩, rfl⟩, rfl⟩, rfl⟩ := hplain
    subst hafter
    cases type with
    | bigInteger => obtain rfl := Option.some.inj h; rfl
    | integer => obtain rfl := Option.some.inj h; rfl
    | _ => exact absurd h (by simp)
  · exact absurd h (by simp)

/-- Whether a column is the one that the key form is for. -/
def isKey (key : Option (String × KeyForm)) (c : Column) : Bool := key.any (·.1 == c.name)

theorem isKey_iff {key : Option (String × KeyForm)} {c : Column} :
    isKey key c = true ↔ ∃ form, key = some (c.name, form) := by
  cases key with
  | none => simp [isKey]
  | some k =>
    obtain ⟨name, form⟩ := k
    simp [isKey]

theorem build_columnCall (b : Blueprint) {key : Option (String × KeyForm)} {c : Column}
    (h : IsDescribable c) (hkey : ∀ form, key = some (c.name, form) → keyForm? c = some form) :
    b.build (columnCall key c) =
      { b.addColumn (replayed c) with
        primaryColumn := if isKey key c then key.map Prod.fst else b.primaryColumn } := by
  by_cases hc : isKey key c = true
  · obtain ⟨form, hsome⟩ := isKey_iff.1 hc
    have hcall : columnCall key c = .key form c.name := by
      rw [columnCall, hsome, Option.filter_some, if_pos (beq_self_eq_true c.name)]
    -- A key column is declared by its form alone, so all else of it is as the form has it.
    have hself := eq_of_keyForm? h.after (hkey form hsome)
    have hreplayed : replayed c = c := by
      apply if_neg
      intro hnull
      rw [hself] at hnull
      exact absurd hnull.1 (by simp)
    rw [hcall, build_key, hreplayed, if_pos hc, Blueprint.keyColumn, ← hself, hsome]
    rfl
  · have hnone : key.filter (·.1 == c.name) = none := by
      refine Option.filter_eq_none_iff.2 fun k hk hname => hc (isKey_iff.2 ⟨k.2, ?_⟩)
      rw [hk, ← show k.1 = c.name by simpa using hname]
    rw [columnCall, hnone, if_neg hc]
    by_cases hdeleted : isPlainTimestamp "deleted_at" c = true
    · simp only [if_pos hdeleted]
      rw [replayed_of_isPlainTimestamp h hdeleted]
      rfl
    · simp only [if_neg hdeleted]
      exact build_column b h

theorem build_timestamps (b : Blueprint) {c d : Column} (hc : IsDescribable c)
    (hd : IsDescribable d) (hcreated : isPlainTimestamp "created_at" c = true)
    (hupdated : isPlainTimestamp "updated_at" d = true) :
    b.build .timestamps = (b.addColumn (replayed c)).addColumn (replayed d) := by
  rw [replayed_of_isPlainTimestamp hc hcreated, replayed_of_isPlainTimestamp hd hupdated]
  rfl

/-- A timestamp is no key. -/
theorem isKey_of_isPlainTimestamp {key : Option (String × KeyForm)} {name : String}
    {c : Column} (hc : isPlainTimestamp name c = true)
    (hkey : ∀ form, key = some (c.name, form) → keyForm? c = some form) :
    isKey key c = false := by
  apply Bool.eq_false_iff.2
  intro h
  obtain ⟨form, hsome⟩ := isKey_iff.1 h
  have hform := hkey form hsome
  have htype : c.type = .timestamp 0 := by
    simp only [isPlainTimestamp, Bool.and_eq_true, beq_iff_eq] at hc
    exact hc.1.1.1.1.1.2
  rw [keyForm?, htype] at hform
  split at hform <;> exact absurd hform (by simp)

/-- The calls for columns give the columns back, and set the key if it is one of
them. -/
theorem foldl_columnCalls (key : Option (String × KeyForm)) (cs : List Column) (b : Blueprint)
    (h : ∀ c ∈ cs, IsDescribable c)
    (hkey : ∀ c ∈ cs, ∀ form, key = some (c.name, form) → keyForm? c = some form) :
    (columnCalls key cs).foldl Blueprint.build b =
      { b with
        columns := b.columns ++ cs.map replayed
        primaryColumn := if cs.any (isKey key) then key.map Prod.fst else b.primaryColumn } := by
  -- The cases are those of the calls: two timestamps in a row are one call.
  induction cs using columnCalls.induct key generalizing b with
  | case1 => simp [columnCalls]
  | case2 c =>
    have hc := build_columnCall b (h c List.mem_cons_self) (hkey c List.mem_cons_self)
    simp [columnCalls, hc, Blueprint.addColumn]
  | case3 c d rest htimes ih =>
    have hd : d ∈ c :: d :: rest := by simp
    have hrest : ∀ e ∈ rest, e ∈ c :: d :: rest := by simp +contextual
    simp only [Bool.and_eq_true] at htimes
    have hbuild := build_timestamps b (h c List.mem_cons_self) (h d hd) htimes.1.2 htimes.2
    have hckey := isKey_of_isPlainTimestamp htimes.1.2 (hkey c List.mem_cons_self)
    have hdkey := isKey_of_isPlainTimestamp htimes.2 (hkey d hd)
    rw [columnCalls, if_pos (by simpa [Bool.and_eq_true] using htimes), List.foldl_cons, hbuild,
      ih _ (fun e he => h e (hrest e he)) fun e he => hkey e (hrest e he)]
    simp [Blueprint.addColumn, hckey, hdkey]
  | case4 c d rest hother ih =>
    have hrest : ∀ e ∈ d :: rest, e ∈ c :: d :: rest := fun e => List.mem_cons_of_mem c
    have hc := build_columnCall b (h c List.mem_cons_self) (hkey c List.mem_cons_self)
    rw [columnCalls, if_neg hother, List.foldl_cons, hc,
      ih _ (fun e he => h e (hrest e he)) fun e he => hkey e (hrest e he)]
    cases hisKey : isKey key c <;> simp [Blueprint.addColumn, hisKey]

/-! ## Keys and options -/

theorem getD_unlessDefault (name default : String) :
    (unlessDefault name default).getD default = name := by
  by_cases h : name = default <;> simp [unlessDefault, h]

theorem build_indexCall (b : Blueprint) {i : Index} (h : i.kind = .primary → i.name = "PRIMARY") :
    b.build (indexCall b.table i) = { b with indexes := b.indexes ++ [i] } := by
  obtain ⟨kind, name, columns⟩ := i
  cases kind with
  | primary =>
    obtain rfl : name = "PRIMARY" := h rfl
    rfl
  | unique | index =>
    simp only [indexCall, Blueprint.build, BuildCall.declarations, List.foldl_cons,
      List.foldl_nil, Blueprint.declare, Blueprint.addIndex, reduceCtorEq, if_false,
      getD_unlessDefault]

theorem foldl_indexCalls (table : String) {b : Blueprint} (hb : b.table = table) (is : List Index)
    (h : ∀ i ∈ is, i.kind = .primary → i.name = "PRIMARY") :
    (is.map (indexCall table)).foldl Blueprint.build b =
      { b with indexes := b.indexes ++ is } := by
  subst hb
  induction is generalizing b with
  | nil => simp
  | cons i is ih =>
    rw [List.map_cons, List.foldl_cons, build_indexCall b (h i List.mem_cons_self)]
    have hrest := ih (b := { b with indexes := b.indexes ++ [i] })
      fun j hj => h j (List.mem_cons_of_mem i hj)
    rw [hrest, List.append_assoc]
    rfl

theorem build_foreignKeyCall (b : Blueprint) (fk : ForeignKey) :
    b.build (foreignKeyCall b.table fk) = b.addForeignKey fk := by
  obtain ⟨name, columns, table, referenced, onDelete, onUpdate⟩ := fk
  by_cases h : name = ForeignKey.defaultName b.table columns
  · subst h
    simp only [foreignKeyCall, unlessDefault, if_pos]
    rfl
  · simp only [foreignKeyCall, unlessDefault, if_neg h]
    rfl

theorem foldl_foreignKeyCalls (table : String) {b : Blueprint} (hb : b.table = table)
    (fks : List ForeignKey) :
    (fks.map (foreignKeyCall table)).foldl Blueprint.build b =
      { b with foreignKeys := b.foreignKeys ++ fks } := by
  subst hb
  induction fks generalizing b with
  | nil => simp
  | cons fk fks ih =>
    rw [List.map_cons, List.foldl_cons, build_foreignKeyCall]
    have hrest := ih (b := b.addForeignKey fk)
    rw [Blueprint.addForeignKey] at hrest ⊢
    rw [hrest, List.append_assoc]
    rfl

theorem foldl_optionCalls (o : TableOptions) (b : Blueprint) :
    (optionCalls o).foldl Blueprint.build b =
      { b with
        engine := o.engineOverride.getD b.engine
        charset := o.charsetOverride.getD b.charset
        collation := o.collationOverride.getD b.collation
        comment := o.commentOverride.or b.comment } := by
  rw [optionCalls]
  cases o.engineOverride <;> cases o.charsetOverride <;> cases o.collationOverride <;>
    cases o.commentOverride <;> rfl

/-! ## Whole snapshots -/

/-- A snapshot whose calls rebuild it. -/
structure Snapshot.IsDescribable (s : Snapshot) : Prop where
  names : (s.columns.map (·.column.name)).Nodup
  columns : ∀ c ∈ s.columns, Catalog.IsDescribable c.column
  primary : ∀ i ∈ s.indexes, i.kind = .primary → i.name = "PRIMARY"

/-- The indexes that calls describe: those that neither the short form of the key nor
a foreign key brings with it. -/
def Snapshot.describedIndexes (s : Snapshot) : List Index :=
  s.indexes.filter fun i =>
    !(i.kind == .primary && s.keyColumn?.isSome) && !isForeignKeyIndex s.foreignKeys i

/-- The blueprint that the calls of a snapshot give. -/
def Snapshot.rebuilt (s : Snapshot) : Blueprint where
  table := s.table
  columns := s.columns.map fun c => replayed c.column
  primaryColumn := s.keyColumn?.map Prod.fst
  indexes := s.describedIndexes
  foreignKeys := s.foreignKeys
  engine := s.options.engineOverride.getD defaultEngine
  charset := s.options.charsetOverride.getD defaultCharset
  collation := s.options.collationOverride.getD defaultCollation
  comment := s.options.commentOverride

/-- The key column is the one column of the primary key, and its form declares it. -/
theorem Snapshot.keyColumn?_eq_some {s : Snapshot} {name : String} {form : KeyForm}
    (h : s.keyColumn? = some (name, form)) :
    (∃ i, s.primaryKey? = some i ∧ i.columns = [name]) ∧
      ∃ c, s.column? name = some c ∧ keyForm? c = some form := by
  rw [Snapshot.keyColumn?] at h
  split at h
  · rename_i only hprimary
    obtain ⟨f, hf, heq⟩ := Option.map_eq_some_iff.1 h
    obtain ⟨rfl, rfl⟩ := Prod.mk.inj heq
    obtain ⟨c, hc, hform⟩ := Option.bind_eq_some_iff.1 hf
    exact ⟨Option.map_eq_some_iff.1 hprimary, c, hc, hform⟩
  · exact absurd h (by simp)

theorem find?_name {cs : List Column} (hnodup : (cs.map (·.name)).Nodup) {c : Column}
    (hc : c ∈ cs) : cs.find? (·.name = c.name) = some c := by
  induction cs with
  | nil => exact absurd hc List.not_mem_nil
  | cons d ds ih =>
    obtain ⟨hfresh, hds⟩ := List.nodup_cons.1 hnodup
    rcases List.mem_cons.1 hc with rfl | hc
    · rw [List.find?_cons_of_pos (by simp)]
    · have hne : d.name ≠ c.name := fun h => hfresh (List.mem_map.2 ⟨c, hc, h.symm⟩)
      rw [List.find?_cons_of_neg (by simpa using hne), ih hds hc]

/-- The calls of a snapshot rebuild it. -/
theorem ofCalls_calls {s : Snapshot} (h : s.IsDescribable) :
    Blueprint.ofCalls s.table s.calls = s.rebuilt := by
  have hdescribable : ∀ c ∈ s.columns.map (·.column), IsDescribable c := by
    intro c hc
    obtain ⟨d, hd, rfl⟩ := List.mem_map.1 hc
    exact h.columns d hd
  have hnames : ((s.columns.map (·.column)).map (·.name)).Nodup := by
    rw [List.map_map]
    exact h.names
  have hkey : ∀ c ∈ s.columns.map (·.column), ∀ form,
      s.keyColumn? = some (c.name, form) → keyForm? c = some form := by
    intro c hc form hform
    obtain ⟨-, d, hd, hdform⟩ := Snapshot.keyColumn?_eq_some hform
    rw [Snapshot.column?, find?_name hnames hc] at hd
    obtain rfl := Option.some.inj hd
    exact hdform
  have hset : (if (s.columns.map (·.column)).any (isKey s.keyColumn?) then
      s.keyColumn?.map Prod.fst else none) = s.keyColumn?.map Prod.fst := by
    cases hs : s.keyColumn? with
    | none => simp
    | some k =>
      obtain ⟨name, form⟩ := k
      obtain ⟨-, c, hc, -⟩ := Snapshot.keyColumn?_eq_some hs
      have hmem := List.mem_of_find?_eq_some hc
      have hname : c.name = name := by simpa using List.find?_some hc
      refine if_pos (List.any_eq_true.2 ⟨c, hmem, ?_⟩)
      simp [isKey, hname]
  have hprimary : ∀ i ∈ s.describedIndexes, i.kind = .primary → i.name = "PRIMARY" :=
    fun i hi => h.primary i (List.mem_filter.1 hi).1
  -- Columns, indexes, foreign keys and options, each on what the calls before have built.
  rw [Blueprint.ofCalls, Snapshot.calls, List.foldl_append, List.foldl_append, List.foldl_append,
    foldl_columnCalls s.keyColumn? _ _ hdescribable hkey]
  show List.foldl _ (List.foldl _ (List.foldl _ _ (s.describedIndexes.map _)) _) _ = _
  rw [foldl_indexCalls s.table rfl _ hprimary, foldl_foreignKeyCalls s.table rfl,
    foldl_optionCalls]
  simp only [Snapshot.rebuilt, Blueprint.empty, hset, List.nil_append, List.map_map,
    Option.or_none]
  rfl

end SchemaMigration.Catalog
