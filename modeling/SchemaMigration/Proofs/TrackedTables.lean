import Mathlib.Logic.Function.Basic
import SchemaMigration.Proofs.ChangeStatements

/-
  The tables that a database in memory keeps track of.

  A database in memory reads every statement back that a call on the schema sends. What it
  knows of the tables that statements created is, table by table, the names of their columns
  in order. A call that succeeds changes these names as it says, and a call that fails leaves
  them alone, whatever the texts in it.

  The one thing that has to be carried along is that no comma separates in what is kept of a
  column's clause, up to the first blank: that part is the type when the column is renamed.

  Main statement: `tables_tracked`.
-/
namespace SchemaMigration.Schema

open Sql Text Table Database Catalog Position

/-! ## Layouts -/

/-- The names of the columns of each table that there is, in their order. -/
abbrev Layout := String → Option (List String)

/-- The layout after a call. -/
def Operation.appliedTo (m : Layout) : Operation → Layout
  | .create table ds =>
    Function.update m table (some ((Blueprint.ofDeclarations table ds).columns.map (·.name)))
  | .drop table | .dropIfExists table => Function.update m table none
  | .rename old new => match m old with
    | some names => Function.update (Function.update m old none) new (some names)
    | none => m
  | .dropColumns table dropped =>
    Function.update m table ((m table).map fun names => names.filter (!dropped.contains ·))
  | .renameColumn table old new =>
    Function.update m table ((m table).map fun names => names.replace old new)
  | _ => m

/-- The layout after a call that ended as given; a call that failed leaves it. -/
def layoutAfterCall (m : Layout) (call : Operation) : Outcome → Layout
  | .failed _ => m
  | _ => call.appliedTo m

/-- The layout after calls that ended as given. -/
def layoutAfter (m : Layout) : List Operation → List Outcome → Layout
  | call :: calls, o :: outcomes => layoutAfter (layoutAfterCall m call o) calls outcomes
  | _, _ => m

/-- The database has neither catalog rows for the table nor a fixed answer for its columns. -/
def Undescribed (db : Memory) (table : String) : Prop :=
  db.catalog.get? table = none ∧ db.canned.get? (columnsSql table) = none

/-- A call that creates, drops or renames tables or columns, outside of what the database has
described to it. In a table that is created, options are plain words and expressions are
balanced. -/
def Operation.Tracked (db : Memory) : Operation → Prop
  | .create table ds => Undescribed db table ∧ (Blueprint.ofDeclarations table ds).WellQuoted
  | .drop table | .dropIfExists table | .dropColumns table _ | .renameColumn table _ _ =>
    Undescribed db table
  | .rename old new => Undescribed db old ∧ Undescribed db new
  | _ => False

/-- In what is kept of the clauses, no comma separates up to the first blank. -/
def TypesWhole (columns : List (String × String)) : Prop :=
  ∀ c ∈ columns, Unseparated (outside 0) (firstWord c.2.toList)

/-- The tables of a database have the columns of the layout. What was described to it is as
it was at the start. -/
structure Follows (start : Memory) (m : Layout) (db : Memory) : Prop where
  catalog : db.catalog = start.catalog
  canned : db.canned = start.canned
  names : ∀ table, (db.tables.get? table).map (·.map Prod.fst) = m table
  types : ∀ table columns, db.tables.get? table = some columns → TypesWhole columns

/-- Success leads to the second layout, failure leaves the first. -/
def LeadsTo (start : Memory) (m m' : Layout) (r : Except Error Unit × Memory) : Prop :=
  match r with
  | (.ok _, db) => Follows start m' db
  | (.error _, db) => Follows start m db

variable {start db : Memory} {m : Layout}

/-! ## Changes of the schema -/

/-- A table with new columns, whether or not it was there. -/
theorem Follows.insert (h : Follows start m db) (table : String) {columns : List (String × String)}
    (hcolumns : TypesWhole columns) :
    Follows start (Function.update m table (some (columns.map Prod.fst)))
      { db with tables := db.tables.insert table columns } where
  catalog := h.catalog
  canned := h.canned
  names other := by
    rw [NameMap.get?_insert]
    by_cases hother : table = other
    · subst hother
      rw [if_pos rfl, Function.update_self, Option.map_some]
    · rw [if_neg hother, Function.update_of_ne (Ne.symm hother), h.names]
  types other found hfound := by
    rw [NameMap.get?_insert] at hfound
    split at hfound
    · obtain rfl := Option.some.inj hfound
      exact hcolumns
    · exact h.types other found hfound

theorem Follows.erase (h : Follows start m db) (table : String) :
    Follows start (Function.update m table none) { db with tables := db.tables.erase table } where
  catalog := h.catalog
  canned := h.canned
  names other := by
    rw [NameMap.get?_erase]
    by_cases hother : table = other
    · subst hother
      rw [if_pos rfl, Function.update_self, Option.map_none]
    · rw [if_neg hother, Function.update_of_ne (Ne.symm hother), h.names]
  types other found hfound := by
    rw [NameMap.get?_erase] at hfound
    split at hfound
    · cases hfound
    · exact h.types other found hfound

theorem Follows.get? (h : Follows start m db) {table : String} {columns : List (String × String)}
    (hcolumns : db.tables.get? table = some columns) : m table = some (columns.map Prod.fst) := by
  rw [← h.names, hcolumns, Option.map_some]

theorem Follows.get?_none (h : Follows start m db) {table : String}
    (hnone : db.tables.get? table = none) : m table = none := by
  rw [← h.names, hnone, Option.map_none]

theorem leadsTo_create (h : Follows start m db) (table : String)
    {columns : List (List Char × List Char)}
    (htypes : ∀ c ∈ columns, Unseparated (outside 0) (firstWord c.2)) :
    LeadsTo start m (Function.update m table (some (columns.map fun c => String.ofList c.1)))
      (db.changeSchema (.create false table.toList columns)) := by
  rw [Memory.changeSchema]
  simp only [String.ofList_toList]
  split
  · exact h
  · have hwhole : TypesWhole (columns.map fun c => (String.ofList c.1, String.ofList c.2)) := by
      refine List.forall_mem_map.2 fun c hc => ?_
      rw [String.toList_ofList]
      exact htypes c hc
    have hinsert := h.insert table hwhole
    rwa [List.map_map] at hinsert

theorem leadsTo_drop (h : Follows start m db) (ifPresent : Bool) (table : String)
    (hundescribed : Undescribed start table) :
    LeadsTo start m (Function.update m table none)
      (db.changeSchema (.drop ifPresent table.toList)) := by
  have hcatalog : db.catalog.erase table = db.catalog :=
    NameMap.erase_eq_self (by rw [h.catalog]; exact hundescribed.1)
  rw [Memory.changeSchema]
  simp only [String.ofList_toList, hcatalog]
  split
  · exact h
  · exact h.erase table

theorem leadsTo_rename (h : Follows start m db) (old new : String) :
    LeadsTo start m ((Operation.rename old new).appliedTo m)
      (db.changeSchema (.rename old.toList new.toList)) := by
  rw [Memory.changeSchema, Operation.appliedTo]
  simp only [String.ofList_toList]
  cases hold : db.tables.get? old with
  | none => exact h
  | some columns =>
    rw [h.get? hold]
    exact (h.erase old).insert new (h.types old columns hold)

/-- The changes of an alteration turn the names of the columns as given. -/
theorem leadsTo_alter (h : Follows start m db) (table : String) {changes : List ColumnChange}
    {f : List String → List String}
    (hf : ∀ columns : List (String × String), TypesWhole columns →
      (changes.foldl Memory.changeColumns columns).map Prod.fst = f (columns.map Prod.fst) ∧
        TypesWhole (changes.foldl Memory.changeColumns columns)) :
    LeadsTo start m (Function.update m table ((m table).map f))
      (db.changeSchema (.alter table.toList changes)) := by
  rw [Memory.changeSchema]
  simp only [String.ofList_toList]
  split
  · rename_i hnone
    rw [h.get?_none hnone, Option.map_none, ← h.get?_none hnone, Function.update_eq_self]
    exact h
  · rename_i columns hcolumns
    obtain ⟨hnames, htypes⟩ := hf columns (h.types table columns hcolumns)
    rw [h.get? hcolumns, Option.map_some, ← hnames]
    exact h.insert table htypes

theorem foldl_drop (names : List String) (columns : List (String × String)) :
    (names.map fun c => ColumnChange.drop c.toList).foldl Memory.changeColumns columns =
      columns.filter fun c => !names.contains c.1 := by
  induction names generalizing columns with
  | nil => exact (List.filter_eq_self.2 fun _ _ => rfl).symm
  | cons name names ih =>
    rw [List.map_cons, List.foldl_cons, ih]
    show (columns.filter (·.1 != String.ofList name.toList)).filter _ = _
    rw [String.ofList_toList, List.filter_filter]
    apply List.filter_congr
    intro c _
    rw [List.contains_cons, Bool.not_or, Bool.and_comm]
    rfl

theorem map_replaceColumn (old : String) (column : String × String)
    (columns : List (String × String)) :
    (Memory.replaceColumn old column columns).map Prod.fst =
      (columns.map Prod.fst).replace old column.1 := by
  induction columns with
  | nil => rfl
  | cons c columns ih =>
    rw [Memory.replaceColumn, List.map_cons, List.replace_cons]
    split
    · rename_i hc
      rw [beq_iff_eq.2 hc.symm]
      rfl
    · rename_i hc
      rw [beq_false_of_ne (Ne.symm hc), List.map_cons, ih]

theorem mem_replaceColumn {old : String} {column c : String × String}
    {columns : List (String × String)} (h : c ∈ Memory.replaceColumn old column columns) :
    c = column ∨ c ∈ columns := by
  induction columns with
  | nil => cases h
  | cons d columns ih =>
    rw [Memory.replaceColumn] at h
    split at h
    · exact (List.mem_cons.1 h).imp_right (List.mem_cons_of_mem _)
    · rcases List.mem_cons.1 h with rfl | h
      · exact .inr List.mem_cons_self
      · exact (ih h).imp_right (List.mem_cons_of_mem _)

/-! ## Calls -/

/-- A statement that reads as a change leads where the change does. -/
theorem leadsTo_statement {m' : Layout} (h : Follows start m db) {sql : String}
    {change : SchemaChange} (hread : Command.read db.ledgerTable sql = .change (.ok change))
    (hchange : ∀ {db' : Memory}, Follows start m db' →
      LeadsTo start m m' (db'.changeSchema change)) :
    LeadsTo start m m' ((statement sql : Action Memory Unit).run db) := by
  have hnoted : Follows start m (db.noted sql) := ⟨h.1, h.2, h.3, h.4⟩
  have hsettled : Follows start m { db.noted sql with saved := none } := ⟨h.1, h.2, h.3, h.4⟩
  have hleads := hchange hsettled
  rw [Memory.run_statement, Memory.execute_eq]
  split
  · exact hnoted
  · rw [hread, Memory.perform]
    dsimp only
    generalize Memory.changeSchema _ change = r at hleads ⊢
    obtain ⟨_ | _, db'⟩ := r
    · exact hleads
    · exact hleads

theorem leadsTo_createTable (h : Follows start m db) {b : Blueprint} (hquoted : b.WellQuoted) :
    LeadsTo start m (Function.update m b.table (some (b.columns.map (·.name))))
      ((createTable b : Action Memory Unit).run db) := by
  rw [createTable]
  cases hcreate : b.createStatement with
  | error f => exact h
  | ok sql =>
    obtain ⟨hcheck, hne, rfl⟩ := Blueprint.createStatement_eq_ok_iff.1 hcreate
    obtain ⟨columns, hread, hnames, htypes⟩ :=
      Blueprint.read_createText db.ledgerTable hcheck hne hquoted
    have hcolumns : columns.map (fun c => String.ofList c.1) = b.columns.map (·.name) := by
      have hstrings := congrArg (List.map String.ofList) hnames
      simpa only [List.map_map, Function.comp_def, String.ofList_toList] using hstrings
    show LeadsTo start m _ ((statement b.createText : Action Memory Unit).run db)
    refine leadsTo_statement h hread fun h' => ?_
    rw [← hcolumns]
    exact leadsTo_create h' b.table htypes

theorem leadsTo_dropColumns (h : Follows start m db) (table : String) (dropped : List String) :
    LeadsTo start m ((Operation.dropColumns table dropped).appliedTo m)
      ((Schema.dropColumns table dropped : Action Memory Unit).run db) := by
  rw [Schema.dropColumns, Operation.appliedTo]
  split
  · rename_i hnone
    subst hnone
    have hall :
        (fun names : List String => names.filter (!([] : List String).contains ·)) = id := by
      funext names
      exact List.filter_eq_self.2 fun _ _ => rfl
    rw [hall, Option.map_id, id, Function.update_eq_self]
    exact h
  · rename_i hsome
    refine leadsTo_statement h (read_dropColumns _ table hsome) fun h' => leadsTo_alter h' table ?_
    intro columns hcolumns
    rw [foldl_drop]
    refine ⟨?_, fun c hc => hcolumns c (List.mem_filter.1 hc).1⟩
    rw [List.filter_map]
    rfl

/-- The query for the columns of a table that nothing describes answers from its clauses. -/
theorem query_columnsSql (h : Follows start m db) {table : String}
    (hundescribed : Undescribed start table) :
    db.query (columnsSql table) [] = (
      if db.isBoundToFail (columnsSql table) then .error (Memory.injected (columnsSql table))
      else match db.tables.get? table with
        | some columns => .ok (columns.map fun c => Memory.columnRowOfClause c.1 c.2)
        | none => .error (Memory.missingTable table), db) := by
  have hanswer := Memory.answer_columnsSql_of_canned (h.canned ▸ hundescribed.2)
  have hcatalog : db.catalog.get? table = none := h.catalog ▸ hundescribed.1
  rw [Memory.query]
  split
  · rfl
  · rw [hanswer, Memory.shown, Memory.tableAt_ident]
    cases htable : db.tables.get? table with
    | none => simp only [String.ofList_toList, hcatalog, htable]
    | some columns => simp only [String.ofList_toList, hcatalog, htable]

theorem leadsTo_renameColumn (h : Follows start m db) {table : String} (old new : String)
    (hundescribed : Undescribed start table) :
    LeadsTo start m ((Operation.renameColumn table old new).appliedTo m)
      ((Schema.renameColumn table old new : Action Memory Unit).run db) := by
  have hquery : (columnRows table : Action Memory (List Row)).run db =
      db.query (columnsSql table) [] := rfl
  rw [query_columnsSql h hundescribed] at hquery
  rw [Schema.renameColumn, Operation.appliedTo]
  split at hquery
  · rw [Action.run_bind_error hquery]
    exact h
  · cases hcolumns : db.tables.get? table with
    | none =>
      rw [hcolumns] at hquery
      rw [Action.run_bind_error hquery]
      exact h
    | some columns =>
      rw [hcolumns] at hquery
      rw [Action.run_bind_ok hquery]
      split
      · rename_i row hrow
        -- The row shows a column that a statement declared, so its type has no comma to split at.
        obtain ⟨c, hc, rfl⟩ := List.mem_map.1 (List.mem_of_find?_eq_some hrow)
        obtain ⟨clause, hread, hclause⟩ := read_renameColumn db.ledgerTable table old new
          (unseparated_definitionOfRow c.1 (h.types table columns hcolumns c hc))
        refine leadsTo_statement h hread fun h' => leadsTo_alter h' table fun columns hcolumns => ?_
        show (Memory.replaceColumn (String.ofList old.toList) (String.ofList new.toList,
            String.ofList clause) columns).map Prod.fst = _ ∧
          TypesWhole (Memory.replaceColumn _ _ columns)
        rw [map_replaceColumn, String.ofList_toList, String.ofList_toList]
        refine ⟨rfl, fun d hd => ?_⟩
        rcases mem_replaceColumn hd with rfl | hd
        · rw [String.toList_ofList]
          exact hclause
        · exact hcolumns d hd
      · exact h

theorem table_ofDeclarations (table : String) (ds : List Declaration) :
    (Blueprint.ofDeclarations table ds).table = table := by
  have hdeclare : ∀ (b : Blueprint) (d : Declaration), (b.declare d).table = b.table := by
    intro b d
    cases d <;> rfl
  have hfold : ∀ (ds : List Declaration) (b : Blueprint),
      (ds.foldl Blueprint.declare b).table = b.table := by
    intro ds
    induction ds with
    | nil => exact fun _ => rfl
    | cons d ds ih => exact fun b => (ih (b.declare d)).trans (hdeclare b d)
  exact hfold ds (Blueprint.empty table)

/-- A call leads to the layout that it says, or fails and leaves the one that was. -/
theorem leadsTo_call (h : Follows start m db) {call : Operation} (hcall : call.Tracked start) :
    ∃ act : Action Memory Unit, call.run = done act ∧
      LeadsTo start m (call.appliedTo m) (act.run db) := by
  cases call with
  | create table ds =>
    have hleads := leadsTo_createTable h hcall.2
    rw [table_ofDeclarations] at hleads
    exact ⟨createTable (Blueprint.ofDeclarations table ds), by rw [Operation.run], hleads⟩
  | drop table =>
    exact ⟨dropTable table, by rw [Operation.run],
      leadsTo_statement h (read_dropTable _ table) fun h' => leadsTo_drop h' false table hcall⟩
  | dropIfExists table =>
    exact ⟨dropTableIfExists table, by rw [Operation.run],
      leadsTo_statement h (read_dropTableIfExists _ table) fun h' => leadsTo_drop h' true table hcall⟩
  | rename old new =>
    exact ⟨renameTable old new, by rw [Operation.run],
      leadsTo_statement h (read_renameTable _ old new) fun h' => leadsTo_rename h' old new⟩
  | dropColumns table dropped =>
    exact ⟨Schema.dropColumns table dropped, by rw [Operation.run],
      leadsTo_dropColumns h table dropped⟩
  | renameColumn table old new =>
    exact ⟨Schema.renameColumn table old new, by rw [Operation.run],
      leadsTo_renameColumn h old new hcall⟩
  | _ => exact absurd hcall id

/-- A call whose failure is caught ends somehow, and the layout is that after this end. -/
theorem follows_call (h : Follows start m db) {call : Operation} (hcall : call.Tracked start) :
    ∃ o db', (tryCatch (call.run : Action Memory Outcome) fun e => pure (.failed e)).run db =
      (.ok o, db') ∧ Follows start (layoutAfterCall m call o) db' := by
  obtain ⟨act, hact, hleads⟩ := leadsTo_call h hcall
  rw [Action.run_tryCatch, hact, done]
  cases hend : act.run db with
  | mk r db' =>
    rw [hend] at hleads
    cases r with
    | ok _ =>
      rw [Action.run_bind_ok hend]
      exact ⟨.done, db', rfl, hleads⟩
    | error e =>
      rw [Action.run_bind_error hend]
      exact ⟨.failed e, db', rfl, hleads⟩

/-- By induction on the calls: the layout is that after their ends. -/
theorem follows_runEach (calls : List Operation) (hcalls : ∀ call ∈ calls, call.Tracked start)
    (h : Follows start m db) :
    ∃ outcomes db', (runEach calls : Action Memory (List Outcome)).run db = (.ok outcomes, db') ∧
      outcomes.length = calls.length ∧ Follows start (layoutAfter m calls outcomes) db' := by
  induction calls generalizing m db with
  | nil => exact ⟨[], db, by rw [runEach]; rfl, rfl, h⟩
  | cons call calls ih =>
    obtain ⟨hcall, hrest⟩ := List.forall_mem_cons.1 hcalls
    obtain ⟨o, db₁, hrun, hfollows⟩ := follows_call h hcall
    obtain ⟨outcomes, db', hrunEach, hlength, hafter⟩ := ih hrest hfollows
    refine ⟨o :: outcomes, db', ?_, ?_, hafter⟩
    · rw [runEach, Action.run_bind_ok hrun, Action.run_bind_ok hrunEach]
      rfl
    · rw [List.length_cons, List.length_cons, hlength]

/-! ## Names of tables -/

/-- The names of all tables are those that statements created and those that are described. -/
theorem mem_tableNames_iff {table : String} :
    table ∈ db.tableNames ↔
      (db.tables.get? table).isSome = true ∨ db.catalog.contains table = true := by
  rw [Memory.tableNames, NameMap.mem_keys_foldl_insert, NameMap.mem_keys_foldl_insert,
    NameMap.mem_keys_iff, NameMap.mem_keys_iff, NameMap.contains]
  simp [NameMap.keys_empty, or_comm]

/-! ## The whole run -/

/-- Calls on tables that nothing describes, one after the other, whether or not the one before
failed: the tables that the database knows, and their columns in order, are those that the
calls which succeeded say. -/
theorem tables_tracked {db : Memory} (hempty : db.tables = ∅) {calls : List Operation}
    (hcalls : ∀ call ∈ calls, call.Tracked db) :
    ∃ outcomes db', (runEach calls : Action Memory (List Outcome)).run db = (.ok outcomes, db') ∧
      outcomes.length = calls.length ∧
      ∀ table,
        (table ∈ db'.tableNames ↔
          (layoutAfter (fun _ => none) calls outcomes table).isSome = true ∨
            db.catalog.contains table = true) ∧
        db'.tableColumns table = (layoutAfter (fun _ => none) calls outcomes table).getD [] := by
  have hstart : Follows db (fun _ => none) db :=
    ⟨rfl, rfl, fun table => by rw [hempty]; rfl, fun table columns hcolumns => by
      rw [hempty] at hcolumns
      cases hcolumns⟩
  obtain ⟨outcomes, db', hrun, hlength, hfollows⟩ := follows_runEach calls hcalls hstart
  refine ⟨outcomes, db', hrun, hlength, fun table => ⟨?_, ?_⟩⟩
  · rw [mem_tableNames_iff, hfollows.catalog, ← hfollows.names, Option.isSome_map]
  · rw [← hfollows.names, Memory.tableColumns]
    cases db'.tables.get? table with
    | none => rfl
    | some columns => rfl

/-- Declarations whose texts hold what separates clauses and ends quotes. -/
def oddDeclarations : List Declaration :=
  [.column "a\x60,(" (.enum ["x,y", "it's \\"]), .column "d" .integer,
    .default (.expression "f(',')"), .tableComment "')"]

/-- Calls on a table with these declarations; the third fails. -/
def oddCalls : List Operation :=
  [.create "t\x60" oddDeclarations, .renameColumn "t\x60" "a\x60,(" "b,",
    .drop "t", .dropColumns "t\x60" ["d"], .rename "t\x60" "u"]

theorem wellQuoted_oddDeclarations (table : String) :
    (Blueprint.ofDeclarations table oddDeclarations).WellQuoted where
  engine := (by decide : IsPlain defaultEngine)
  charset := (by decide : IsPlain defaultCharset)
  collation := (by decide : IsPlain defaultCollation)
  defaults c hc e he := by
    have hchars : "f(',')".toList = 'f' :: ('(' :: (['\''] ++ [','] ++ ['\'']) ++ [')']) := by
      decide +kernel
    have hliteral : Balanced ('\'' :: [','] ++ '\'' :: []) :=
      .literal (.char (by decide) (by decide) .nil) .nil
    rcases List.mem_cons.1 hc with rfl | hc
    · cases he
    · obtain rfl := List.mem_singleton.1 hc
      cases he
      rw [hchars]
      exact .char (by decide) (.parens hliteral .nil)

theorem tracked_oddCalls : ∀ call ∈ oddCalls, call.Tracked (Memory.empty "migrations") := by
  have hundescribed : ∀ table, Undescribed (Memory.empty "migrations") table := fun _ => ⟨rfl, rfl⟩
  simp only [oddCalls, List.forall_mem_cons, Operation.Tracked]
  exact ⟨⟨hundescribed _, wellQuoted_oddDeclarations _⟩, hundescribed _, hundescribed _,
    hundescribed _, ⟨hundescribed _, hundescribed _⟩, fun _ h => absurd h List.not_mem_nil⟩

/-- With odd texts, too, the database ends with the one table that was renamed, and the one
column in it. -/
theorem tables_tracked_odd :
    (∃ outcomes db', (runEach oddCalls : Action Memory (List Outcome)).run
        (Memory.empty "migrations") = (.ok outcomes, db') ∧
      outcomes.length = oddCalls.length ∧
      ∀ table,
        (table ∈ db'.tableNames ↔
          (layoutAfter (fun _ => none) oddCalls outcomes table).isSome = true ∨
            (Memory.empty "migrations").catalog.contains table = true) ∧
        db'.tableColumns table = (layoutAfter (fun _ => none) oddCalls outcomes table).getD []) ∧
    (((runEach oddCalls : Action Memory (List Outcome)).run
      (Memory.empty "migrations")).2.tables.entries.map fun t => (t.1, t.2.map Prod.fst)) =
      [("u", ["b,"])] :=
  ⟨tables_tracked rfl tracked_oddCalls, by decide +kernel⟩

end SchemaMigration.Schema
