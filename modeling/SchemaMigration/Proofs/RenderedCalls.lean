import SchemaMigration.Proofs.CallReading

/-
  What the rendered calls do.

  The text of a build call is source that declares. To run it is to read it back and to
  make its method calls in the order written, each on what the one before returns: the
  blueprint itself, or the foreign key that has been started. The methods are those of
  blueprints and of foreign keys, by name, whether or not a build call is rendered with
  them; which of them are rendered is not looked at.

  Main statement: `run?_renderCall`.
-/
namespace SchemaMigration.Source

open Text Table

/-! ## Methods -/

/-- The declarations of methods without arguments. -/
def bareMethods : List (String × Declaration) :=
  [("timestamps", .timestamps), ("soft_deletes", .softDeletes), ("nullable", .nullable),
    ("unsigned", .unsigned), ("auto_increment", .autoIncrement), ("use_current", .useCurrent),
    ("use_current_on_update", .useCurrentOnUpdate)]

/-- The types of the columns that are declared by a name. -/
def columnTypes : List (String × ColumnType) :=
  [("tiny_integer", .tinyInteger), ("small_integer", .smallInteger),
    ("medium_integer", .mediumInteger), ("integer", .integer), ("big_integer", .bigInteger),
    ("float", .float), ("double", .double), ("text", .text), ("medium_text", .mediumText),
    ("long_text", .longText), ("date", .date), ("date_time", .dateTime 0),
    ("timestamp", .timestamp 0), ("time", .time 0), ("year", .year), ("json", .json),
    ("boolean", .boolean)]

/-- The declarations of methods with one text, columns apart. -/
def textMethods : List (String × (String → Declaration)) :=
  [("id", .id), ("increments", .increments), ("comment", .comment), ("after", .after),
    ("engine", .engine), ("charset", .charset), ("collation", .collation),
    ("table_comment", .tableComment)]

/-- The types of the columns that are declared by a name and a length. -/
def lengthTypes : List (String × (UInt32 → ColumnType)) := [("char", .char), ("string", .string)]

/-- The declarations of methods with a list of columns. -/
def listMethods : List (String × (List String → Declaration)) :=
  [("primary", .primary), ("unique", .unique none), ("index", .index none)]

/-- The declarations of methods with a name and a list. -/
def namedListMethods : List (String × (String → List String → Declaration)) :=
  [("enumeration", fun name values => .column name (.enum values)),
    ("unique_named", fun name => .unique (some name)),
    ("index_named", fun name => .index (some name))]

/-- The default that an argument gives. -/
def defaultOf? : Argument → Option DefaultValue
  | .text s => some (.string s)
  | .number n => some (.ofInt n.toNat)
  | .flag b => some (.bool b)
  | .member "DefaultValue" "Null" => some .null
  | .member "DefaultValue" "CurrentTimestamp" => some .currentTimestamp
  | .made "DefaultValue" "numeric" n => some (.numeric n)
  | .made "DefaultValue" "expression" e => some (.expression e)
  | _ => none

/-- The action that an argument names. -/
def actionOf? : Argument → Option ReferentialAction
  | .member "ReferentialAction" "Restrict" => some .restrict
  | .member "ReferentialAction" "Cascade" => some .cascade
  | .member "ReferentialAction" "SetNull" => some .setNull
  | .member "ReferentialAction" "NoAction" => some .noAction
  | _ => none

/-- What a method of a blueprint declares. -/
def declarationOf? : MethodCall → Option Declaration
  | ⟨"default", [a]⟩ => (defaultOf? a).map .default
  | ⟨"precision", [.number p]⟩ => some (.precision p)
  | ⟨"decimal", [.text name, .number p, .number s]⟩ => some (.column name (.decimal p s))
  | ⟨method, []⟩ => bareMethods.lookup method
  | ⟨method, [.text s]⟩ =>
    ((columnTypes.lookup method).map (.column s)).or ((textMethods.lookup method).map (· s))
  | ⟨method, [.text name, .number n]⟩ =>
    (lengthTypes.lookup method).map fun type => .column name (type n)
  | ⟨method, [.texts l]⟩ => (listMethods.lookup method).map (· l)
  | ⟨method, [.text name, .texts l]⟩ => (namedListMethods.lookup method).map (· name l)
  | _ => none

/-- What a method of a foreign key says of it. -/
def clauseOf? : MethodCall → Option ForeignClause
  | ⟨"references", [.texts columns]⟩ => some (.references columns)
  | ⟨"on", [.text table]⟩ => some (.on table)
  | ⟨"named", [.text name]⟩ => some (.named name)
  | ⟨"on_delete", [a]⟩ => (actionOf? a).map .onDelete
  | ⟨"on_update", [a]⟩ => (actionOf? a).map .onUpdate
  | ⟨"cascade_on_delete", []⟩ => some .cascadeOnDelete
  | ⟨"cascade_on_update", []⟩ => some .cascadeOnUpdate
  | ⟨"null_on_delete", []⟩ => some .nullOnDelete
  | _ => none

/-- The columns of the foreign key that a method starts. -/
def startOf? : MethodCall → Option (List String)
  | ⟨"foreign", [.texts columns]⟩ => some columns
  | _ => none

/-! ## Chains -/

/-- What a chain of methods is called on. -/
inductive Receiver where
  | table (b : Blueprint)
  /-- A foreign key of the table, started last. -/
  | foreignKey (b : Blueprint) (fk : ForeignKey)

namespace Receiver

/-- What a method returns; nothing if there is no such method. -/
def call : Receiver → MethodCall → Option Receiver
  | table b, m =>
    ((declarationOf? m).map fun d => table (b.declare d)).or
      ((startOf? m).map fun columns => foreignKey b (b.startForeignKey columns))
  | foreignKey b fk, m => (clauseOf? m).map fun c => foreignKey b (c.apply fk)

/-- The blueprint with what has been called on it. -/
def blueprint : Receiver → Blueprint
  | table b => b
  | foreignKey b fk => b.addForeignKey fk

end Receiver

/-- The blueprint after a chain of methods called on it. -/
def perform? (b : Blueprint) (ms : List MethodCall) : Option Blueprint :=
  (ms.foldlM Receiver.call (.table b)).map Receiver.blueprint

/-- The blueprint after source text has been run on it. -/
def run? (b : Blueprint) (s : String) : Option Blueprint := (readCall? s).bind (perform? b)

/-! ## Columns -/

theorem call_of_declarationOf? {m : MethodCall} {d : Declaration} (h : declarationOf? m = some d)
    (b : Blueprint) : Receiver.call (.table b) m = some (.table (b.declare d)) := by
  rw [Receiver.call, h]
  rfl

/-- A column declared without a precision, which is then given, is declared with it. -/
theorem declare_precision (b : Blueprint) (name : String) (type : ColumnType) (p : UInt32) :
    (b.column name type).declare (.precision p) =
      b.column name (Blueprint.setPrecision p type) := by
  rw [Blueprint.declare, Blueprint.column, Blueprint.modify, Blueprint.addColumn,
    Blueprint.modifyLast_append]
  rfl

theorem foldlM_timeMethods {method : String} {type : UInt32 → ColumnType}
    (hmethod : ∀ name, declarationOf? ⟨method, [.text name]⟩ = some (.column name (type 0)))
    (htype : ∀ p q, Blueprint.setPrecision p (type q) = type p) (b : Blueprint) (name : String)
    (p : UInt32) : (timeMethods method name p).foldlM Receiver.call (.table b) =
      some (.table (b.column name (type p))) := by
  have hname : Receiver.call (.table b) ⟨method, [.text name]⟩ =
      some (.table (b.column name (type 0))) := call_of_declarationOf? (hmethod name) b
  have hprecision : Receiver.call (.table (b.column name (type 0))) ⟨"precision", [.number p]⟩ =
      some (.table (b.column name (type p))) := by
    rw [call_of_declarationOf? rfl, declare_precision, htype]
  rw [timeMethods, List.foldlM_cons, hname]
  by_cases hp : p = 0
  · rw [if_pos hp, hp]
    rfl
  · rw [if_neg hp]
    simpa using hprecision

theorem foldlM_columnMethods (b : Blueprint) (name : String) (type : ColumnType) :
    (columnMethods name type).foldlM Receiver.call (.table b) =
      some (.table (b.column name type)) := by
  cases type with
  | dateTime p => exact foldlM_timeMethods (fun _ => rfl) (fun _ _ => rfl) b name p
  | timestamp p => exact foldlM_timeMethods (fun _ => rfl) (fun _ _ => rfl) b name p
  | time p => exact foldlM_timeMethods (fun _ => rfl) (fun _ _ => rfl) b name p
  | _ => rfl

theorem call_modifierMethod (b : Blueprint) (x : Modifier) :
    Receiver.call (.table b) (modifierMethod x) = some (.table (b.declare x.declaration)) := by
  cases x with
  | default value => cases value <;> rfl
  | _ => rfl

theorem foldlM_modifierMethods (b : Blueprint) (xs : List Modifier) :
    (xs.map modifierMethod).foldlM Receiver.call (.table b) =
      some (.table ((xs.map Modifier.declaration).foldl Blueprint.declare b)) := by
  induction xs generalizing b with
  | nil => rfl
  | cons x xs ih =>
    rw [List.map_cons, List.foldlM_cons, call_modifierMethod]
    exact ih (b.declare x.declaration)

/-! ## Foreign keys -/

/-- The foreign key of a build call. -/
def foreignKeyOf (b : Blueprint) (name : Option String) (columns : List String) (table : String)
    (referenced : List String) (onDelete onUpdate : ReferentialAction) : ForeignKey :=
  ⟨name.getD (b.startForeignKey columns).name, columns, table, referenced, onDelete, onUpdate⟩

theorem build_foreign (b : Blueprint) (name : Option String) (columns : List String)
    (table : String) (referenced : List String) (onDelete onUpdate : ReferentialAction) :
    b.build (.foreign name columns table referenced onDelete onUpdate) =
      b.addForeignKey (foreignKeyOf b name columns table referenced onDelete onUpdate) := by
  cases name <;> rfl

/-- The foreign key is known in full when its last method returns; until then an action
that has not been given restricts. -/
theorem perform?_foreign (b : Blueprint) (name : Option String) (columns : List String)
    (table : String) (referenced : List String) (onDelete onUpdate : ReferentialAction) :
    perform? b (chain (.foreign name columns table referenced onDelete onUpdate)) =
      some (b.build (.foreign name columns table referenced onDelete onUpdate)) := by
  let reached name onDelete onUpdate := Receiver.foreignKey b
    (foreignKeyOf b name columns table referenced onDelete onUpdate)
  have hstart : List.foldlM Receiver.call (.table b)
      [⟨"foreign", [.texts columns]⟩, ⟨"references", [.texts referenced]⟩, ⟨"on", [.text table]⟩] =
      some (reached none .restrict .restrict) := rfl
  have hname : (name.toList.map fun n => MethodCall.mk "named" [.text n]).foldlM Receiver.call
      (reached none .restrict .restrict) = some (reached name .restrict .restrict) := by
    cases name <;> rfl
  have hdelete : (onDeleteMethods onDelete).foldlM Receiver.call
      (reached name .restrict .restrict) = some (reached name onDelete .restrict) := by
    cases onDelete <;> rfl
  have hupdate : (onUpdateMethods onUpdate).foldlM Receiver.call
      (reached name onDelete .restrict) = some (reached name onDelete onUpdate) := by
    cases onUpdate <;> rfl
  rw [perform?, chain, List.foldlM_append, List.foldlM_append, List.foldlM_append, hstart]
  simp only [Option.bind_eq_bind, Option.bind_some, hname, hdelete, hupdate]
  rw [build_foreign]
  rfl

/-! ## Build calls -/

theorem perform?_chain (b : Blueprint) (c : BuildCall) :
    perform? b (chain c) = some (b.build c) := by
  cases c with
  | key form name => cases form <;> rfl
  | column name type modifiers =>
    rw [perform?, chain, List.foldlM_append, foldlM_columnMethods]
    simp only [Option.bind_eq_bind, Option.bind_some]
    rw [foldlM_modifierMethods]
    rfl
  | index kind name columns => cases kind <;> cases name <;> rfl
  | foreign name columns table referenced onDelete onUpdate =>
    exact perform?_foreign b name columns table referenced onDelete onUpdate
  | _ => rfl

/-- The source text of a build call, run on a blueprint, does what the build call does. -/
theorem run?_renderCall (b : Blueprint) (c : BuildCall) :
    run? b (renderCall c) = some (b.build c) := by
  rw [run?, readCall?_renderCall, Option.bind_some, perform?_chain]

end SchemaMigration.Source
