import SchemaMigration.Catalog.Snapshot
import SchemaMigration.Table.BuildCall

/-
  From the structure of a table to the calls that describe it.

  Columns come first, then indexes, foreign keys and options. Usual columns
  have short forms: a counting key, the pair of creation and update times, and
  the deletion mark. What the defaults would give again is left out: default
  names, options, and the index that a foreign key brings with it.
-/
namespace SchemaMigration.Catalog

open Table

/-- The short form that declares a column as it is, if there is one. -/
def keyForm? (c : Column) : Option KeyForm :=
  if c.unsigned && c.autoIncrement && !c.nullable && c.default.isNone &&
      !c.onUpdateCurrentTimestamp && c.comment.isNone then
    match c.type with
    | .bigInteger => some .id
    | .integer => some .increments
    | _ => none
  else none

/-- The column of the primary key with its short form, if the key is one column
that has one. -/
def Snapshot.keyColumn? (s : Snapshot) : Option (String × KeyForm) :=
  match s.primaryKey?.map (·.columns) with
  | some [only] => ((s.column? only).bind keyForm?).map fun form => (only, form)
  | _ => none

/-- Whether a column is a nullable timestamp of a name and nothing more. -/
def isPlainTimestamp (name : String) (c : Column) : Bool :=
  c.name == name && c.type == .timestamp 0 && c.nullable &&
    (c.default == none || c.default == some .null) &&
    !c.onUpdateCurrentTimestamp && !c.autoIncrement && c.comment.isNone

/-- The modifiers that give a column its attributes. Null is the default of a
nullable column anyway. -/
def modifiersOf (c : Column) : List Modifier :=
  (if c.unsigned && c.type.acceptsUnsigned then [.unsigned] else []) ++
  (if c.autoIncrement then [.autoIncrement] else []) ++
  (if c.nullable then [.nullable] else []) ++
  (match c.default with
    | some .null => if c.nullable then [] else [.default .null]
    | some value => [.default value]
    | none => []) ++
  (if c.onUpdateCurrentTimestamp then [.useCurrentOnUpdate] else []) ++
  c.comment.toList.map .comment

/-- The call for one column. -/
def columnCall (key : Option (String × KeyForm)) (c : Column) : BuildCall :=
  match key.filter (·.1 == c.name) with
  | some (name, form) => .key form name
  | none =>
    if isPlainTimestamp "deleted_at" c then .softDeletes
    else .column c.name c.type (modifiersOf c)

/-- The calls for the columns; two neighbours that hold the times of creation
and update share one. -/
def columnCalls (key : Option (String × KeyForm)) : List Column → List BuildCall
  | [] => []
  | [c] => [columnCall key c]
  | c :: d :: rest =>
    if !key.any (·.1 == c.name) && isPlainTimestamp "created_at" c &&
        isPlainTimestamp "updated_at" d then
      .timestamps :: columnCalls key rest
    else columnCall key c :: columnCalls key (d :: rest)

/-- Whether an index is the one that a foreign key brings with it. -/
def isForeignKeyIndex (fks : List ForeignKey) (i : Index) : Bool :=
  i.kind == .index && fks.any fun fk => fk.name == i.name && fk.columns == i.columns

/-- A name, unless it is the default. -/
def unlessDefault (name default : String) : Option String :=
  if name = default then none else some name

def indexCall (table : String) (i : Index) : BuildCall :=
  .index i.kind
    (if i.kind = .primary then none
      else unlessDefault i.name (Index.defaultName table i.kind i.columns))
    i.columns

def foreignKeyCall (table : String) (fk : ForeignKey) : BuildCall :=
  .foreign (unlessDefault fk.name (ForeignKey.defaultName table fk.columns)) fk.columns
    fk.referencesTable fk.referencesColumns fk.onDelete fk.onUpdate

/-- The calls for the options that differ from the defaults. -/
def optionCalls (o : TableOptions) : List BuildCall :=
  o.engineOverride.toList.map .engine ++ o.charsetOverride.toList.map .charset ++
    o.collationOverride.toList.map .collation ++ o.commentOverride.toList.map .tableComment

/-- The calls that describe a table. -/
def Snapshot.calls (s : Snapshot) : List BuildCall :=
  let key := s.keyColumn?
  let indexes := s.indexes.filter fun i =>
    !(i.kind == .primary && key.isSome) && !isForeignKeyIndex s.foreignKeys i
  columnCalls key (s.columns.map (·.column)) ++ indexes.map (indexCall s.table) ++
    s.foreignKeys.map (foreignKeyCall s.table) ++ optionCalls s.options

end SchemaMigration.Catalog
