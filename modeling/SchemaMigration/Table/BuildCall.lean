import SchemaMigration.Table.Declaration

/-
  Build calls: a table described by as few calls as possible.

  A build call stands for a column with all its modifiers, for an index, for a
  complete foreign key or for a table option. `declarations` spells it out in
  the vocabulary of blueprints, `Blueprint.ofCalls` replays a list of calls.
-/
namespace SchemaMigration.Table

/-- The two forms of a key column: wide and plain. -/
inductive KeyForm where
  | id
  | increments
  deriving DecidableEq, Repr

/-- A modifier of a column. -/
inductive Modifier where
  | unsigned
  | autoIncrement
  | nullable
  | default (value : DefaultValue)
  | useCurrentOnUpdate
  | comment (text : String)
  deriving DecidableEq, Repr

/-- One call of a table's description. -/
inductive BuildCall where
  | key (form : KeyForm) (name : String)
  | column (name : String) (type : ColumnType) (modifiers : List Modifier)
  | timestamps
  | softDeletes
  | index (kind : IndexKind) (name : Option String) (columns : List String)
  | foreign (name : Option String) (columns : List String) (referencesTable : String)
      (referencesColumns : List String) (onDelete onUpdate : ReferentialAction)
  | engine (name : String)
  | charset (name : String)
  | collation (name : String)
  | tableComment (text : String)
  deriving DecidableEq, Repr

/-- The declaration that a modifier is. -/
def Modifier.declaration : Modifier → Declaration
  | unsigned => .unsigned
  | autoIncrement => .autoIncrement
  | nullable => .nullable
  | default value => .default value
  | useCurrentOnUpdate => .useCurrentOnUpdate
  | comment text => .comment text

/-- The declarations that a build call stands for. The name of a primary key is
fixed, so one that is given has no effect. -/
def BuildCall.declarations : BuildCall → List Declaration
  | key .id name => [.id name]
  | key .increments name => [.increments name]
  | column name type modifiers => .column name type :: modifiers.map Modifier.declaration
  | timestamps => [.timestamps]
  | softDeletes => [.softDeletes]
  | index .primary _ columns => [.primary columns]
  | index .unique name columns => [.unique name columns]
  | index .index name columns => [.index name columns]
  | foreign name columns table referenced onDelete onUpdate =>
    [.foreign columns ([.references referenced, .on table, .onDelete onDelete,
      .onUpdate onUpdate] ++ name.toList.map .named)]
  | engine name => [.engine name]
  | charset name => [.charset name]
  | collation name => [.collation name]
  | tableComment text => [.tableComment text]

namespace Blueprint

/-- The blueprint after a build call. -/
def build (b : Blueprint) (c : BuildCall) : Blueprint := c.declarations.foldl declare b

/-- The blueprint of a table after build calls in order. -/
def ofCalls (table : String) (calls : List BuildCall) : Blueprint :=
  calls.foldl build (empty table)

end Blueprint

end SchemaMigration.Table
