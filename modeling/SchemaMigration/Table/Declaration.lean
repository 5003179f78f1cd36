import SchemaMigration.Table.Blueprint

/-
  Declarations: the vocabulary in which a blueprint is filled.

  A declaration is one call of the fluent interface, a foreign key together
  with the clauses chained to it. `Blueprint.declare` is what it does.
-/
namespace SchemaMigration.Table

/-- A clause chained to a foreign key. -/
inductive ForeignClause where
  | references (columns : List String)
  | on (table : String)
  | named (name : String)
  | onDelete (action : ReferentialAction)
  | onUpdate (action : ReferentialAction)
  | cascadeOnDelete
  | cascadeOnUpdate
  | nullOnDelete
  deriving DecidableEq, Repr

/-- The foreign key after a clause. -/
def ForeignClause.apply (fk : ForeignKey) : ForeignClause → ForeignKey
  | references columns => { fk with referencesColumns := columns }
  | on table => { fk with referencesTable := table }
  | named name => { fk with name }
  | onDelete action => { fk with onDelete := action }
  | onUpdate action => { fk with onUpdate := action }
  | cascadeOnDelete => { fk with onDelete := .cascade }
  | cascadeOnUpdate => { fk with onUpdate := .cascade }
  | nullOnDelete => { fk with onDelete := .setNull }

/-- One call on a blueprint. -/
inductive Declaration where
  | column (name : String) (type : ColumnType)
  | id (name : String)
  | increments (name : String)
  | timestamps
  | softDeletes
  | nullable
  | default (value : DefaultValue)
  | unsigned
  | autoIncrement
  | useCurrent
  | useCurrentOnUpdate
  | comment (text : String)
  | precision (p : UInt32)
  | after (column : String)
  | primary (columns : List String)
  | unique (name : Option String) (columns : List String)
  | index (name : Option String) (columns : List String)
  | foreign (columns : List String) (clauses : List ForeignClause)
  | engine (name : String)
  | charset (name : String)
  | collation (name : String)
  | tableComment (text : String)
  deriving DecidableEq, Repr

namespace Blueprint

/-- The blueprint after a declaration. -/
def declare (b : Blueprint) : Declaration → Blueprint
  | .column name type => b.column name type
  | .id name => b.keyColumn name .bigInteger
  | .increments name => b.keyColumn name .integer
  | .timestamps => b.timestamps
  | .softDeletes => b.softDeletes
  | .nullable => b.modify fun c => { c with nullable := true }
  | .default value => b.modify fun c => { c with default := some value }
  | .unsigned => b.modify fun c => { c with unsigned := true }
  | .autoIncrement => b.modify fun c => { c with autoIncrement := true }
  | .useCurrent => b.modify fun c => { c with default := some .currentTimestamp }
  | .useCurrentOnUpdate => b.modify fun c => { c with onUpdateCurrentTimestamp := true }
  | .comment text => b.modify fun c => { c with comment := some text }
  | .precision p => b.modify fun c => { c with type := setPrecision p c.type }
  | .after column => b.modify fun c => { c with after := some column }
  | .primary columns => b.addIndex .primary none columns
  | .unique name columns => b.addIndex .unique name columns
  | .index name columns => b.addIndex .index name columns
  | .foreign columns clauses =>
    b.addForeignKey (clauses.foldl ForeignClause.apply (b.startForeignKey columns))
  | .engine name => { b with engine := name }
  | .charset name => { b with charset := name }
  | .collation name => { b with collation := name }
  | .tableComment text => { b with comment := some text }

/-- The blueprint of a table after declarations in order. -/
def ofDeclarations (table : String) (ds : List Declaration) : Blueprint :=
  ds.foldl declare (empty table)

end Blueprint

end SchemaMigration.Table
