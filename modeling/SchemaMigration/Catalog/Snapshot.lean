import SchemaMigration.Catalog.Reading
import SchemaMigration.Table.Blueprint

/-
  Snapshots: the structure of one table at one time.
-/
namespace SchemaMigration.Catalog

open Text Sql Table

/-- The options of a table, as far as the catalog gives them. -/
structure TableOptions where
  engine : Option String := none
  charset : Option String := none
  collation : Option String := none
  comment : Option String := none
  deriving DecidableEq, Repr

namespace TableOptions

/-- The options that a row gives. -/
def ofRow (row : Row) : TableOptions :=
  ⟨row.text? "engine", row.text? "charset", row.text? "collation", row.text? "comment"⟩

/-- The value of an option, if it differs from the default by more than letter
case. -/
def differing (value : Option String) (default : String) : Option String :=
  value.filter fun v => !sameName v default

def engineOverride (o : TableOptions) : Option String := differing o.engine defaultEngine

def charsetOverride (o : TableOptions) : Option String := differing o.charset defaultCharset

def collationOverride (o : TableOptions) : Option String := differing o.collation defaultCollation

/-- The comment of a table, unless empty. -/
def commentOverride (o : TableOptions) : Option String := o.comment.filter (· ≠ "")

end TableOptions

/-- The structure of a table. -/
structure Snapshot where
  table : String
  columns : List InspectedColumn
  indexes : List Index
  foreignKeys : List ForeignKey
  options : TableOptions
  deriving DecidableEq, Repr

namespace Snapshot

/-- The first column of a name. -/
def column? (s : Snapshot) (name : String) : Option Column :=
  (s.columns.map (·.column)).find? (·.name = name)

/-- The first primary key. -/
def primaryKey? (s : Snapshot) : Option Index := s.indexes.find? (·.kind = .primary)

/-- The other tables that the table refers to, sorted, each once. -/
def referencedTables (s : Snapshot) : List String :=
  (((s.foreignKeys.map (·.referencesTable)).filter (· ≠ s.table)).eraseDups).mergeSort
    fun a b => decide (a ≤ b)

end Snapshot

end SchemaMigration.Catalog
