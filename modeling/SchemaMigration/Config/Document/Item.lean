import SchemaMigration.Config.Setting

/-
  Tables of documents.

  A table comes from a heading, from a heading of a table inside it, or from keys
  with dots, and where it comes from decides what may be added to it: a heading
  adds to a table that only deeper headings have made, and keys with dots add to
  tables that keys with dots have made. Nothing is bound twice, and a value is
  entered by nobody.
-/
namespace SchemaMigration.Config.Document

/-- Where a table comes from. -/
inductive Origin where
  | heading
  /-- From a heading of a table inside it. -/
  | implied
  /-- From keys with dots. -/
  | dotted
  deriving DecidableEq, Repr

/-- What a key is bound to. -/
inductive Item where
  | value (s : Setting)
  | table (origin : Origin) (items : List (String × Item))
  /-- A list of tables, of which the last is kept. -/
  | series (last : List (String × Item))

/-- The items of a table by key. -/
abbrev Items := List (String × Item)

namespace Items

/-- The items with another one under a key, in its place if the key has one. -/
def put (key : String) (item : Item) : Items → Items
  | [] => [(key, item)]
  | (k, old) :: rest => if k = key then (k, item) :: rest else (k, old) :: put key item rest

/-- Changes the items at the end of a path that goes through the tables of a
document. Where the path has no table yet there will be one of the given origin;
keys with dots do not enter a table with a heading of its own. -/
def change? (origin : Origin) (act : Origin → Items → Option Items) :
    List String → Origin → Items → Option Items
  | [], here, items => act here items
  | key :: path, _, items =>
    match items.lookup key with
    | none => (change? origin act path origin []).map fun sub => items.put key (.table origin sub)
    | some (.value _) => none
    | some (.table here sub) =>
      if origin = .dotted ∧ here = .heading then none
      else (change? origin act path here sub).map fun sub => items.put key (.table here sub)
    | some (.series last) => (change? origin act path .heading last).map fun last =>
      items.put key (.series last)

/-- Binds the last of the names of a key with dots, in a table with a heading. -/
def bind? (key : List String) (s : Setting) (items : Items) : Option Items :=
  let path := key.dropLast
  let add (here : Origin) (items : Items) : Option Items :=
    key.getLast?.bind fun name =>
      if (here == .dotted) == path.isEmpty || (items.lookup name).isSome then none
      else some (items.put name (.value s))
  change? .dotted add path .heading items

/-- Opens the table of a heading. -/
def openTable? (key : List String) (items : Items) : Option Items :=
  let enter (_ : Origin) (items : Items) : Option Items :=
    key.getLast?.bind fun name =>
      match items.lookup name with
      | none => some (items.put name (.table .heading []))
      | some (.table .implied sub) => some (items.put name (.table .heading sub))
      | some _ => none
  change? .implied enter key.dropLast .heading items

/-- Opens the next table of a list of tables. -/
def openNext? (key : List String) (items : Items) : Option Items :=
  let enter (_ : Origin) (items : Items) : Option Items :=
    key.getLast?.bind fun name =>
      match items.lookup name with
      | none | some (.series _) => some (items.put name (.series []))
      | some _ => none
  change? .implied enter key.dropLast .heading items

/-- Binds a key below a heading. -/
def bindBelow? (heading key : List String) (s : Setting) (items : Items) : Option Items :=
  change? .implied (fun _ => bind? key s) heading .heading items

end Items

/-- The binding that an item of a document makes. -/
def bindingOf : String × Item → String × Setting
  | (key, .value s) => Bindings.ofKey key s
  | (key, .table _ []) => Bindings.ofKey key .emptyTable
  | (key, _) => Bindings.ofKey key .composite

end SchemaMigration.Config.Document
