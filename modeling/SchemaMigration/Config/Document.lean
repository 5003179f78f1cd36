import SchemaMigration.Config.Document.Value

/-
  Configuration documents.

  A document binds keys to values, one `key = value` after another, below
  headings `[table]` and `[[list of tables]]`. A comment starts at `#`. A setting
  is what a key of the document's own table is bound to; of lists and tables only
  their form is read.
-/
namespace SchemaMigration.Config

open Text

namespace Document

/-- What has been read of a document: the heading that keys are below, and the
items. -/
structure Reading where
  heading : List String := []
  items : Items := []

/-- What is read of one heading or binding, with the rest. -/
def readEntry? (r : Reading) (cs : List Char) : Option (Reading × List Char) :=
  match cs with
  | '[' :: '[' :: rest => do
    let (key, rest) ← readKey? rest
    return (⟨key, ← r.items.openNext? key⟩, ← afterLine? (← after? "]]".toList rest))
  | '[' :: rest => do
    let (key, rest) ← readKey? rest
    return (⟨key, ← r.items.openTable? key⟩, ← afterLine? (← after? [']'] rest))
  | rest => do
    let (key, rest) ← readKey? rest
    let (s, rest) ← readValue? (rest.length + 1) deepest (← afterEquals? rest)
    return ({ r with items := ← r.items.bindBelow? r.heading key s }, ← afterLine? rest)

/-- What is read of a document. -/
def readEntries? : Nat → Reading → List Char → Option Reading
  | _, r, [] => some r
  | 0, _, _ => none
  | fuel + 1, r, cs =>
    match afterLine? cs with
    | some rest => readEntries? fuel r rest
    | none => do
      let (r, rest) ← readEntry? r (skipGap cs)
      readEntries? fuel r rest

/-- A text without the byte order mark it may start with. -/
def dropMark : List Char → List Char
  | c :: cs => if c.toNat = 0xFEFF then cs else c :: cs
  | [] => []

/-- The settings that a document binds; `none` if the text is no document. -/
def bindings? (text : String) : Option Bindings :=
  let cs := dropMark text.toList
  (readEntries? (cs.length + 1) {} cs).map fun r => r.items.map bindingOf

end Document

end SchemaMigration.Config
