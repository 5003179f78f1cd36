import SchemaMigration.Config.Document.Item
import SchemaMigration.Config.Document.Moment
import SchemaMigration.Config.Document.Number
import SchemaMigration.Config.Document.Text

/-
  Keys and values of documents.

  A key has fewer than eighty parts, and a value has fewer than eighty lists and
  tables around it. Lists may go over lines and hold comments, inline tables may
  not. Of lists and inline tables only their form is kept.
-/
namespace SchemaMigration.Config.Document

open Text

/-- More lists and tables than these stand inside each other in no value, and no
key has more parts. -/
def deepest : Nat := 79

/-! ## Keys -/

/-- The characters of a part of a key that has no quotes. -/
def isBareChar (c : Char) : Bool := c.isAlphanum || c == '_' || c == '-'

/-- One part of a key. -/
def readKeyPart? : List Char → Option (List Char × List Char)
  | '"' :: cs => readString? 0 cs
  | '\'' :: cs => readLiteral? cs
  | cs =>
    let part := cs.takeWhile isBareChar
    if part.isEmpty then none else some (part, cs.drop part.length)

/-- A key of at most so many parts, which have dots between them. -/
def readParts? : Nat → List Char → Option (List String × List Char)
  | 0, _ => none
  | room + 1, cs => do
    let (part, rest) ← readKeyPart? (skipGap cs)
    match skipGap rest with
    | '.' :: rest =>
      let (parts, rest) ← readParts? room rest
      return (String.ofList part :: parts, rest)
    | rest => return ([String.ofList part], rest)

/-- A key, with the rest. -/
def readKey? (cs : List Char) : Option (List String × List Char) := readParts? deepest cs

/-! ## Blanks and comments -/

/-- What follows the end of a line, which may have a comment. -/
def afterLine? (cs : List Char) : Option (List Char) :=
  let cs := skipGap cs
  let cs := if cs.head? = some '#' then cs.dropWhile (!isControl ·) else cs
  if cs = [] then some [] else afterLineEnd? cs

/-- A text without the blanks, line ends and comments it starts with; `inside`
tells whether a comment is open. A control character ends it. -/
def skipFiller (inside : Bool) : List Char → List Char
  | [] => []
  | '\r' :: '\n' :: cs => skipFiller false cs
  | c :: cs =>
    if c = '\n' then skipFiller false cs
    else if inside then (if isControl c then c :: cs else skipFiller true cs)
    else if c = '#' then skipFiller true cs
    else if isGap c then skipFiller false cs
    else c :: cs

/-! ## Values -/

/-- The characters of words. -/
def isWordChar (c : Char) : Bool := c.isAlphanum || c == '_' || c == '+' || c == '-' || c == '.'

/-- What follows an equals sign. -/
def afterEquals? (cs : List Char) : Option (List Char) := (after? ['='] cs).map skipGap

/-- A value that is one text or word, with the rest. -/
def readSimple? (cs : List Char) : Option (Setting × List Char) :=
  match (readQuoted? cs).or (readMoment? cs) with
  | some (text, rest) => some (.text (String.ofList text), rest)
  | none =>
    let word := cs.takeWhile isWordChar
    (readWord? word).map fun s => (s, cs.drop word.length)

mutual

/-- A value, with the rest; `room` lists and tables may stand inside each other. -/
def readValue? : Nat → Nat → List Char → Option (Setting × List Char)
  | fuel + 1, room + 1, '[' :: cs =>
    (readElements? fuel room (skipFiller false cs)).map (.composite, ·)
  | fuel + 1, room + 1, '\x7b' :: cs =>
    match skipGap cs with
    | '\x7d' :: rest => some (.emptyTable, rest)
    | rest => (readFields? fuel room [] rest).map (.composite, ·)
  | _, _, cs => readSimple? cs

/-- What follows the elements of a list. -/
def readElements? : Nat → Nat → List Char → Option (List Char)
  | 0, _, _ => none
  | _ + 1, _, ']' :: cs => some cs
  | fuel + 1, room, cs => do
    let (_, rest) ← readValue? fuel room cs
    match skipFiller false rest with
    | ',' :: rest => readElements? fuel room (skipFiller false rest)
    | ']' :: rest => some rest
    | _ => none

/-- What follows the fields of an inline table, which has items already. -/
def readFields? : Nat → Nat → Items → List Char → Option (List Char)
  | 0, _, _, _ => none
  | fuel + 1, room, items, cs => do
    let (key, rest) ← readKey? cs
    let (s, rest) ← readValue? fuel room (← afterEquals? rest)
    let items ← items.bind? key s
    match skipGap rest with
    | ',' :: rest => readFields? fuel room items rest
    | '\x7d' :: rest => some rest
    | _ => none

end

end SchemaMigration.Config.Document
