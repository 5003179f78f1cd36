import SchemaMigration.Config.Setting
import SchemaMigration.Text.Alphanumeric
import SchemaMigration.Text.Blank
import SchemaMigration.Text.Cut

/-
  Environment variables, and files that add to them.

  A file holds one variable in a line, `NAME=value`, with quotes and comments as
  in a shell; blanks around it do not count. It is read up to the first line of
  another form, and a variable that is set already keeps its value. Variables
  whose names start with `STRATA__`, in any letter case, bind settings; further
  double underscores in a name stand for dots.
-/
namespace SchemaMigration.Config

open Text

/-- Variables by name; each name occurs once. -/
abbrev Environment := List (String × String)

namespace Environment

/-- The value of a variable. -/
def get? (env : Environment) (name : String) : Option String := env.lookup name

/-- The environment with one more variable, unless it is set. -/
def add (env : Environment) (name value : String) : Environment :=
  if (env.get? name).isSome then env else env ++ [(name, value)]

/-! ## Values in a file -/

/-- Where the reading of a value is. Outside of single quotes it is `quoted` when
it is inside double quotes. -/
inductive Scan where
  | plain (quoted : Bool)
  | literal
  | escaped (quoted : Bool)
  /-- In the name of a variable behind `$`. -/
  | reference (quoted : Bool) (name : List Char)
  /-- In the name of a variable in braces. -/
  | braced (quoted : Bool) (name : List Char)
  /-- Behind the value. -/
  | finished

/-- The characters that a backslash stands in front of. -/
def unescaped? (c : Char) : Option Char :=
  if c = 'n' then some '\n' else if "\\'\"$ ".toList.contains c then some c else none

/-- The text of a value from some point on; `lookup` gives the values of
variables. -/
def scanValue (lookup : List Char → List Char) : Scan → List Char → Option (List Char)
  | .plain quoted, [] => if quoted then none else some []
  | .literal, [] => none
  | .escaped quoted, [] => if quoted then none else some []
  | .reference quoted name, [] => if quoted then none else some (lookup name)
  | .braced _ _, [] => none
  | .finished, [] => some []
  | .plain quoted, c :: cs =>
    if c = '$' then scanValue lookup (.reference quoted []) cs
    else if c = '\\' then scanValue lookup (.escaped quoted) cs
    else if c = '"' then scanValue lookup (.plain !quoted) cs
    else if c = '\'' ∧ !quoted then scanValue lookup .literal cs
    else if isGap c ∧ !quoted then scanValue lookup .finished cs
    else (scanValue lookup (.plain quoted) cs).map (c :: ·)
  | .literal, c :: cs =>
    if c = '\'' then scanValue lookup (.plain false) cs
    else (scanValue lookup .literal cs).map (c :: ·)
  | .escaped quoted, c :: cs =>
    match unescaped? c with
    | some d => (scanValue lookup (.plain quoted) cs).map (d :: ·)
    | none => none
  | .reference quoted name, c :: cs =>
    if isAlphanumeric c then scanValue lookup (.reference quoted (name ++ [c])) cs
    else if c = '\x7b' ∧ name = [] then scanValue lookup (.braced quoted []) cs
    else if c = '$' then (scanValue lookup (.reference quoted []) cs).map (lookup name ++ ·)
    else (scanValue lookup (.plain quoted) cs).map (lookup name ++ c :: ·)
  | .braced quoted name, c :: cs =>
    if c = '\x7d' then (scanValue lookup (.plain quoted) cs).map (lookup name ++ ·)
    else scanValue lookup (.braced quoted (name ++ [c])) cs
  | .finished, c :: cs =>
    if isGap c then scanValue lookup .finished cs
    else if c = '#' then some []
    else none

/-! ## Lines of a file -/

/-- A name at the start of a text, with the rest. -/
def readName? (cs : List Char) : Option (List Char × List Char) :=
  let isNameChar (c : Char) : Bool := c.isAlphanum || c == '_' || c == '.'
  match cs with
  | c :: _ =>
    if c.isAlpha || c == '_' then some (cs.takeWhile isNameChar, cs.dropWhile isNameChar)
    else none
  | [] => none

/-- What follows an equals sign, which may have blanks in front. -/
def afterEquals? (cs : List Char) : Option (List Char) := after? ['='] (trimStart cs)

/-- The name and the text of the value in a line; the word `export` may stand in
front. -/
def splitLine? (cs : List Char) : Option (List Char × List Char) := do
  let (name, rest) ← readName? cs
  match afterEquals? rest with
  | some value => return (name, trimStart value)
  | none =>
    if name = "export".toList then
      let (name, rest) ← readName? (trimStart rest)
      let value ← afterEquals? rest
      return (name, trimStart value)
    else none

/-- Whether nothing but a comment is in a text. -/
def isIdle (cs : List Char) : Bool := cs.isEmpty || cs.head? == some '#'

/-- The environment with the variable of a line; `none` if the line is of no
form. -/
def addLine? (env : Environment) (line : List Char) : Option Environment :=
  let cs := trim line
  if isIdle cs then some env
  else do
    let (name, text) ← splitLine? cs
    let lookup (n : List Char) := ((env.get? (String.ofList n)).getD "").toList
    let value ← if isIdle text then some [] else scanValue lookup (.plain false) text
    return env.add (String.ofList name) (String.ofList value)

/-- The environment with the variables of lines, up to the first of no form. -/
def addLines (env : Environment) : List (List Char) → Environment
  | [] => env
  | line :: rest =>
    match env.addLine? line with
    | some env => addLines env rest
    | none => env

/-- The environment with the variables of a file. -/
def addFile (env : Environment) (text : String) : Environment :=
  env.addLines (pieces (· == '\n') text.toList)

/-! ## Settings -/

/-- What the names of variables that bind settings start with. -/
def settingMark : List Char := "strata__".toList

/-- A text with a dot for every two underscores, from the left. -/
def dotted : List Char → List Char
  | '_' :: '_' :: cs => '.' :: dotted cs
  | c :: cs => c :: dotted cs
  | [] => []

/-- The settings that variables bind. -/
def bindings (env : Environment) : Bindings :=
  env.filterMap fun v =>
    (after? settingMark (Key.lowerName v.1).toList).map fun name =>
      Bindings.ofKey (String.ofList (dotted name)) (.text v.2)

end Environment

end SchemaMigration.Config
