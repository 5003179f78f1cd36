import SchemaMigration.Text.Cut
import SchemaMigration.Text.Numeral

/-
  Grammars of command lines, and the reading of words by them.

  A grammar has flags, options with a value, operands and subcommands. An
  option's value stands behind an equals sign or is the next word, unless that
  starts with a dash; its form is checked when the next flag, option or operand
  comes or when the words end, so that an unknown word is noticed first. Behind
  `--` all words are operands.
-/
namespace SchemaMigration.CommandLine

open Text

/-- Why a command line is not carried out. -/
inductive Refusal where
  /-- It asks for help. -/
  | help
  /-- It asks for the version. -/
  | version
  | nothingGiven
  | noSubcommand
  | unknownSubcommand
  | unknownArgument
  /-- A flag or an option is given twice. -/
  | repeated
  | noValue
  | badValue
  /-- A flag is given a value. -/
  | needlessValue
  | missingOperand
  deriving DecidableEq, Repr

/-- What comes of a flag. -/
inductive FlagMeaning where
  | mark
  | help
  | version
  deriving DecidableEq, Repr

/-- A flag, by its name and perhaps a letter. -/
structure Flag where
  name : String
  letter : Option Char := none
  meaning : FlagMeaning := .mark

/-- The form of an option's value. -/
inductive ValueForm where
  | text
  /-- A text that is not empty. -/
  | path
  /-- A natural number of 64 bits. -/
  | count
  /-- A natural number of 32 bits. -/
  | smallCount
  /-- Texts with commas between them. -/
  | list
  deriving DecidableEq, Repr

/-- An option with a value. Only one whose value is a list may be given again. -/
structure ValueOption where
  name : String
  form : ValueForm

/-- What a command line, or what follows a subcommand, consists of. All operands
have to be given. -/
structure Grammar where
  flags : List Flag
  options : List ValueOption := []
  operands : Nat := 0
  subcommands : List String := []

/-- What was given for a name. -/
inductive Argument where
  | mark
  | text (s : String)
  | number (n : Nat)
  deriving DecidableEq, Repr

/-- What has been read: arguments by name, the option that is not yet checked
with its value if that has come, and the operands. -/
structure Reading where
  arguments : List (String × Argument) := []
  pending : Option (ValueOption × Option String) := none
  operands : List String := []

namespace Reading

/-! ## What was given -/

def has (r : Reading) (name : String) : Bool := (r.arguments.lookup name).isSome

/-- The text given for an option. -/
def text? (r : Reading) (name : String) : Option String :=
  match r.arguments.lookup name with
  | some (.text s) => some s
  | _ => none

/-- The number given for an option. -/
def number? (r : Reading) (name : String) : Option Nat :=
  match r.arguments.lookup name with
  | some (.number n) => some n
  | _ => none

/-- All texts given for an option. -/
def texts (r : Reading) (name : String) : List String :=
  r.arguments.filterMap fun
    | (n, .text s) => if n = name then some s else none
    | _ => none

/-! ## Flags and options -/

/-- Whether an option waits for its value. -/
def isWaiting (r : Reading) : Bool :=
  match r.pending with
  | some (_, none) => true
  | _ => false

/-- Notes what was given once. -/
def give (r : Reading) (name : String) (a : Except Refusal Argument) : Except Refusal Reading :=
  if r.has name then .error .repeated
  else a.map fun a => { r with arguments := r.arguments ++ [(name, a)] }

/-- The number that a text stands for. -/
def numberOf (n : Option Nat) : Except Refusal Argument :=
  match n with
  | some n => .ok (.number n)
  | none => .error .badValue

/-- A natural number of 32 bits. -/
def smallCount? (cs : List Char) : Option Nat :=
  ((readInt64? cs).filter fun i => 0 ≤ i ∧ i < (UInt32.size : Int)).map Int.toNat

/-- Checks the value of an option and notes it. -/
def setValue (r : Reading) (o : ValueOption) (value : String) : Except Refusal Reading :=
  match o.form with
  | .text => r.give o.name (.ok (.text value))
  | .path => r.give o.name (if value = "" then .error .noValue else .ok (.text value))
  | .count => r.give o.name (numberOf (readNat64? value.toList))
  | .smallCount => r.give o.name (numberOf (smallCount? value.toList))
  | .list => .ok { r with arguments := r.arguments ++
      (pieces (· == ',') value.toList).map fun p => (o.name, .text (String.ofList p)) }

/-- Checks the pending option. -/
def settle (r : Reading) : Except Refusal Reading :=
  match r.pending with
  | none => .ok r
  | some (_, none) => .error .noValue
  | some (o, some value) => { r with pending := none }.setValue o value

/-- Reads a flag. -/
def raise (r : Reading) (f : Flag) : Except Refusal Reading := do
  let r ← r.settle
  match f.meaning with
  | .mark => r.give f.name (.ok .mark)
  | .help => .error .help
  | .version => .error .version

/-- Reads an option, perhaps with its value. -/
def start (r : Reading) (o : ValueOption) (value : Option String) : Except Refusal Reading := do
  let r ← r.settle
  match value with
  | some value => r.setValue o value
  | none => return { r with pending := some (o, none) }

/-- Reads the value that the pending option waits for. -/
def supply (r : Reading) (value : String) : Reading :=
  { r with pending := r.pending.map fun p => (p.1, some value) }

end Reading

/-! ## Words -/

/-- The forms of words. -/
inductive Word where
  /-- Two dashes. -/
  | separator
  | long (name : String) (value : Option String)
  | letters (cs : List Char)
  | plain
  deriving DecidableEq, Repr

/-- The form of a word. -/
def Word.ofText (w : String) : Word :=
  match w.toList with
  | ['-', '-'] => .separator
  | '-' :: '-' :: cs =>
    match cutAt (· == '=') cs with
    | some (name, value) => .long (String.ofList name) (some (String.ofList value))
    | none => .long (String.ofList cs) none
  | '-' :: c :: cs => .letters (c :: cs)
  | _ => .plain

namespace Grammar

/-- Reads a flag or an option by its name. -/
def readLong (g : Grammar) (r : Reading) (name : String) (value : Option String) :
    Except Refusal Reading :=
  match g.flags.find? (·.name == name) with
  | some f => if value.isSome then .error .needlessValue else r.raise f
  | none => match g.options.find? (·.name == name) with
    | some o => r.start o value
    | none => .error .unknownArgument

/-- Reads flags by their letters. -/
def readLetters (g : Grammar) : Reading → List Char → Except Refusal Reading
  | r, [] => .ok r
  | r, c :: cs =>
    match g.flags.find? (·.letter == some c) with
    | some f => r.raise f >>= fun r => g.readLetters r cs
    | none => .error .unknownArgument

/-- Reads an operand; `separated` tells whether it stands behind `--`. -/
def readOperand (g : Grammar) (separated : Bool) (r : Reading) (w : String) :
    Except Refusal Reading :=
  if r.operands.length < g.operands then
    r.settle.map fun r => { r with operands := r.operands ++ [w] }
  else if g.subcommands = [] ∨ (separated ∧ g.subcommands.contains w) then .error .unknownArgument
  else .error .unknownSubcommand

/-- Reads words up to a subcommand, which is given with the words behind it. -/
def readWords (g : Grammar) : Reading → List String →
    Except Refusal (Reading × Option (String × List String))
  | r, [] => .ok (r, none)
  | r, w :: ws =>
    if !r.isWaiting && g.subcommands.contains w then .ok (r, some (w, ws))
    else match Word.ofText w with
      | .separator => (ws.foldlM (g.readOperand true) r).map fun r => (r, none)
      | .long name value => g.readLong r name value >>= fun r => g.readWords r ws
      | .letters cs => g.readLetters r cs >>= fun r => g.readWords r ws
      | .plain =>
        if r.isWaiting then g.readWords (r.supply w) ws
        else g.readOperand false r w >>= fun r => g.readWords r ws

/-- Checks what was read to the end of the words. -/
def finish (g : Grammar) (r : Reading) : Except Refusal Reading := do
  let r ← r.settle
  if g.subcommands ≠ [] then
    .error (if r.arguments = [] then .nothingGiven else .noSubcommand)
  else if r.operands.length < g.operands then .error .missingOperand
  else .ok r

end Grammar

end SchemaMigration.CommandLine
