import SchemaMigration.Source.Literal
import SchemaMigration.Table.BuildCall

/-
  Build calls as source text.

  A build call becomes a chain of method calls on `table`, each with its
  arguments; `render` writes the chain. The short methods are used where they
  say the same: an omitted action restricts, and the current timestamp as a
  default has a method of its own.
-/
namespace SchemaMigration.Source

open Text Table

/-- An argument of a method. -/
inductive Argument where
  | text (s : String)
  | texts (l : List String)
  | number (n : UInt32)
  | flag (b : Bool)
  /-- A member of a type. -/
  | member (type name : String)
  /-- A function of a type, applied to a text. -/
  | made (type function : String) (s : String)
  deriving DecidableEq, Repr

/-- One method call with its arguments. -/
structure MethodCall where
  method : String
  args : List Argument
  deriving DecidableEq, Repr

namespace Argument

def render : Argument → String
  | text s => literal s
  | texts l => literalList l
  | number n => natText n.toNat
  | flag b => if b then "true" else "false"
  | member type name => type ++ "::" ++ name
  | made type function s => type ++ "::" ++ function ++ "(" ++ literal s ++ ")"

end Argument

namespace MethodCall

def render (m : MethodCall) : String :=
  "." ++ m.method ++ "(" ++ String.intercalate ", " (m.args.map Argument.render) ++ ")"

end MethodCall

/-- The type of column defaults, as the source names it. -/
def defaultType : String := "DefaultValue"

/-- The type of referential actions, as the source names it. -/
def actionType : String := "ReferentialAction"

/-- The name of an action in the source. -/
def actionName : ReferentialAction → String
  | .restrict => "Restrict"
  | .cascade => "Cascade"
  | .setNull => "SetNull"
  | .noAction => "NoAction"

/-- A method for a point in time, followed by its precision unless zero. -/
def timeMethods (method name : String) (p : UInt32) : List MethodCall :=
  ⟨method, [.text name]⟩ :: (if p = 0 then [] else [⟨"precision", [.number p]⟩])

/-- The methods that declare a column of a type. -/
def columnMethods (name : String) : ColumnType → List MethodCall
  | .tinyInteger => [⟨"tiny_integer", [.text name]⟩]
  | .smallInteger => [⟨"small_integer", [.text name]⟩]
  | .mediumInteger => [⟨"medium_integer", [.text name]⟩]
  | .integer => [⟨"integer", [.text name]⟩]
  | .bigInteger => [⟨"big_integer", [.text name]⟩]
  | .decimal p s => [⟨"decimal", [.text name, .number p, .number s]⟩]
  | .float => [⟨"float", [.text name]⟩]
  | .double => [⟨"double", [.text name]⟩]
  | .char n => [⟨"char", [.text name, .number n]⟩]
  | .string n => [⟨"string", [.text name, .number n]⟩]
  | .text => [⟨"text", [.text name]⟩]
  | .mediumText => [⟨"medium_text", [.text name]⟩]
  | .longText => [⟨"long_text", [.text name]⟩]
  | .date => [⟨"date", [.text name]⟩]
  | .dateTime p => timeMethods "date_time" name p
  | .timestamp p => timeMethods "timestamp" name p
  | .time p => timeMethods "time" name p
  | .year => [⟨"year", [.text name]⟩]
  | .enum values => [⟨"enumeration", [.text name, .texts values]⟩]
  | .json => [⟨"json", [.text name]⟩]
  | .boolean => [⟨"boolean", [.text name]⟩]

/-- The method that gives a column its default. -/
def defaultMethod : DefaultValue → MethodCall
  | .null => ⟨"default", [.member defaultType "Null"]⟩
  | .numeric n => ⟨"default", [.made defaultType "numeric" n]⟩
  | .bool b => ⟨"default", [.flag b]⟩
  | .string s => ⟨"default", [.text s]⟩
  | .currentTimestamp => ⟨"use_current", []⟩
  | .expression e => ⟨"default", [.made defaultType "expression" e]⟩

/-- The method of a modifier. -/
def modifierMethod : Modifier → MethodCall
  | .unsigned => ⟨"unsigned", []⟩
  | .autoIncrement => ⟨"auto_increment", []⟩
  | .nullable => ⟨"nullable", []⟩
  | .default value => defaultMethod value
  | .useCurrentOnUpdate => ⟨"use_current_on_update", []⟩
  | .comment text => ⟨"comment", [.text text]⟩

/-- The methods for the action on deletion. -/
def onDeleteMethods : ReferentialAction → List MethodCall
  | .restrict => []
  | .cascade => [⟨"cascade_on_delete", []⟩]
  | .setNull => [⟨"null_on_delete", []⟩]
  | .noAction => [⟨"on_delete", [.member actionType (actionName .noAction)]⟩]

/-- The methods for the action on update. -/
def onUpdateMethods : ReferentialAction → List MethodCall
  | .restrict => []
  | .cascade => [⟨"cascade_on_update", []⟩]
  | .setNull => [⟨"on_update", [.member actionType (actionName .setNull)]⟩]
  | .noAction => [⟨"on_update", [.member actionType (actionName .noAction)]⟩]

/-- The chain of methods for a build call. -/
def chain : BuildCall → List MethodCall
  | .key .id name => [⟨"id", [.text name]⟩]
  | .key .increments name => [⟨"increments", [.text name]⟩]
  | .column name type modifiers => columnMethods name type ++ modifiers.map modifierMethod
  | .timestamps => [⟨"timestamps", []⟩]
  | .softDeletes => [⟨"soft_deletes", []⟩]
  | .index .primary _ columns => [⟨"primary", [.texts columns]⟩]
  | .index .unique none columns => [⟨"unique", [.texts columns]⟩]
  | .index .unique (some name) columns => [⟨"unique_named", [.text name, .texts columns]⟩]
  | .index .index none columns => [⟨"index", [.texts columns]⟩]
  | .index .index (some name) columns => [⟨"index_named", [.text name, .texts columns]⟩]
  | .foreign name columns table referenced onDelete onUpdate =>
    [⟨"foreign", [.texts columns]⟩, ⟨"references", [.texts referenced]⟩, ⟨"on", [.text table]⟩] ++
      name.toList.map (fun n => ⟨"named", [.text n]⟩) ++
      onDeleteMethods onDelete ++ onUpdateMethods onUpdate
  | .engine name => [⟨"engine", [.text name]⟩]
  | .charset name => [⟨"charset", [.text name]⟩]
  | .collation name => [⟨"collation", [.text name]⟩]
  | .tableComment text => [⟨"table_comment", [.text text]⟩]

/-- A build call as source text. -/
def renderCall (c : BuildCall) : String :=
  "table" ++ String.join ((chain c).map MethodCall.render)

/-- Whether a modifier gives a default that neither a method of its own nor a plain value
says. -/
def givesDefault : Modifier → Bool
  | .default .null => true
  | .default (.numeric _) => true
  | .default (.expression _) => true
  | _ => false

/-- Whether a build call needs the type of defaults. -/
def usesDefault : BuildCall → Bool
  | .column _ _ modifiers => modifiers.any givesDefault
  | _ => false

/-- Whether a build call needs the type of actions. To set null has a method of its own on
deletion only. -/
def usesAction : BuildCall → Bool
  | .foreign _ _ _ _ onDelete onUpdate =>
    onDelete == .noAction || (onUpdate == .setNull || onUpdate == .noAction)
  | _ => false

end SchemaMigration.Source
