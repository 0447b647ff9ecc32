import Switchboard.Json.Compact
import Switchboard.Text.Blank
import Switchboard.Text.Numeral

/-!
# Arguments of tools

A tool declares each parameter with a kind. `ParamKind.coerce` turns a JSON value into an argument
of that kind, leniently: the platform sends numbers and truth values as texts and the other way
round. `Arguments` is what a handler is given.
-/

namespace Switchboard

/-- The kind of a parameter. -/
inductive ParamKind where
  /-- A text. -/
  | string
  /-- A whole number of 64 bits. -/
  | integer
  /-- A truth value. -/
  | boolean
deriving DecidableEq, Inhabited

namespace ParamKind

/-- The name of a kind. -/
def name : ParamKind → String
  | string => "string"
  | integer => "integer"
  | boolean => "boolean"

/-- The kinds. -/
def all : List ParamKind := [string, integer, boolean]

/-- The names under which a kind can be declared. -/
def typeNames : ParamKind → List String
  | string => ["string", "str"]
  | integer => ["integer", "int", "i64"]
  | boolean => ["boolean", "bool"]

/-- The kind that a declared type name stands for; blanks around it and the case of ASCII letters do
not matter. -/
def ofTypeName? (typeName : String) : Option ParamKind :=
  let n := Text.asciiLower (Text.trim typeName)
  all.find? fun k => k.typeNames.contains n

end ParamKind

/-! ## Typed values -/

/-- A value of one of the kinds. -/
inductive Argument where
  /-- A text. -/
  | string (s : String)
  /-- A whole number. -/
  | integer (n : Int64)
  /-- A truth value. -/
  | boolean (b : Bool)
deriving DecidableEq, Inhabited

namespace Argument

/-- The kind of a value. -/
def kind : Argument → ParamKind
  | string _ => .string
  | integer _ => .integer
  | boolean _ => .boolean

/-- The text shown for a value. -/
def text : Argument → String
  | string s => s
  | integer n => toString n.toInt
  | boolean b => if b then "true" else "false"

/-- The JSON form of a value. -/
def toJson : Argument → Json
  | string s => .str s
  | integer n => .int n.toInt
  | boolean b => .bool b

end Argument

/-! ## Errors -/

/-- Why JSON arguments do not fit the declared parameters. -/
inductive ArgumentError where
  /-- The arguments are not an object. -/
  | notAnObject
  /-- A declared parameter has no value. -/
  | missing (name : String)
  /-- The value of a parameter, shown as text, is not of its kind. -/
  | wrongKind (name : String) (expected : ParamKind) (value : String)
deriving DecidableEq

/-- The wording of an argument error. -/
def ArgumentError.message : ArgumentError → String
  | notAnObject => "arguments must be a JSON object"
  | missing name => "missing argument `" ++ name ++ "`"
  | wrongKind name expected value =>
    "argument `" ++ name ++ "` cannot be converted to " ++ expected.name ++ ": " ++ value

/-! ## Coercion -/

namespace ParamKind

/-- The argument that a JSON value other than `null` stands for. -/
def accept? : ParamKind → Json → Option Argument
  | string, .str s => some (.string s)
  | string, .int n => some (.string (Json.int n).compact)
  | string, .float x => some (.string (Json.float x).compact)
  | string, .bool b => some (.string (Json.bool b).compact)
  | integer, .int n => (int64? n).map .integer
  | integer, .str s => (Text.readInt64? (Text.trim s)).map .integer
  | boolean, .bool b => some (.boolean b)
  | boolean, .str s =>
    let t := Text.trim s
    if t = "true" then some (.boolean true)
    else if t = "false" then some (.boolean false)
    else none
  | _, _ => none

/-- The argument of this kind that the value of the parameter `name` stands for. -/
def coerce (k : ParamKind) (name : String) (v : Json) : Except ArgumentError Argument :=
  match v with
  | .null => .error (.missing name)
  | v =>
    match k.accept? v with
    | some a => .ok a
    | none => .error (.wrongKind name k v.compact)

end ParamKind

/-! ## Bound arguments -/

/-- The arguments of one call, in the order of the declaration. -/
structure Arguments where
  /-- Names and values. -/
  entries : List (String × Argument)
deriving DecidableEq

namespace Arguments

/-- How many arguments there are. -/
def size (as : Arguments) : Nat := as.entries.length

/-- The argument at a place in the order. -/
def at? (as : Arguments) (i : Nat) : Option Argument := (as.entries[i]?).map (·.2)

/-- The argument with a name; of several the first. -/
def get? (as : Arguments) (name : String) : Option Argument :=
  (as.entries.find? fun e => e.1 = name).map (·.2)

/-- The argument with a name, seen as a value of a kind by `view?`. -/
def require {α : Type} (as : Arguments) (k : ParamKind) (view? : Argument → Option α)
    (name : String) :
    Except ArgumentError α :=
  match as.get? name with
  | none => .error (.missing name)
  | some a =>
    match view? a with
    | some v => .ok v
    | none => .error (.wrongKind name k a.text)

/-- The text with a name. -/
def string (as : Arguments) : String → Except ArgumentError String :=
  as.require .string fun
    | .string s => some s
    | _ => none

/-- The whole number with a name. -/
def integer (as : Arguments) : String → Except ArgumentError Int64 :=
  as.require .integer fun
    | .integer n => some n
    | _ => none

/-- The truth value with a name. -/
def boolean (as : Arguments) : String → Except ArgumentError Bool :=
  as.require .boolean fun
    | .boolean b => some b
    | _ => none

end Arguments

end Switchboard
