/-
  Options of the plugin.

  The host hands the plugin a JSON value.  It is an object with the member
  `enable`, or an array with the same value in first place; what is missing is
  on.
-/

import TypedDocs.Json.Value
import TypedDocs.Text.Quote

namespace TypedDocs

/-- The options of the plugin. -/
structure PluginOptions where
  enable : Bool := true
  deriving DecidableEq, Repr

/-- What the reader of options looks for. -/
inductive Wanted where
  | boolean
  | options
  deriving DecidableEq, Repr

/-- How a message names what was looked for. -/
def Wanted.text : Wanted → String
  | .boolean => "a boolean"
  | .options => "struct PluginOptions"

/-- Why a value holds no options. -/
inductive OptionError where
  | invalidType (found : Json) (wanted : Wanted)
  /-- An array of so many items. -/
  | tooLong (length : Nat)

/-- How a message names a value. -/
def Json.description : Json → String
  | .null => "null"
  | .bool true => "boolean `true`"
  | .bool false => "boolean `false`"
  | .number (.int n) => "integer `" ++ toString n ++ "`"
  | .number (.double x) => "floating point `" ++ String.ofList x.positional ++ "`"
  | .string s => "string " ++ String.ofList (Text.quoted s)
  | .array _ => "sequence"
  | .object _ => "map"

/-- The message of an error. -/
def OptionError.message : OptionError → String
  | .invalidType found wanted => "invalid type: " ++ found.description ++ ", expected " ++ wanted.text
  | .tooLong n => "invalid length " ++ toString n ++ ", expected fewer elements in array"

namespace PluginOptions

/-- The value of a switch. -/
def switch : Json → Except OptionError Bool
  | .bool b => .ok b
  | v => .error (.invalidType v .boolean)

/-- The options in a value. -/
def ofJson (v : Json) : Except OptionError PluginOptions :=
  match v with
  | .object _ =>
    match v.get? "enable" with
    | none => .ok {}
    | some v => (switch v).map PluginOptions.mk
  | .array [] => .ok {}
  | .array (first :: rest) =>
    match switch first with
    | .error e => .error e
    | .ok b => if rest.isEmpty then .ok ⟨b⟩ else .error (.tooLong (rest.length + 1))
  | v => .error (.invalidType v .options)

end PluginOptions

end TypedDocs
