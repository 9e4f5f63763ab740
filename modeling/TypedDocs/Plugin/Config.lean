/-
  Configuration of the host.

  The plugin knows two members of the host's configuration, the patterns of
  the files to take in and the list of plugins.  All other members are carried
  through as they are.
-/

import TypedDocs.Json.Parse

namespace TypedDocs

/-- One entry of the list of plugins. -/
structure PluginEntry where
  name : Text
  option : Option Json

/-- The configuration of the host. -/
structure Config where
  includes : List Text := []
  plugins : List PluginEntry := []
  /-- The other members. -/
  rest : List (Text × Json) := []

/-! ## Reading values -/

/-- The values of all members with a name. -/
def Json.valuesOf (name : String) (members : List (Text × Json)) : List Json :=
  (members.filter (·.1 == name.toList)).map (·.2)

/-- A string. -/
def Json.text? : Json → Option Text
  | .string s => some s
  | _ => none

/-- An option; nothing is written as `null`. -/
def PluginEntry.optionOf : Json → Option Json
  | .null => none
  | v => some v.plain

/-- An entry, written as an object or as an array.  The two members that are
known must not be repeated; others are dropped. -/
def PluginEntry.ofJson? : Json → Option PluginEntry
  | .object members =>
    match Json.valuesOf "name" members, Json.valuesOf "option" members with
    | [.string name], [] => some ⟨name, none⟩
    | [.string name], [v] => some ⟨name, optionOf v⟩
    | _, _ => none
  | .array [.string name] => some ⟨name, none⟩
  | .array [.string name, v] => some ⟨name, optionOf v⟩
  | _ => none

/-- A list of things, empty where nothing is written. -/
def Config.listOf? {α : Type} (item : Json → Option α) : List Json → Option (List α)
  | [] => some []
  | [.array vs] => vs.mapM item
  | _ => none

/-- Whether the configuration knows a member. -/
def Config.isKnown (name : Text) : Bool :=
  name == "includes".toList || name == "plugins".toList

/-- The configuration in a value. -/
def Config.ofJson? : Json → Option Config
  | .object members => do
    let includes ← listOf? Json.text? (Json.valuesOf "includes" members)
    let plugins ← listOf? PluginEntry.ofJson? (Json.valuesOf "plugins" members)
    let others := members.filter fun m => !isKnown m.1
    return ⟨includes, plugins, Json.lastMembers (Json.plainMembers others)⟩
  | _ => none

/-! ## Writing values -/

/-- An entry as an object. -/
def PluginEntry.toJson (e : PluginEntry) : Json :=
  .object (("name".toList, .string e.name) ::
    match e.option with
    | some v => [("option".toList, v)]
    | none => [])

/-- A configuration as an object. -/
def Config.toJson (c : Config) : Json :=
  let plugins := if c.plugins.isEmpty then []
    else [("plugins".toList, Json.array (c.plugins.map PluginEntry.toJson))]
  .object (("includes".toList, .array (c.includes.map .string)) :: plugins ++ c.rest)

/-! ## Reading texts -/

/-- How deep arrays and objects of a configuration may nest. -/
def Config.maxDepth : Nat := 127

/-- Reads an entry; what is dropped from it is read by its shape alone. -/
def PluginEntry.reader (depth : Nat) : Json.Reader Json := fun s =>
  match s with
  | '{' :: s =>
    Json.object? .full (fun name =>
      if name = "name".toList ∨ name = "option".toList then Json.value? .full (depth - 1)
      else Json.shape?) s
  | s => Json.value? .full depth s

/-- Reads the list of plugins. -/
def PluginEntry.listReader (depth : Nat) : Json.Reader Json := fun s =>
  match s with
  | '[' :: s => Json.array? (PluginEntry.reader (depth - 1)) s
  | s => Json.value? .full depth s

/-- Reads a configuration. -/
def Config.reader (depth : Nat) : Json.Reader Json := fun s =>
  match s with
  | '{' :: s =>
    Json.object? .full (fun name =>
      if name = "plugins".toList then PluginEntry.listReader (depth - 1)
      else Json.value? .full (depth - 1)) s
  | s => Json.value? .full depth s

/-- The configuration in a text. -/
def Config.parse? (s : Text) : Option Config :=
  (Json.whole? (Config.reader maxDepth) s).bind ofJson?

end TypedDocs
