/-
  The plugin.

  A documentation host runs the plugin at three points: when it starts, when
  it has read its configuration and when it is about to parse a file.  At the
  last one the plugin wraps the host's parser, so that typed sources reach it
  annotated and lowered.
-/

import TypedDocs.Path
import TypedDocs.Plugin.Config
import TypedDocs.Plugin.Options
import TypedDocs.Transpile

namespace TypedDocs

/-- The plugin as the host holds it. -/
structure Plugin where
  enabled : Bool
  deriving DecidableEq, Repr

namespace Plugin

/-- The name of the plugin in the list of plugins. -/
def name : Text := "esdoc-typescript-plugin".toList

/-- The patterns that the plugin adds to those of the host. -/
def addedIncludes : List Text := ["\\.ts$".toList, "\\.js$".toList]

/-- The plugin with its options. -/
def ofOptions (options : PluginOptions) : Plugin := ⟨options.enable⟩

/-- The host starts: the plugin takes its options, or does without. -/
def start : Option Json → Except OptionError Plugin
  | some v => (PluginOptions.ofJson v).map ofOptions
  | none => .ok (ofOptions {})

/-- The host has read its configuration: typed and plain sources are taken in. -/
def handleConfig (p : Plugin) (c : Config) : Config :=
  if p.enabled then { c with includes := c.includes ++ addedIncludes } else c

end Plugin

/-! ## Parsers -/

/-- What a wrapper keeps from the moment it is installed. -/
structure Wrapper where
  path : Path
  options : Script.LowerOptions
  deriving DecidableEq, Repr

/-- What typed sources are transpiled with. -/
abbrev Transpiler :=
  Script.LowerOptions → Text → Except TranspileError Text

/-- What a wrapper makes of a text: a typed source is transpiled, any other text stays. -/
def Wrapper.transform (transpiler : Transpiler) (w : Wrapper) (code : Text) :
    Except TranspileError Text :=
  if w.path.isTypescript then transpiler w.options code else .ok code

/-- Why a parser fails. -/
inductive ParseFailure where
  /-- A wrapper could not transform the source. -/
  | transform (path : Path) (cause : TranspileError)
  /-- The host's own parser failed, in its own words. -/
  | host (message : Text)
  deriving DecidableEq, Repr

/-- The lines that were put before the cause of a failure. -/
def ParseFailure.contexts : ParseFailure → List String
  | transform path _ => ["failed to transform " ++ String.ofList path]
  | host _ => []

/-- What a failure comes from: a source that cannot be transpiled, or the host. -/
def ParseFailure.cause : ParseFailure → TranspileError ⊕ Text
  | transform _ e => .inl e
  | host message => .inr message

/-- What a run of a parser comes to: its result, and the texts that the host's
own parser was given. -/
structure ParseRun (α : Type) where
  result : Except ParseFailure α
  hostSaw : List Text

/-- A parser: the host's own, or a wrapper around another. -/
inductive CodeParser (α : Type) where
  | host (parse : Text → Except Text α)
  | wrapped (wrapper : Wrapper) (inner : CodeParser α)

namespace CodeParser

variable {α : Type}

/-- Runs a parser on a text; what typed sources are transpiled with is left open. -/
def runWith (transpiler : Transpiler) : CodeParser α → Text → ParseRun α
  | host parse, code => ⟨(parse code).mapError .host, [code]⟩
  | wrapped w inner, code =>
    match w.transform transpiler code with
    | .ok text => inner.runWith transpiler text
    | .error e => ⟨.error (.transform w.path e), []⟩

/-- Runs a parser on a text: typed sources are annotated and lowered. -/
def run (parser : CodeParser α) (code : Text) : ParseRun α :=
  parser.runWith transpile code

end CodeParser

/-- The host is about to parse a file. -/
structure CodeParserEvent (α : Type) where
  parser : CodeParser α
  options : Script.LowerOptions
  path : Path

/-- The plugin wraps the parser. -/
def Plugin.handleCodeParser {α : Type} (p : Plugin) (e : CodeParserEvent α) : CodeParserEvent α :=
  if p.enabled then { e with parser := .wrapped ⟨e.path, e.options⟩ e.parser } else e

end TypedDocs
