/-
  Sessions of the host around one event.

  Before the host parses a file, its plugin may be made anew or started again,
  the event may move to another path or other options, and the plugin may be
  asked to wrap the parser, any number of times and in any order.  What the
  parser does in the end depends on the wrappers only, each with the path and
  the options of the moment it was installed: the text goes through them from
  the last to the first, and the host's own parser is called once or never.

  A step of a session adds at most one wrapper around the parser, so a whole
  session adds the wrappers it installs, in order (`parser_play`); what such a
  nest does is an induction over its wrappers from the outside in
  (`runWith_nest`).  Nothing here depends on what typed sources are transpiled
  with; the program's own `transpile` is one case.
-/

import Mathlib.Data.List.Induction
import TypedDocs.Plugin

namespace TypedDocs

variable {α : Type} {transpiler : Transpiler}

/-! ## Nested wrappers -/

/-- The text that comes through wrappers, from the last one down to the first: each transpiles the
    text of a typed source and keeps any other.  The first one that cannot ends the way. -/
def descend (transpiler : Transpiler) (ws : List Wrapper) (code : Text) :
    Except (Wrapper × TranspileError) Text :=
  ws.foldrM (fun w text =>
    if w.path.isTypescript then (transpiler w.options text).mapError (w, ·) else .ok text) code

theorem descend_append (below above : List Wrapper) (code : Text) :
    descend transpiler (below ++ above) code =
      descend transpiler above code >>= descend transpiler below :=
  List.foldrM_append

theorem descend_singleton (w : Wrapper) (code : Text) :
    descend transpiler [w] code = (w.transform transpiler code).mapError (w, ·) := by
  unfold descend Wrapper.transform
  rw [List.foldrM_cons, List.foldrM_nil, pure_bind]
  split <;> rfl

theorem transform_eq_error_iff {w : Wrapper} {code : Text} {e : TranspileError} :
    w.transform transpiler code = .error e ↔
      w.path.isTypescript = true ∧ transpiler w.options code = .error e := by
  unfold Wrapper.transform
  by_cases hpath : w.path.isTypescript = true
  · rw [if_pos hpath, and_iff_right hpath]
  · rw [if_neg hpath]
    exact ⟨fun h => (nomatch h), fun h => absurd h.1 hpath⟩

/-- The way through wrappers ends at a wrapper if the text that comes down to it is that of a typed
    source and cannot be transpiled. -/
theorem descend_eq_error_iff {ws : List Wrapper} {code : Text} {w : Wrapper} {e : TranspileError} :
    descend transpiler ws code = .error (w, e) ↔ ∃ below above text, ws = below ++ w :: above ∧
      descend transpiler above code = .ok text ∧ w.path.isTypescript = true ∧
        transpiler w.options text = .error e := by
  constructor
  · intro h
    -- The first wrapper is the last one on the way: either the way ended above it, or at it.
    induction ws with
    | nil => cases h
    | cons v ws ih =>
      rw [← List.singleton_append, descend_append] at h
      cases hws : descend transpiler ws code with
      | error failure =>
        rw [hws] at h
        obtain rfl : failure = (w, e) := Except.error.inj h
        obtain ⟨below, above, text, rfl, hrest⟩ := ih hws
        exact ⟨v :: below, above, text, rfl, hrest⟩
      | ok text =>
        have hv : descend transpiler [v] text = .error (w, e) := by rwa [hws] at h
        rw [descend_singleton] at hv
        cases hfail : v.transform transpiler text with
        | ok out =>
          rw [hfail] at hv
          cases hv
        | error cause =>
          rw [hfail] at hv
          cases hv
          exact ⟨[], ws, text, rfl, hws, transform_eq_error_iff.1 hfail⟩
  · rintro ⟨below, above, text, rfl, habove, hfail⟩
    have hw : descend transpiler [w] text = .error (w, e) := by
      rw [descend_singleton, transform_eq_error_iff.2 hfail]
      rfl
    rw [descend_append, ← List.singleton_append, descend_append, habove]
    show descend transpiler [w] text >>= descend transpiler below = _
    rw [hw]
    rfl

namespace CodeParser

/-- A parser inside wrappers, the last of them outside. -/
def nest (parser : CodeParser α) (ws : List Wrapper) : CodeParser α :=
  ws.foldl (fun inner w => .wrapped w inner) parser

theorem nest_concat (parser : CodeParser α) (ws : List Wrapper) (w : Wrapper) :
    parser.nest (ws ++ [w]) = .wrapped w (parser.nest ws) := by
  unfold nest
  rw [List.foldl_append, List.foldl_cons, List.foldl_nil]

/-- A nest of wrappers hands the host what comes through all of them, or ends at the first that
    fails without a call of the host. -/
theorem runWith_nest (host : Text → Except Text α) (ws : List Wrapper) (code : Text) :
    ((CodeParser.host host).nest ws).runWith transpiler code =
      match descend transpiler ws code with
      | .ok text => ⟨(host text).mapError .host, [text]⟩
      | .error (w, e) => ⟨.error (.transform w.path e), []⟩ := by
  -- The wrapper outside is the last one, so the list is taken apart from its end.
  induction ws using List.reverseRecOn generalizing code with
  | nil => rfl
  | append_singleton ws w ih =>
    rw [nest_concat, runWith, descend_append, descend_singleton]
    cases w.transform transpiler code with
    | ok text => exact ih text
    | error e => rfl

end CodeParser

/-- The answer of a parser inside wrappers.  If the text comes through all of them, the host sees it
    once and its answer stands; if not, the host sees nothing and the error names the wrapper where
    the way ended. -/
structure Answers (transpiler : Transpiler) (host : Text → Except Text α) (ws : List Wrapper)
    (code : Text) (answer : ParseRun α) : Prop where
  result : (answer.result.mapError fun f => (f.contexts, f.cause)) =
    match descend transpiler ws code with
    | .ok text => (host text).mapError fun message => ([], .inr message)
    | .error (w, e) => .error (["failed to transform " ++ String.ofList w.path], .inl e)
  hostSaw : answer.hostSaw =
    match descend transpiler ws code with
    | .ok text => [text]
    | .error _ => []

theorem answers_nest (transpiler : Transpiler) (host : Text → Except Text α) (ws : List Wrapper)
    (code : Text) :
    Answers transpiler host ws code (((CodeParser.host host).nest ws).runWith transpiler code) where
  result := by
    rw [CodeParser.runWith_nest]
    cases descend transpiler ws code with
    | ok text =>
      show ((host text).mapError ParseFailure.host).mapError _ = (host text).mapError _
      cases host text <;> rfl
    | error failure => rfl
  hostSaw := by
    rw [CodeParser.runWith_nest]
    cases descend transpiler ws code <;> rfl

/-! ## Sessions -/

/-- How the plugin can change under the host. -/
inductive PluginChange where
  /-- It is made anew. -/
  | create (options : PluginOptions)
  /-- It is started again; a start that fails leaves the plugin as it is. -/
  | start (option : Option Json)

/-- The plugin after a change. -/
def Plugin.change (p : Plugin) : PluginChange → Plugin
  | .create options => .ofOptions options
  | .start option =>
    match Plugin.start option with
    | .ok started => started
    | .error _ => p

/-- What the host can do around an event before it parses. -/
inductive HostStep where
  | plugin (change : PluginChange)
  | setPath (path : Path)
  | setOptions (options : Script.LowerOptions)
  /-- The plugin may wrap the parser. -/
  | install

/-- The plugin and the event that it is called with. -/
structure HostSession (α : Type) where
  plugin : Plugin
  event : CodeParserEvent α

namespace HostSession

/-- The session after a step. -/
def step (s : HostSession α) : HostStep → HostSession α
  | .plugin change => { s with plugin := s.plugin.change change }
  | .setPath path => { s with event.path := path }
  | .setOptions options => { s with event.options := options }
  | .install => { s with event := s.plugin.handleCodeParser s.event }

/-- The session after some steps. -/
def play (s : HostSession α) (steps : List HostStep) : HostSession α :=
  steps.foldl step s

/-- The wrapper that a step installs: one with the path and the options that the event holds, if
    the plugin is enabled. -/
def installs? (s : HostSession α) : HostStep → Option Wrapper
  | .install => if s.plugin.enabled then some ⟨s.event.path, s.event.options⟩ else none
  | _ => none

/-- The wrappers that a session installs, in order. -/
def installed (s : HostSession α) : List HostStep → List Wrapper
  | [] => []
  | st :: steps => (s.installs? st).toList ++ (s.step st).installed steps

theorem play_append (s : HostSession α) (steps more : List HostStep) :
    s.play (steps ++ more) = (s.play steps).play more :=
  List.foldl_append

theorem installed_append (s : HostSession α) (steps more : List HostStep) :
    s.installed (steps ++ more) = s.installed steps ++ (s.play steps).installed more := by
  induction steps generalizing s with
  | nil => rfl
  | cons st steps ih =>
    rw [List.cons_append, installed, installed, ih, List.append_assoc]
    rfl

/-- A step puts the wrapper that it installs around the parser. -/
theorem parser_step (s : HostSession α) (st : HostStep) :
    (s.step st).event.parser = s.event.parser.nest (s.installs? st).toList := by
  cases st with
  | plugin change => rfl
  | setPath path => rfl
  | setOptions options => rfl
  | install =>
    unfold step installs? Plugin.handleCodeParser
    cases s.plugin.enabled <;> rfl

/-- A session puts the wrappers that it installs around the parser. -/
theorem parser_play (s : HostSession α) (steps : List HostStep) :
    (s.play steps).event.parser = s.event.parser.nest (s.installed steps) := by
  induction steps generalizing s with
  | nil => rfl
  | cons st steps ih =>
    have hnest : s.event.parser.nest (s.installed (st :: steps)) =
        (s.step st).event.parser.nest ((s.step st).installed steps) := by
      rw [parser_step]
      exact List.foldl_append
    rw [hnest]
    exact ih (s.step st)

theorem event_play_changes (s : HostSession α) (changes : List PluginChange) :
    (s.play (changes.map .plugin)).event = s.event := by
  induction changes generalizing s with
  | nil => rfl
  | cons change changes ih => exact ih (s.step (.plugin change))

/-- The session with the host's own parser, before anything is installed. -/
def opening (plugin : Plugin) (host : Text → Except Text α) (options : Script.LowerOptions)
    (path : Path) : HostSession α :=
  ⟨plugin, ⟨.host host, options, path⟩⟩

/-- What the parser of an event does after a session: it answers as its wrappers say, whatever typed
    sources are transpiled with, and so in the program.  What happens later, to the plugin above
    all, leaves the wrappers in place. -/
theorem run_play (plugin : Plugin) (host : Text → Except Text α) (options : Script.LowerOptions)
    (path : Path) (steps : List HostStep) (code : Text) :
    let start := opening plugin host options path
    let ws := start.installed steps
    let parser := (start.play steps).event.parser
    (∀ transpiler, Answers transpiler host ws code (parser.runWith transpiler code)) ∧
      Answers transpile host ws code (parser.run code) ∧
      (∀ transpiler w e, descend transpiler ws code = .error (w, e) ↔
        ∃ below above text, ws = below ++ w :: above ∧ descend transpiler above code = .ok text ∧
          w.path.isTypescript = true ∧ transpiler w.options text = .error e) ∧
      (∀ more, ws <+: start.installed (steps ++ more)) ∧
      ∀ changes : List PluginChange,
        (start.play (steps ++ changes.map .plugin)).event = (start.play steps).event := by
  intro start ws parser
  have hparser : parser = (CodeParser.host host).nest ws := parser_play start steps
  have hanswers : ∀ transpiler,
      Answers transpiler host ws code (parser.runWith transpiler code) := by
    intro transpiler
    rw [hparser]
    exact answers_nest transpiler host ws code
  refine ⟨hanswers, hanswers transpile, fun _ _ _ => descend_eq_error_iff, fun more => ?_,
    fun changes => ?_⟩
  · rw [installed_append]
    exact List.prefix_append ..
  · rw [play_append, event_play_changes]

end HostSession

end TypedDocs
