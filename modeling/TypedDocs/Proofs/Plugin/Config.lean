/-
  A configuration that is read, handled and saved.

  A configuration can be written in more than one way: lists may be left out,
  an entry may be an object or an array, an option may be `null`, and an entry
  may have members that nobody reads.  It is saved in one way only.  What was
  read can be told from what is read of the saved one: reading ends in
  well-formed configurations (`Config.wellFormed_of_ofJson?`), which saving and
  reading leave as they are (`Config.WellFormed.ofJson?_toJson`).

  The hook of the plugin adds to one list and touches nothing else
  (`foldl_handleConfig`), so all this holds after any number of its runs too
  (`survives_handleConfig`).
-/

import TypedDocs.Plugin
import TypedDocs.Proofs.Json.Plain

namespace TypedDocs

open Json

variable {name : String} {v : Json} {ms : List (Text × Json)} {c : Config} {e : PluginEntry}

/-! ## Lists -/

theorem mapM_eq_some_iff {α β : Type} {f : α → Option β} {xs : List α} {ys : List β} :
    xs.mapM f = some ys ↔ xs.map f = ys.map some := by
  induction xs generalizing ys with
  | nil => cases ys <;> simp
  | cons x xs ih =>
    rw [List.mapM_cons, List.map_cons]
    cases ys with
    | nil => cases f x <;> cases xs.mapM f <;> simp
    | cons y ys =>
      rw [List.map_cons, List.cons.injEq, ← ih]
      cases f x <;> cases xs.mapM f <;> simp

theorem listOf?_eq_some_iff {α : Type} {item : Json → Option α} {vs : List Json} {xs : List α} :
    Config.listOf? item vs = some xs ↔
      vs = [] ∧ xs = [] ∨ ∃ items, vs = [.array items] ∧ items.map item = xs.map some := by
  fun_cases Config.listOf? item vs with
  | case1 => simp [eq_comm]
  | case2 items => simp [mapM_eq_some_iff]
  | case3 vs hnil harray =>
    simp only [reduceCtorEq, false_iff, not_or, not_and, not_exists]
    exact ⟨fun h => absurd h hnil, fun items h => absurd h (harray items)⟩

theorem map_text?_eq_iff {vs : List Json} {texts : List Text} :
    vs.map text? = texts.map some ↔ vs = texts.map .string := by
  induction vs generalizing texts with
  | nil => cases texts <;> simp
  | cons v vs ih =>
    cases texts with
    | nil => simp
    | cons text texts =>
      have hhead : v.text? = some text ↔ v = .string text := by
        cases v <;> simp [text?]
      rw [List.map_cons, List.map_cons, List.map_cons, List.cons.injEq, List.cons.injEq, ih, hhead]

/-! ## Members by name -/

theorem valuesOf_append (ns : List (Text × Json)) :
    valuesOf name (ms ++ ns) = valuesOf name ms ++ valuesOf name ns := by
  simp [valuesOf]

theorem valuesOf_eq_nil (h : ∀ m ∈ ms, m.1 ≠ name.toList) : valuesOf name ms = [] := by
  simpa [valuesOf] using h

/-- The last value of a name is the one that counts. -/
theorem get?_object_eq_getLast? :
    (object ms).get? name = (valuesOf name ms).getLast? := by
  rw [Json.get?, valuesOf, List.getLast?_map, List.getLast?_eq_head?_reverse, ← List.filter_reverse,
    List.head?_filter]

/-! ## Entries -/

/-- What reading makes of an option: something, and without repeated names. -/
structure PluginEntry.WellFormed (e : PluginEntry) : Prop where
  written : e.option ≠ some .null
  distinct : ∀ v, e.option = some v → v.Distinct

theorem PluginEntry.wellFormed_none (n : Text) : WellFormed ⟨n, none⟩ where
  written := nofun
  distinct := nofun

theorem PluginEntry.optionOf_eq (hv : v ≠ .null) : optionOf v = some v.plain := by
  cases v with
  | null => exact absurd rfl hv
  | _ => rfl

theorem PluginEntry.wellFormed_optionOf (n : Text) (v : Json) : WellFormed ⟨n, optionOf v⟩ := by
  by_cases hv : v = .null
  · rw [hv]
    exact wellFormed_none n
  · rw [optionOf_eq hv]
    constructor
    · intro hnull
      exact hv (plain_eq_null_iff.1 (Option.some.inj hnull))
    · rintro _ ⟨⟩
      exact distinct_plain v

theorem PluginEntry.wellFormed_of_ofJson? (h : ofJson? v = some e) : e.WellFormed := by
  unfold ofJson? at h
  split at h
  · split at h
    · obtain rfl := Option.some.inj h
      exact wellFormed_none _
    · obtain rfl := Option.some.inj h
      exact wellFormed_optionOf _ _
    · cases h
  · obtain rfl := Option.some.inj h
    exact wellFormed_none _
  · obtain rfl := Option.some.inj h
    exact wellFormed_optionOf _ _
  · cases h

theorem PluginEntry.WellFormed.ofJson?_toJson (h : e.WellFormed) : ofJson? e.toJson = some e := by
  obtain ⟨n, option⟩ := e
  cases option with
  | none => rfl
  | some v =>
    have hwritten : v ≠ .null := fun hv => h.written (congrArg some hv)
    calc ofJson? (toJson ⟨n, some v⟩)
      _ = some ⟨n, optionOf v⟩ := rfl
      _ = some ⟨n, some v.plain⟩ := by rw [optionOf_eq hwritten]
      _ = some ⟨n, some v⟩ := by rw [(h.distinct v rfl).plain_eq]

theorem PluginEntry.WellFormed.distinct_toJson (h : e.WellFormed) : e.toJson.Distinct := by
  obtain ⟨n, option⟩ := e
  cases option with
  | none => simp [toJson, distinct_object_iff, Json.Distinct]
  | some v =>
    simp [toJson, distinct_object_iff, Json.Distinct, h.distinct v rfl]

/-! ## Configurations -/

/-- What reading makes of a configuration. -/
structure Config.WellFormed (c : Config) : Prop where
  plugins : ∀ e ∈ c.plugins, e.WellFormed
  unknown : ∀ m ∈ c.rest, isKnown m.1 = false
  distinct : (Json.object c.rest).Distinct

theorem Config.isKnown_eq_false_iff {name : Text} :
    isKnown name = false ↔ name ≠ "includes".toList ∧ name ≠ "plugins".toList := by
  simp [isKnown]

/-- The members that a configuration does not know. -/
def Config.unknownMembers (members : List (Text × Json)) : List (Text × Json) :=
  members.filter fun m => !isKnown m.1

/-- Reading member by member. -/
theorem Config.ofJson?_eq_some_iff : ofJson? v = some c ↔ ∃ members, v = .object members ∧
    listOf? text? (valuesOf "includes" members) = some c.includes ∧
    listOf? PluginEntry.ofJson? (valuesOf "plugins" members) = some c.plugins ∧
    c.rest = lastMembers (plainMembers (unknownMembers members)) := by
  constructor
  · intro h
    cases v with
    | object members =>
      obtain ⟨includes, hincludes, h⟩ := Option.bind_eq_some_iff.1 h
      obtain ⟨plugins, hplugins, h⟩ := Option.bind_eq_some_iff.1 h
      obtain rfl := Option.some.inj h
      exact ⟨members, rfl, hincludes, hplugins, rfl⟩
    | _ => cases h
  · rintro ⟨members, rfl, hincludes, hplugins, hrest⟩
    obtain ⟨includes, plugins, rest⟩ := c
    obtain rfl : rest = _ := hrest
    simp only [ofJson?, hincludes, hplugins]
    rfl

theorem Config.wellFormed_of_ofJson? (h : ofJson? v = some c) : c.WellFormed := by
  obtain ⟨members, rfl, -, hplugins, hrest⟩ := ofJson?_eq_some_iff.1 h
  refine ⟨fun e he => ?_, fun m hm => ?_, ?_⟩
  · rcases listOf?_eq_some_iff.1 hplugins with ⟨-, hnone⟩ | ⟨items, -, hitems⟩
    · rw [hnone] at he
      cases he
    · have hmem : some e ∈ items.map PluginEntry.ofJson? := by
        rw [hitems]
        exact List.mem_map_of_mem he
      obtain ⟨item, -, hitem⟩ := List.mem_map.1 hmem
      exact PluginEntry.wellFormed_of_ofJson? hitem
  · rw [hrest] at hm
    have hm := lastMembers_subset hm
    rw [plainMembers_eq_map] at hm
    obtain ⟨m', hm', rfl⟩ := List.mem_map.1 hm
    simpa using (List.mem_filter.1 hm').2
  · rw [hrest]
    exact distinct_plain (.object (unknownMembers members))

/-! ## Saving -/

namespace Config

/-- The member of the list of plugins; no plugins are not written. -/
def pluginMembers (c : Config) : List (Text × Json) :=
  if c.plugins.isEmpty then []
  else [("plugins".toList, .array (c.plugins.map PluginEntry.toJson))]

/-- The members a configuration is written with. -/
def members (c : Config) : List (Text × Json) :=
  ("includes".toList, .array (c.includes.map .string)) :: (c.pluginMembers ++ c.rest)

theorem toJson_eq (c : Config) : c.toJson = .object c.members :=
  rfl

theorem eq_of_mem_pluginMembers {m : Text × Json} (h : m ∈ c.pluginMembers) :
    m.1 = "plugins".toList ∧ m.2 = .array (c.plugins.map PluginEntry.toJson) := by
  unfold pluginMembers at h
  split at h
  · cases h
  · obtain rfl := List.mem_singleton.1 h
    exact ⟨rfl, rfl⟩

section WellFormed

variable (h : c.WellFormed)

include h

theorem WellFormed.valuesOf_includes :
    valuesOf "includes" c.members = [.array (c.includes.map .string)] := by
  have hplugins : valuesOf "includes" c.pluginMembers = [] := by
    refine valuesOf_eq_nil fun m hm => ?_
    rw [(eq_of_mem_pluginMembers hm).1]
    decide
  have hrest : valuesOf "includes" c.rest = [] :=
    valuesOf_eq_nil fun m hm => (isKnown_eq_false_iff.1 (h.unknown m hm)).1
  calc valuesOf "includes" c.members
    _ = .array (c.includes.map .string) :: valuesOf "includes" (c.pluginMembers ++ c.rest) := rfl
    _ = [.array (c.includes.map .string)] := by rw [valuesOf_append, hplugins, hrest]; rfl

theorem WellFormed.valuesOf_plugins : valuesOf "plugins" c.members =
    if c.plugins.isEmpty then [] else [.array (c.plugins.map PluginEntry.toJson)] := by
  have hrest : valuesOf "plugins" c.rest = [] :=
    valuesOf_eq_nil fun m hm => (isKnown_eq_false_iff.1 (h.unknown m hm)).2
  calc valuesOf "plugins" c.members
    _ = valuesOf "plugins" (c.pluginMembers ++ c.rest) := rfl
    _ = valuesOf "plugins" c.pluginMembers := by rw [valuesOf_append, hrest, List.append_nil]
    _ = _ := by unfold pluginMembers; split <;> rfl

theorem WellFormed.unknownMembers_members : unknownMembers c.members = c.rest := by
  have hplugins : unknownMembers c.pluginMembers = [] := by
    refine List.filter_eq_nil_iff.2 fun m hm => ?_
    rw [(eq_of_mem_pluginMembers hm).1]
    decide
  have hrest : unknownMembers c.rest = c.rest :=
    List.filter_eq_self.2 fun m hm => by rw [h.unknown m hm]; rfl
  calc unknownMembers c.members
    _ = unknownMembers (c.pluginMembers ++ c.rest) := rfl
    _ = unknownMembers c.pluginMembers ++ unknownMembers c.rest := List.filter_append ..
    _ = c.rest := by rw [hplugins, hrest, List.nil_append]

/-- A well-formed configuration is read back as it was saved. -/
theorem WellFormed.ofJson?_toJson : ofJson? c.toJson = some c := by
  refine ofJson?_eq_some_iff.2 ⟨c.members, toJson_eq c, ?_, ?_, ?_⟩
  · rw [h.valuesOf_includes]
    exact listOf?_eq_some_iff.2 (.inr ⟨_, rfl, map_text?_eq_iff.2 rfl⟩)
  · rw [h.valuesOf_plugins]
    cases hplugins : c.plugins with
    | nil => rfl
    | cons e es =>
      refine listOf?_eq_some_iff.2 (.inr ⟨_, rfl, ?_⟩)
      rw [← hplugins, List.map_map]
      exact List.map_congr_left fun e he => (h.plugins e he).ofJson?_toJson
  · rw [h.unknownMembers_members, DistinctMembers.plainMembers_eq h.distinct.2,
      lastMembers_eq_of_nodup h.distinct.1]

theorem WellFormed.nodup_names : (c.members.map (·.1)).Nodup := by
  have hnames : "includes".toList ≠ "plugins".toList := by decide
  have hplugins : (c.pluginMembers.map (·.1)).Nodup := by
    unfold pluginMembers
    split <;> simp
  rw [members, List.map_cons, List.map_append, List.nodup_cons, List.nodup_append]
  refine ⟨fun hmem => ?_, hplugins, (distinct_object_iff.1 h.distinct).1, ?_⟩
  · rcases List.mem_append.1 hmem with hmem | hmem
    · obtain ⟨m, hm, hname⟩ := List.mem_map.1 hmem
      rw [(eq_of_mem_pluginMembers hm).1] at hname
      exact hnames hname.symm
    · obtain ⟨m, hm, hname⟩ := List.mem_map.1 hmem
      exact (isKnown_eq_false_iff.1 (h.unknown m hm)).1 hname
  · intro a ha b hb hab
    obtain ⟨m, hm, rfl⟩ := List.mem_map.1 ha
    obtain ⟨m', hm', rfl⟩ := List.mem_map.1 hb
    rw [(eq_of_mem_pluginMembers hm).1] at hab
    exact (isKnown_eq_false_iff.1 (h.unknown m' hm')).2 hab.symm

/-- A well-formed configuration is saved without repeated names. -/
theorem WellFormed.distinct_toJson : c.toJson.Distinct := by
  rw [toJson_eq, distinct_object_iff]
  refine ⟨h.nodup_names, fun m hm => ?_⟩
  rcases List.mem_cons.1 hm with rfl | hm
  · refine distinct_array_iff.2 fun v hv => ?_
    obtain ⟨text, -, rfl⟩ := List.mem_map.1 hv
    trivial
  rcases List.mem_append.1 hm with hm | hm
  · rw [(eq_of_mem_pluginMembers hm).2, distinct_array_iff]
    intro v hv
    obtain ⟨e, he, rfl⟩ := List.mem_map.1 hv
    exact (h.plugins e he).distinct_toJson
  · exact (distinct_object_iff.1 h.distinct).2 m hm

end WellFormed

/-! ## What is saved of a value -/

/-- Looking up a name that is not known, only the members that are not known count. -/
theorem get?_unknownMembers (hincludes : name ≠ "includes") (hplugins : name ≠ "plugins") :
    (Json.object (unknownMembers ms)).get? name = (Json.object ms).get? name := by
  refine get?_object_filter fun m _ hname => ?_
  have hunknown : isKnown m.1 = false := by
    rw [isKnown_eq_false_iff, hname]
    exact ⟨fun h => hincludes (String.toList_inj.1 h), fun h => hplugins (String.toList_inj.1 h)⟩
  rw [hunknown]
  rfl

/-- A configuration that was read, and one with the same members but other patterns. -/
theorem get?_toJson_of_ofJson? {saved : Config} (h : ofJson? v = some c) (hsaved : saved.WellFormed)
    (hrest : saved.rest = c.rest) (hincludes : name ≠ "includes") (hplugins : name ≠ "plugins") :
    saved.toJson.get? name = (v.get? name).map plain := by
  obtain ⟨ms, rfl, -, -, hread⟩ := ofJson?_eq_some_iff.1 h
  calc saved.toJson.get? name
    _ = (Json.object (unknownMembers saved.members)).get? name := by
      rw [toJson_eq, get?_unknownMembers hincludes hplugins]
    _ = (Json.object c.rest).get? name := by rw [hsaved.unknownMembers_members, hrest]
    _ = (Json.object (unknownMembers ms)).plain.get? name := by rw [hread, plain]
    _ = ((Json.object ms).get? name).map plain := by
      rw [get?_plain, get?_unknownMembers hincludes hplugins]

end Config

/-! ## Runs of the hook -/

/-- The hook adds its patterns once for each plugin that is enabled, and changes nothing else. -/
theorem foldl_handleConfig (hooks : List Plugin) (c : Config) :
    hooks.foldl (fun c p => p.handleConfig c) c =
      { c with includes := c.includes ++
          (List.replicate (hooks.countP (·.enabled)) Plugin.addedIncludes).flatten } := by
  induction hooks generalizing c with
  | nil => simp
  | cons p hooks ih =>
    rw [List.foldl_cons, ih]
    cases hp : p.enabled with
    | false => simp [Plugin.handleConfig, hp]
    | true => simp [Plugin.handleConfig, hp, List.replicate_succ]

/-! ## From reading to saving -/

/-- What is saved of a value, read as `c`, when the hook has added its patterns `runs` times. -/
structure Survives (v : Json) (c saved : Config) (runs : Nat) : Prop where
  /-- Reading what was saved gives the same again. -/
  reread : Config.ofJson? saved.toJson = some saved
  plugins : saved.plugins = c.plugins
  rest : saved.rest = c.rest
  /-- The patterns that were read are those of the value, which may have none. -/
  patterns : (v.get? "includes").getD (.array []) = .array (c.includes.map .string)
  /-- The added patterns stand behind them, over and over. -/
  includes : saved.includes = c.includes ++ (List.replicate runs Plugin.addedIncludes).flatten
  /-- Other members are kept; of repeated ones inside of them the last one counts. -/
  kept : ∀ name : String, name ≠ "includes" → name ≠ "plugins" →
    saved.toJson.get? name = (v.get? name).map plain
  /-- Without repeated names they are the same. -/
  unchanged : v.Distinct → ∀ name : String, name ≠ "includes" → name ≠ "plugins" →
    saved.toJson.get? name = v.get? name
  added : ∀ name : String, saved.toJson.get? name ≠ none → name = "includes" ∨ v.get? name ≠ none
  distinct : saved.toJson.Distinct

theorem patterns_of_ofJson? (h : Config.ofJson? v = some c) :
    (v.get? "includes").getD (.array []) = .array (c.includes.map .string) := by
  obtain ⟨ms, rfl, hincludes, -, -⟩ := Config.ofJson?_eq_some_iff.1 h
  rw [get?_object_eq_getLast?]
  rcases listOf?_eq_some_iff.1 hincludes with ⟨hvalues, hnone⟩ | ⟨items, hvalues, hitems⟩
  · rw [hvalues, hnone]
    rfl
  · rw [hvalues, ← map_text?_eq_iff.1 hitems]
    rfl

/-- Plugins that are saved were written. -/
theorem get?_plugins_ne_none (h : Config.ofJson? v = some c) (hplugins : c.plugins ≠ []) :
    v.get? "plugins" ≠ none := by
  obtain ⟨ms, rfl, -, hread, -⟩ := Config.ofJson?_eq_some_iff.1 h
  rw [get?_object_eq_getLast?]
  rcases listOf?_eq_some_iff.1 hread with ⟨-, hnone⟩ | ⟨items, hvalues, -⟩
  · exact absurd hnone hplugins
  · rw [hvalues]
    simp

/-- Whatever a configuration was read from, and however often the hook of an enabled or a disabled
    plugin has run since, it is saved so that reading gives it back, with its plugins and all
    unknown members as they were. -/
theorem survives_handleConfig (h : Config.ofJson? v = some c) (hooks : List Plugin) :
    Survives v c (hooks.foldl (fun c p => p.handleConfig c) c) (hooks.countP (·.enabled)) := by
  rw [foldl_handleConfig]
  generalize hincludes : c.includes ++ (List.replicate (hooks.countP (·.enabled))
    Plugin.addedIncludes).flatten = includes
  -- The hook leaves alone all that a well-formed configuration is about.
  have hsaved : Config.WellFormed { c with includes } :=
    let hread := Config.wellFormed_of_ofJson? h
    ⟨hread.plugins, hread.unknown, hread.distinct⟩
  have hkept : ∀ name : String, name ≠ "includes" → name ≠ "plugins" →
      Json.get? name (Config.toJson { c with includes }) = (v.get? name).map plain :=
    fun name => Config.get?_toJson_of_ofJson? h hsaved rfl
  refine ⟨hsaved.ofJson?_toJson, rfl, rfl, patterns_of_ofJson? h, hincludes.symm, hkept, ?_, ?_,
    hsaved.distinct_toJson⟩
  · intro hdistinct name hname hname'
    rw [hkept name hname hname', ← get?_plain, hdistinct.plain_eq]
  · intro name hfound
    by_cases hname : name = "includes"
    · exact .inl hname
    refine .inr ?_
    by_cases hname' : name = "plugins"
    · subst hname'
      refine get?_plugins_ne_none h fun hnone => hfound ?_
      rw [Config.toJson_eq, get?_object_eq_getLast?, hsaved.valuesOf_plugins]
      simp [hnone]
    · intro hnone
      rw [hkept name hname hname', hnone] at hfound
      exact hfound rfl

/-- A configuration with entries of both forms, an option that is nothing, a member that no entry
    knows and others that the configuration does not know. -/
def sampleJson : Json :=
  .obj [("source", .str "./src"),
    ("plugins", .array [.obj [("name", .str "lint"), ("option", .null), ("extra", .bool true)],
      .array [.str "brand", .obj [("sizes", .array [.nat 1, .nat 2])]]]),
    ("includes", .array [.str "\\.mjs$"]),
    ("destination", .obj [("path", .str "./docs"), ("keep", .null)])]

def sampleConfig : Config where
  includes := ["\\.mjs$".toList]
  plugins := [⟨"lint".toList, none⟩,
    ⟨"brand".toList, some (.obj [("sizes", .array [.nat 1, .nat 2])])⟩]
  rest := [("source".toList, .str "./src"),
    ("destination".toList, .obj [("path", .str "./docs"), ("keep", .null)])]

theorem survives_handleConfig_sample :
    Config.ofJson? sampleJson = some sampleConfig ∧
      Survives sampleJson sampleConfig
        { sampleConfig with includes := ["\\.mjs$".toList, "\\.ts$".toList, "\\.js$".toList,
          "\\.ts$".toList, "\\.js$".toList] } 2 :=
  ⟨rfl, survives_handleConfig rfl [⟨true⟩, ⟨false⟩, ⟨true⟩]⟩

end TypedDocs
