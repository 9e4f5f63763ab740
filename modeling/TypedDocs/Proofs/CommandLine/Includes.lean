/-
  What the configuration hook takes in.

  The hook adds two patterns to those of the configuration, and a path is taken
  in if one of them matches.  More patterns take in more paths, but a list
  without patterns takes in every path.  So the hook keeps all paths that were
  taken in, except where the configuration has no patterns of its own: there it
  leaves the paths that end like a source (`isIncluded_handleConfig`).
-/

import TypedDocs.CommandLine.Run
import TypedDocs.Proofs.Regex.Ending

namespace TypedDocs.CommandLine

open Regex

/-! ## Patterns one after the other -/

/-- A list of patterns can be read if its first one can and the others can. -/
theorem compileIncludes_cons_eq_ok {p : Text} {ps : List Text} {rs : List Regex} :
    compileIncludes (p :: ps) = .ok rs ↔
      ∃ r rest, Regex.parse? p = some r ∧ compileIncludes ps = .ok rest ∧ rs = r :: rest := by
  rw [compileIncludes]
  cases hp : Regex.parse? p with
  | none => simp
  | some r =>
    cases hps : compileIncludes ps with
    | error e => simp [Except.map]
    | ok rest => simp [Except.map, eq_comm]

/-- The expressions of one list of patterns and then of another. -/
theorem compileIncludes_append {ps qs : List Text} {rs ss : List Regex}
    (hps : compileIncludes ps = .ok rs) (hqs : compileIncludes qs = .ok ss) :
    compileIncludes (ps ++ qs) = .ok (rs ++ ss) := by
  induction ps generalizing rs with
  | nil =>
    obtain rfl : [] = rs := Except.ok.inj hps
    exact hqs
  | cons p ps ih =>
    obtain ⟨r, rest, hp, hrest, rfl⟩ := compileIncludes_cons_eq_ok.1 hps
    exact compileIncludes_cons_eq_ok.2 ⟨r, rest ++ ss, hp, ih hrest, rfl⟩

/-- There are as many expressions as patterns. -/
theorem length_of_compileIncludes {ps : List Text} {rs : List Regex}
    (h : compileIncludes ps = .ok rs) : rs.length = ps.length := by
  induction ps generalizing rs with
  | nil =>
    obtain rfl : [] = rs := Except.ok.inj h
    rfl
  | cons p ps ih =>
    obtain ⟨r, rest, -, hrest, rfl⟩ := compileIncludes_cons_eq_ok.1 h
    rw [List.length_cons, List.length_cons, ih hrest]

/-! ## The patterns of the plugin -/

/-- A path that ends in `.ts` or `.js`. -/
def EndsInSource (path : Path) : Prop :=
  ".ts".toList <:+ path ∨ ".js".toList <:+ path

instance (path : Path) : Decidable (EndsInSource path) :=
  inferInstanceAs (Decidable (_ ∨ _))

theorem compileIncludes_addedIncludes :
    compileIncludes Plugin.addedIncludes = .ok [atEnd ".ts".toList, atEnd ".js".toList] := by
  decide +kernel

/-- With the plugin's patterns behind them, patterns take in what one of them matches, and every
    path that ends like a source. -/
theorem isIncluded_append_added {rs : List Regex} {path : Path} :
    isIncluded (rs ++ [atEnd ".ts".toList, atEnd ".js".toList]) path = true ↔
      (∃ r ∈ rs, r.isMatch path = true) ∨ EndsInSource path := by
  rw [isIncluded, Bool.or_eq_true, List.any_append, Bool.or_eq_true, List.any_eq_true]
  simp [isMatch_atEnd, EndsInSource]

/-- The hook reads as the configuration's own patterns and the plugin's. -/
theorem compileIncludes_handleConfig {plugin : Plugin} {config : Config} {own : List Regex}
    (henabled : plugin.enabled = true) (hown : compileIncludes config.includes = .ok own) :
    compileIncludes (plugin.handleConfig config).includes =
      .ok (own ++ [atEnd ".ts".toList, atEnd ".js".toList]) := by
  rw [Plugin.handleConfig, if_pos henabled]
  exact compileIncludes_append hown compileIncludes_addedIncludes

/-- Behind the hook every path that ends like a source is taken in.  A path that was taken in
    before is kept exactly if the configuration has a pattern of its own or the path ends like a
    source. -/
theorem isIncluded_handleConfig (plugin : Plugin) (config : Config) (own : List Regex)
    (henabled : plugin.enabled = true) (hown : compileIncludes config.includes = .ok own) :
    ∃ widened, compileIncludes (plugin.handleConfig config).includes = .ok widened ∧
      (∀ path, EndsInSource path → isIncluded widened path = true) ∧
      ∀ path, (isIncluded own path = true → isIncluded widened path = true) ↔
        config.includes ≠ [] ∨ EndsInSource path := by
  refine ⟨_, compileIncludes_handleConfig henabled hown,
    fun path hpath => isIncluded_append_added.2 (Or.inr hpath), fun path => ?_⟩
  have hlength := length_of_compileIncludes hown
  rw [isIncluded_append_added]
  constructor
  · intro hkept
    by_cases hnone : config.includes = []
    · -- Without patterns every path is taken in, and none is matched.
      rw [hnone, List.length_nil, List.length_eq_zero_iff] at hlength
      subst hlength
      rcases hkept rfl with ⟨r, hr, -⟩ | hpath
      · cases hr
      · exact Or.inr hpath
    · exact Or.inl hnone
  · rintro (hsome | hpath) hincluded
    · have hne : own ≠ [] := by
        rintro rfl
        exact hsome (List.length_eq_zero_iff.1 hlength.symm)
      rw [isIncluded, Bool.or_eq_true, List.any_eq_true] at hincluded
      rcases hincluded with hempty | hmatch
      · exact absurd (List.isEmpty_iff.1 hempty) hne
      · exact Or.inl hmatch
    · exact Or.inr hpath

/-- A configuration that takes in what has `lib` in its path. -/
def libConfig : Config :=
  { includes := ["lib".toList] }

theorem isIncluded_handleConfig_lib :
    (⟨true⟩ : Plugin).enabled = true ∧
      compileIncludes libConfig.includes =
        .ok [seqs ("lib".toList.map fun c => .set (.one c))] ∧
      ∃ widened, compileIncludes ((⟨true⟩ : Plugin).handleConfig libConfig).includes = .ok widened ∧
        (∀ path, EndsInSource path → isIncluded widened path = true) ∧
        ∀ path, (isIncluded [seqs ("lib".toList.map fun c => .set (.one c))] path = true →
          isIncluded widened path = true) ↔ libConfig.includes ≠ [] ∨ EndsInSource path := by
  have hown : compileIncludes libConfig.includes =
      .ok [seqs ("lib".toList.map fun c => .set (.one c))] := by
    decide +kernel
  exact ⟨rfl, hown, isIncluded_handleConfig ⟨true⟩ libConfig _ rfl hown⟩

/-- Without patterns in the configuration the hook takes paths out. -/
theorem not_forall_isIncluded_handleConfig :
    ¬ ∀ (plugin : Plugin) (config : Config) (own : List Regex), plugin.enabled = true →
      compileIncludes config.includes = .ok own →
        ∃ widened, compileIncludes (plugin.handleConfig config).includes = .ok widened ∧
          ∀ path, (isIncluded own path = true → isIncluded widened path = true) ∧
            (EndsInSource path → isIncluded widened path = true) := by
  intro h
  obtain ⟨widened, hwidened, hpaths⟩ := h ⟨true⟩ {} [] rfl rfl
  have hadded : compileIncludes ((⟨true⟩ : Plugin).handleConfig {}).includes =
      .ok ([] ++ [atEnd ".ts".toList, atEnd ".js".toList]) :=
    compileIncludes_handleConfig rfl rfl
  obtain rfl := Except.ok.inj (hwidened.symm.trans hadded)
  have hkept := (hpaths "app.mjs".toList).1 rfl
  revert hkept
  decide +kernel

end TypedDocs.CommandLine
