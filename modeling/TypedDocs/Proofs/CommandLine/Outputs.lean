/-
  The outputs of a run with files.

  A run visits its inputs in order, and each visit sees what the visits before
  it have left.  A visit reads one file and writes at most one other, so two
  things can come between an input and its output: an earlier output that
  takes the place of the input before it is read, and a later output of the
  same name.  Where neither happens, the output holds what the input of the
  start of the run is processed to (`read_target`).

  Both do happen.  An output is named without the directories of its input, and
  typed and plain sources get the same extension, so different inputs can have
  one output name; the last of them wins (`not_forall_read_target`).
-/

import Mathlib.Data.List.TakeWhile
import TypedDocs.CommandLine.Run
import TypedDocs.Proofs.FileSystem.Write

namespace TypedDocs.Text

theorem suffix_of_stripPrefix? {p s rest : Text} (h : stripPrefix? p s = some rest) :
    rest <:+ s := by
  fun_induction stripPrefix? p s with
  | case1 s =>
    obtain rfl := Option.some.inj h
    exact List.suffix_rfl
  | case2 => cases h
  | case3 c p s ih => exact (ih h).trans (List.suffix_cons ..)
  | case4 => cases h

theorem prefix_of_stripSuffix? {p s rest : Text} (h : stripSuffix? p s = some rest) :
    rest <+: s := by
  obtain ⟨back, hback, rfl⟩ := Option.map_eq_some_iff.1 h
  exact List.reverse_suffix.1 (by simpa using suffix_of_stripPrefix? hback)

end TypedDocs.Text

namespace TypedDocs.CommandLine

open FileSystem

/-! ## Names of outputs -/

/-- An output has a name and no directories. -/
theorem slash_not_mem_outputName (emit : Emit) (source : Path) : '/' ∉ outputName emit source := by
  have hname : '/' ∉ (source.reverse.takeWhile fun c => c ≠ '/' ∧ c ≠ '\\').reverse := by
    intro h
    have hkept := List.mem_takeWhile_imp (List.mem_reverse.1 h)
    simp at hkept
  unfold outputName
  generalize (source.reverse.takeWhile fun c => c ≠ '/' ∧ c ≠ '\\').reverse = name at hname ⊢
  cases emit with
  | ts => exact hname
  | js =>
    have hstem : ∀ stem : Text, stem <+: name → '/' ∉ stem ++ ".js".toList := by
      intro stem hstem h
      rcases List.mem_append.1 h with h | h
      · exact hname (hstem.subset h)
      · exact absurd h (by decide)
    simp only
    split
    · rename_i hts
      exact hstem _ (Text.prefix_of_stripSuffix? hts)
    · rename_i hjs
      exact hstem _ (Text.prefix_of_stripSuffix? hjs)
    · exact hstem _ List.prefix_rfl

/-! ## Visits -/

section Visits

variable {job : Job} {includes : List Regex} {dir : Path} {p : Path} {ps : List Path}
  {fs fs' fs'' : FileSystem} {l : Location} {content text : Text}

/-- What an input of a run that goes on does to the file system. -/
inductive Visit (job : Job) (includes : List Regex) (dir : Path) (p : Path) (fs : FileSystem) :
    FileSystem → Prop where
  /-- The patterns leave the input out. -/
  | excluded (hp : isIncluded includes p = false) : Visit job includes dir p fs fs
  /-- The input cannot be processed, and there is a warning. -/
  | skipped {content : Text} {f : Failure} (hp : isIncluded includes p = true)
      (hread : fs.read p = .ok content) (hprocess : job.process p content = .error (.failed f)) :
      Visit job includes dir p fs fs
  | written {content text : Text} {fs' : FileSystem} (hp : isIncluded includes p = true)
      (hread : fs.read p = .ok content) (hprocess : job.process p content = .ok text)
      (hwrite : fs.write (job.target dir p) text = .ok fs') : Visit job includes dir p fs fs'

/-- What the inputs of a run do, one after the other. -/
inductive Visits (job : Job) (includes : List Regex) (dir : Path) :
    List Path → FileSystem → FileSystem → Prop where
  | nil (fs : FileSystem) : Visits job includes dir [] fs fs
  | cons {p : Path} {ps : List Path} {fs fs' fs'' : FileSystem}
      (hfirst : Visit job includes dir p fs fs') (hrest : Visits job includes dir ps fs' fs'') :
      Visits job includes dir (p :: ps) fs fs''

/-- A run that ends well has visited its first input and gone on with the others. -/
theorem exists_visit_of_success {warnings : List String}
    (h : (processFiles job includes dir (p :: ps) fs warnings).ending = .success) :
    ∃ fs' warnings', Visit job includes dir p fs fs' ∧
      processFiles job includes dir (p :: ps) fs warnings =
        processFiles job includes dir ps fs' warnings' := by
  rw [processFiles] at h ⊢
  cases hp : isIncluded includes p with
  | false => exact ⟨fs, _, .excluded hp, rfl⟩
  | true =>
    simp only [hp, Bool.not_true, Bool.false_eq_true, if_false] at h ⊢
    cases hread : fs.read p with
    | error e => simp [hread] at h
    | ok content =>
      simp only [hread] at h ⊢
      cases hprocess : job.process p content with
      | error e =>
        cases e with
        | crash => simp [hprocess] at h
        | failed f => exact ⟨fs, _, .skipped hp hread hprocess, rfl⟩
      | ok text =>
        simp only [hprocess] at h ⊢
        cases hwrite : fs.write (job.target dir p) text with
        | error e => simp [hwrite] at h
        | ok fs' => exact ⟨fs', _, .written hp hread hprocess hwrite, rfl⟩

theorem visits_of_success {warnings : List String}
    (h : (processFiles job includes dir ps fs warnings).ending = .success) :
    Visits job includes dir ps fs (processFiles job includes dir ps fs warnings).files := by
  induction ps generalizing fs warnings with
  | nil => exact .nil fs
  | cons p ps ih =>
    obtain ⟨fs', warnings', hvisit, hrest⟩ := exists_visit_of_success h
    rw [hrest] at h ⊢
    exact .cons hvisit (ih h)

theorem Visits.split {qs : List Path} (h : Visits job includes dir (ps ++ qs) fs fs'') :
    ∃ fs', Visits job includes dir ps fs fs' ∧ Visits job includes dir qs fs' fs'' := by
  induction ps generalizing fs with
  | nil => exact ⟨fs, .nil fs, h⟩
  | cons p ps ih =>
    cases h with
    | cons hfirst hrest =>
      obtain ⟨fs', hps, hqs⟩ := ih hrest
      exact ⟨fs', .cons hfirst hps, hqs⟩

/-! ## What visits leave in place -/

theorem Visit.sameDirectories (h : Visit job includes dir p fs fs') : SameDirectories fs fs' := by
  cases h with
  | excluded => exact .refl fs
  | skipped => exact .refl fs
  | written _ _ _ hwrite =>
    obtain ⟨_, _, _, hsame, _⟩ := write_cases hwrite
    exact hsame

/-- A visit changes nothing but its own output. -/
theorem Visit.entryAt?_eq (h : Visit job includes dir p fs fs')
    (hne : isIncluded includes p = true → fs.locate (job.target dir p) ≠ .ok l) :
    fs'.entryAt? l = fs.entryAt? l := by
  cases h with
  | excluded => rfl
  | skipped => rfl
  | written hp _ _ hwrite =>
    obtain ⟨m, hm, _, _, hentry⟩ := write_cases hwrite
    rw [hentry, if_neg]
    rintro rfl
    exact hne hp hm

theorem Visits.sameDirectories (h : Visits job includes dir ps fs fs') :
    SameDirectories fs fs' := by
  induction h with
  | nil fs => exact .refl fs
  | cons hfirst _ ih => exact hfirst.sameDirectories.trans ih

/-- Visits change nothing but their own outputs. -/
theorem Visits.entryAt?_eq (h : Visits job includes dir ps fs fs')
    (hne : ∀ p ∈ ps, isIncluded includes p = true → fs.locate (job.target dir p) ≠ .ok l) :
    fs'.entryAt? l = fs.entryAt? l := by
  induction h with
  | nil => rfl
  | cons hfirst _ ih =>
    obtain ⟨hp, hps⟩ := List.forall_mem_cons.1 hne
    -- The targets of the others lie where they did before the first visit.
    rw [ih fun q hq hincluded => hfirst.sameDirectories.locate_iff.not.2 (hps q hq hincluded),
      hfirst.entryAt?_eq hp]

/-- The visit of an input that can be processed leaves its output at a location of its own. -/
theorem Visit.exists_target (h : Visit job includes dir p fs fs')
    (hp : isIncluded includes p = true) (hread : fs.read p = .ok content)
    (hprocess : job.process p content = .ok text) :
    ∃ l, fs'.locate (job.target dir p) = .ok l ∧ fs'.entryAt? l = some (.file text) := by
  cases h with
  | excluded hp' => rw [hp] at hp'; cases hp'
  | skipped _ hread' hprocess' =>
    obtain rfl := Except.ok.inj (hread.symm.trans hread')
    cases hprocess.symm.trans hprocess'
  | written _ hread' hprocess' hwrite =>
    obtain rfl := Except.ok.inj (hread.symm.trans hread')
    obtain rfl := Except.ok.inj (hprocess.symm.trans hprocess')
    obtain ⟨l, hl, _, hsame, hentry⟩ := write_cases hwrite
    exact ⟨l, hsame.locate_iff.2 hl, by rw [hentry, if_pos rfl]⟩

/-- An input that no earlier output takes the place of is read as it stood before all visits. -/
theorem Visits.read_eq (h : Visits job includes dir ps fs fs') (hread : fs.read p = .ok content)
    (hinput : ∀ q ∈ ps, isIncluded includes q = true →
      fs.locate (job.target dir q) ≠ fs.locate p) : fs'.read p = .ok content := by
  obtain ⟨l, hl, hentry⟩ := read_eq_ok_iff.1 hread
  refine read_eq_ok_iff.2 ⟨l, h.sameDirectories.locate_iff.2 hl, ?_⟩
  rw [h.entryAt?_eq fun q hq hincluded => hl ▸ hinput q hq hincluded, hentry]

/-- An output stays unless a later one has its name. -/
theorem Visits.entryAt?_target (h : Visits job includes dir ps fs fs')
    (hl : fs.locate (job.target dir p) = .ok l) (hentry : fs.entryAt? l = some (.file text))
    (hname : ∀ q ∈ ps, isIncluded includes q = true →
      outputName job.emit q ≠ outputName job.emit p) : fs'.entryAt? l = some (.file text) := by
  have hfile : fs.entryAt? l ≠ some .directory := by simp [hentry]
  have hapart : ∀ q ∈ ps, isIncluded includes q = true → fs.locate (job.target dir q) ≠ .ok l := by
    intro q hq hincluded hq'
    exact hname q hq hincluded (name_eq_of_locate_join (slash_not_mem_outputName _ _)
      (slash_not_mem_outputName _ _) hl hq' hfile)
  rw [h.entryAt?_eq hapart, hentry]

end Visits

/-! ## Runs with files -/

/-- What a run with files has settled when it visits the first of them. -/
structure FileRun (args : List Text) (fs : FileSystem) where
  arguments : Arguments
  config : Config
  plugin : Plugin
  dir : Path
  /-- The file system with the directory for the outputs. -/
  start : FileSystem
  includes : List Regex
  found : List Path
  warnings : List String
  parse_eq : parse args = .ok arguments
  files_ne : arguments.files ≠ []
  config_eq : loadConfig fs arguments.config = .ok config
  plugin_eq : startPlugin arguments config = .ok plugin
  output_eq : arguments.output = some dir
  start_eq : fs.makeDirectories dir = .ok start
  includes_eq : compileIncludes (plugin.handleConfig config).includes = .ok includes
  found_eq : gather start arguments.files = (.ok found, warnings)

namespace FileRun

variable {args : List Text} {input : Text} {fs : FileSystem}

def job (r : FileRun args fs) : Job :=
  ⟨r.plugin, r.arguments.emit.getD .js, ⟨r.arguments.decorators, r.arguments.jsx⟩⟩

/-- The inputs, in the order of the visits. -/
def inputs (r : FileRun args fs) : List Path :=
  Path.sorted r.found

/-- Where the output for an input is written. -/
def target (r : FileRun args fs) (p : Path) : Path :=
  r.job.target r.dir p

theorem run_eq (r : FileRun args fs) (input : Text) :
    run args input fs = processFiles r.job r.includes r.dir r.inputs r.start r.warnings := by
  have hfiles : r.arguments.files.isEmpty = false := by simp [r.files_ne]
  simp only [run, r.parse_eq, runWith, r.config_eq, r.plugin_eq, hfiles, Bool.false_eq_true,
    if_false, runFiles, r.output_eq, r.start_eq, r.includes_eq, r.found_eq]
  rfl

/-- A run with files that ends well has settled all that. -/
theorem nonempty_of_success {a : Arguments} (hparse : parse args = .ok a) (hfiles : a.files ≠ [])
    (hsuccess : (run args input fs).ending = .success) : Nonempty (FileRun args fs) := by
  have hne : a.files.isEmpty = false := by simp [hfiles]
  simp only [run, hparse, runWith] at hsuccess
  split at hsuccess
  · cases hsuccess
  rename_i config hconfig
  split at hsuccess
  · cases hsuccess
  rename_i plugin hplugin
  simp only [hne, Bool.false_eq_true, if_false, runFiles] at hsuccess
  split at hsuccess
  · cases hsuccess
  rename_i dir hdir
  split at hsuccess
  · cases hsuccess
  rename_i start hstart
  split at hsuccess
  · cases hsuccess
  rename_i includes hincludes
  split at hsuccess
  · cases hsuccess
  rename_i found warnings hfound
  exact ⟨⟨a, config, plugin, dir, start, includes, found, warnings, hparse, hfiles, hconfig,
    hplugin, hdir, hstart, hincludes, hfound⟩⟩

/-- After a run with files that ends well, the output for an input holds what the input of the start
    is processed to, if no earlier output took the place of the input and no later one has the same
    name. -/
theorem read_target (r : FileRun args fs) (hsuccess : (run args input fs).ending = .success)
    (before after : List Path) (p : Path) (hinputs : r.inputs = before ++ p :: after)
    (hp : isIncluded r.includes p = true) (content text : Text) (hread : fs.read p = .ok content)
    (hprocess : r.job.process p content = .ok text)
    (hinput : ∀ q ∈ before, isIncluded r.includes q = true →
      r.start.locate (r.target q) ≠ r.start.locate p)
    (hname : ∀ q ∈ after, isIncluded r.includes q = true →
      outputName r.job.emit q ≠ outputName r.job.emit p) :
    (run args input fs).files.read (r.target p) = .ok text := by
  rw [r.run_eq] at hsuccess ⊢
  have hvisits := visits_of_success hsuccess
  generalize (processFiles r.job r.includes r.dir r.inputs r.start r.warnings).files = final
    at hvisits ⊢
  rw [hinputs] at hvisits
  -- The input is read as it was after the visits before it, and its output stays through the
  -- visits behind it.
  obtain ⟨fs₁, hbefore, hrest⟩ := hvisits.split
  cases hrest with
  | cons hvisit hafter =>
    have hstart : r.start.read p = .ok content := (extends_makeDirectories r.start_eq).read hread
    have hfresh : fs₁.read p = .ok content := hbefore.read_eq hstart hinput
    obtain ⟨l, hl, hentry⟩ := hvisit.exists_target hp hfresh hprocess
    exact read_eq_ok_iff.2
      ⟨l, hafter.sameDirectories.locate_iff.2 hl, hafter.entryAt?_target hl hentry hname⟩

end FileRun

/-! ## Two inputs of one name -/

def twinArgs : List Text :=
  ["-o".toList, "out".toList, "a/x.js".toList, "b/x.js".toList, "b/y.js".toList]

def twinFiles : FileSystem where
  home := []
  entries := [(["a".toList], .directory), (["a".toList, "x.js".toList], .file "let a;\n".toList),
    (["b".toList], .directory), (["b".toList, "x.js".toList], .file "let b;\n".toList),
    (["b".toList, "y.js".toList], .file "let c;\n".toList)]

def twinRun : FileRun twinArgs twinFiles where
  arguments :=
    { files := ["a/x.js".toList, "b/x.js".toList, "b/y.js".toList], output := some "out".toList }
  config := {}
  plugin := ⟨true⟩
  dir := "out".toList
  start := twinFiles.put ["out".toList] .directory
  includes := (compileIncludes Plugin.addedIncludes).toOption.getD []
  found := ["a/x.js".toList, "b/x.js".toList, "b/y.js".toList]
  warnings := []
  parse_eq := by decide +kernel
  files_ne := by decide
  config_eq := rfl
  plugin_eq := by decide +kernel
  output_eq := rfl
  start_eq := rfl
  includes_eq := rfl
  found_eq := by decide +kernel

theorem twinRun_inputs :
    twinRun.inputs = ["a/x.js".toList, "b/x.js".toList, "b/y.js".toList] :=
  Path.sorted_of_pairwise (by decide)

/-- What the run with the twins comes to. -/
theorem run_twins (input : Text) :
    (run twinArgs input twinFiles).ending = .success ∧
      (run twinArgs input twinFiles).files.read "out/x.js".toList = .ok "let b;\n".toList := by
  rw [twinRun.run_eq, twinRun_inputs]
  decide +kernel

/-- The last input of a name wins. -/
theorem read_target_twin :
    (run twinArgs [] twinFiles).ending = .success ∧
      twinRun.inputs = ["a/x.js".toList] ++ "b/x.js".toList :: ["b/y.js".toList] ∧
      (run twinArgs [] twinFiles).files.read (twinRun.target "b/x.js".toList) =
        .ok "let b;\n".toList := by
  have hsuccess := (run_twins []).1
  refine ⟨hsuccess, twinRun_inputs, ?_⟩
  exact twinRun.read_target hsuccess ["a/x.js".toList] ["b/y.js".toList] "b/x.js".toList
    twinRun_inputs (by decide +kernel) "let b;\n".toList "let b;\n".toList (by decide +kernel)
    (by decide +kernel) (by decide +kernel) (by decide +kernel)

/-- The output for an input is lost to another input of the same name in another directory. -/
theorem not_forall_read_target :
    ¬ ∀ (args : List Text) (input : Text) (fs : FileSystem) (r : FileRun args fs),
      (run args input fs).ending = .success → ∀ p ∈ r.inputs, isIncluded r.includes p = true →
        ∀ content text, fs.read p = .ok content → r.job.process p content = .ok text →
          (run args input fs).files.read (r.target p) = .ok text := by
  intro h
  obtain ⟨hsuccess, hlast⟩ := run_twins []
  have hfirst := h twinArgs [] twinFiles twinRun hsuccess "a/x.js".toList
    (by rw [twinRun_inputs]; decide) (by decide +kernel) "let a;\n".toList "let a;\n".toList
    (by decide +kernel) (by decide +kernel)
  have htarget : twinRun.target "a/x.js".toList = "out/x.js".toList := by decide +kernel
  rw [htarget, hlast] at hfirst
  exact absurd hfirst (by decide)

end TypedDocs.CommandLine
