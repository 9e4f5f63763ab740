/-
  A file that cannot be processed.

  Such a file costs a run nothing but the lines about it.  Each turn of a run
  either goes on with the next input, with the lines it has added, or ends the
  run (`turn_cases`); the turn of a file that cannot be processed goes on with
  the file system as it is (`processFiles_of_failing`).  So a run without some of
  these files ends in the same way, with the same files and the same lines, less
  the lines about the files that were left out (`FileRun.run_without`).

  These lines are one that says that the file is passed over and, in front of
  it, the remark about syntax errors if the source has some.  The latter comes
  on its own, so it is not one line for each file (`not_forall_run_without`).
-/

import TypedDocs.Proofs.CommandLine.Outputs

namespace TypedDocs.CommandLine

variable {job : Job} {includes : List Regex} {dir : Path} {F : Path → Bool} {p : Path}
  {ps : List Path} {fs fs' fs'' : FileSystem} {content : Text} {f : Failure}

/-! ## One turn -/

/-- The line that says that an input is passed over. -/
def skipLine (p : Path) (f : Failure) : String :=
  "skipping " ++ String.ofList p ++ ": " ++ f.chain

/-- An input that is taken in and can be read, but not processed. -/
structure Failing (job : Job) (includes : List Regex) (p : Path) (fs : FileSystem)
    (content : Text) (f : Failure) : Prop where
  included : isIncluded includes p = true
  read : fs.read p = .ok content
  fails : job.process p content = .error (.failed f)

theorem Failing.visit (h : Failing job includes p fs content f) : Visit job includes dir p fs fs :=
  .skipped h.included h.read h.fails

/-- The turn of an input leads to one file system: what it reads settles what it writes. -/
theorem Visit.unique (h : Visit job includes dir p fs fs') (h' : Visit job includes dir p fs fs'') :
    fs' = fs'' := by
  cases h <;> cases h' <;> simp_all

/-- After the turn of an input that goes on, the run goes on with the other inputs. -/
theorem processFiles_of_visit (h : Visit job includes dir p fs fs') :
    ∃ lines, ∀ ps warnings, processFiles job includes dir (p :: ps) fs warnings =
      processFiles job includes dir ps fs' (warnings ++ lines) := by
  cases h with
  | excluded hp =>
    refine ⟨[], fun ps warnings => ?_⟩
    simp [processFiles, hp]
  | @skipped content f hp hread hprocess =>
    refine ⟨job.remarks p content ++ [skipLine p f], fun ps warnings => ?_⟩
    simp [processFiles, hp, hread, hprocess, skipLine]
  | @written content text fs' hp hread hprocess hwrite =>
    refine ⟨job.remarks p content, fun ps warnings => ?_⟩
    simp [processFiles, hp, hread, hprocess, hwrite]

/-- The turn of an input that does not go on ends the run and leaves the files alone. -/
theorem processFiles_of_not_visit (h : ∀ fs', ¬ Visit job includes dir p fs fs') :
    ∃ ending lines, ∀ ps warnings, processFiles job includes dir (p :: ps) fs warnings =
      ⟨ending, [], warnings ++ lines, fs⟩ := by
  have hp : isIncluded includes p = true := by
    by_contra hp
    exact h fs (.excluded (Bool.eq_false_iff.2 hp))
  -- The run ends as it would if there were no other inputs.
  refine ⟨(processFiles job includes dir [p] fs []).ending, ?_⟩
  cases hread : fs.read p with
  | error e => exact ⟨[], fun ps warnings => by simp [processFiles, hp, hread]⟩
  | ok content =>
    refine ⟨job.remarks p content, fun ps warnings => ?_⟩
    cases hprocess : job.process p content with
    | error e =>
      cases e with
      | crash => simp [processFiles, hp, hread, hprocess]
      | failed f => exact absurd (.skipped hp hread hprocess) (h fs)
    | ok text =>
      cases hwrite : fs.write (job.target dir p) text with
      | error e => simp [processFiles, hp, hread, hprocess, hwrite]
      | ok fs' => exact absurd (.written hp hread hprocess hwrite) (h fs')

/-- The turn of a file that cannot be processed leaves everything but the lines about it. -/
theorem processFiles_of_failing (h : Failing job includes p fs content f) (dir : Path)
    (ps : List Path) (warnings : List String) :
    processFiles job includes dir (p :: ps) fs warnings =
      processFiles job includes dir ps fs
        (warnings ++ (job.remarks p content ++ [skipLine p f])) := by
  simp [processFiles, h.included, h.read, h.fails, skipLine]

/-! ## Runs without some files -/

/-- What a run says about one of its inputs. -/
structure Report where
  path : Path
  lines : List String

/-- All inputs in `F` have their turn, and cannot be processed then. -/
def AllFail (job : Job) (includes : List Regex) (dir : Path) (F : Path → Bool) (ps : List Path)
    (fs : FileSystem) : Prop :=
  ∀ before p after, ps = before ++ p :: after → F p = true →
    ∃ fs' content f, Visits job includes dir before fs fs' ∧ Failing job includes p fs' content f

/-- A report on an input that cannot be processed when its turn comes: the remarks about its source,
    and then that it is passed over. -/
def IsSkip (job : Job) (includes : List Regex) (dir : Path) (ps : List Path) (fs : FileSystem)
    (report : Report) : Prop :=
  ∃ before after fs' content f, ps = before ++ report.path :: after ∧
    Visits job includes dir before fs fs' ∧ Failing job includes report.path fs' content f ∧
      report.lines = job.remarks report.path content ++ [skipLine report.path f]

theorem AllFail.tail (h : AllFail job includes dir F (p :: ps) fs)
    (hvisit : Visit job includes dir p fs fs') : AllFail job includes dir F ps fs' := by
  rintro before q after rfl hq
  obtain ⟨fs₂, content, f, hvisits, hfails⟩ := h (p :: before) q after rfl hq
  cases hvisits with
  | cons hfirst hrest =>
    obtain rfl := hvisit.unique hfirst
    exact ⟨fs₂, content, f, hrest, hfails⟩

theorem IsSkip.cons {report : Report} (h : IsSkip job includes dir ps fs' report)
    (hvisit : Visit job includes dir p fs fs') : IsSkip job includes dir (p :: ps) fs report := by
  obtain ⟨before, after, fs₂, content, f, rfl, hvisits, hfails⟩ := h
  exact ⟨p :: before, after, fs₂, content, f, rfl, .cons hvisit hvisits, hfails⟩

/-- Two outcomes that differ in what is said about the files in `F`.  The reports tell what the
    first run has added to its lines, and, less those about `F`, what the second has. -/
structure SameBut (F : Path → Bool) (reports : List Report) (before before' : List String)
    (whole rest : Outcome) : Prop where
  ending : rest.ending = whole.ending
  output : rest.output = whole.output
  files : rest.files = whole.files
  lines : whole.warnings = before ++ reports.flatMap (·.lines)
  others : rest.warnings =
    before' ++ (reports.filter fun report => !F report.path).flatMap (·.lines)

section SameBut

variable {reports : List Report} {before before' lines : List String} {whole rest : Outcome}

/-- Both runs have had the turn of an input outside of `F`. -/
theorem SameBut.keep (h : SameBut F reports (before ++ lines) (before' ++ lines) whole rest)
    (hp : F p = false) : SameBut F (⟨p, lines⟩ :: reports) before before' whole rest where
  ending := h.ending
  output := h.output
  files := h.files
  lines := by rw [h.lines, List.flatMap_cons, List.append_assoc]
  others := by
    rw [h.others, List.filter_cons_of_pos (by simp [hp]), List.flatMap_cons, List.append_assoc]

/-- The first run has had the turn of a file in `F`. -/
theorem SameBut.drop (h : SameBut F reports (before ++ lines) before' whole rest)
    (hp : F p = true) : SameBut F (⟨p, lines⟩ :: reports) before before' whole rest where
  ending := h.ending
  output := h.output
  files := h.files
  lines := by rw [h.lines, List.flatMap_cons, List.append_assoc]
  others := by rw [h.others, List.filter_cons_of_neg (by simp [hp])]

end SameBut

/-- Reports tell a run over some inputs, and the run without those in `F`. -/
structure Told (job : Job) (includes : List Regex) (dir : Path) (F : Path → Bool) (ps : List Path)
    (fs : FileSystem) (reports : List Report) : Prop where
  same : ∀ before before', SameBut F reports before before'
    (processFiles job includes dir ps fs before)
    (processFiles job includes dir (ps.filter fun p => !F p) fs before')
  paths : (reports.filter fun report => F report.path).map (·.path) = ps.filter F
  skips : ∀ report ∈ reports, F report.path = true → IsSkip job includes dir ps fs report

theorem told_nil (job : Job) (includes : List Regex) (dir : Path) (F : Path → Bool)
    (fs : FileSystem) : Told job includes dir F [] fs [] where
  same before before' :=
    ⟨rfl, rfl, rfl, (List.append_nil before).symm, (List.append_nil before').symm⟩
  paths := rfl
  skips report hreport := by cases hreport

/-- The turn of an input outside of `F`. -/
theorem Told.keep {reports : List Report} {lines : List String}
    (h : Told job includes dir F ps fs' reports) (hp : F p = false)
    (hvisit : Visit job includes dir p fs fs')
    (hlines : ∀ ps warnings, processFiles job includes dir (p :: ps) fs warnings =
      processFiles job includes dir ps fs' (warnings ++ lines)) :
    Told job includes dir F (p :: ps) fs (⟨p, lines⟩ :: reports) where
  same before before' := by
    rw [List.filter_cons_of_pos (by simp [hp]), hlines, hlines]
    exact (h.same _ _).keep hp
  paths := by
    rw [List.filter_cons_of_neg (by simp [hp]), List.filter_cons_of_neg (by simp [hp]), h.paths]
  skips report hreport hF := by
    rcases List.mem_cons.1 hreport with rfl | hreport
    · rw [hp] at hF
      cases hF
    · exact (h.skips report hreport hF).cons hvisit

/-- The turn of a file in `F`. -/
theorem Told.drop {reports : List Report} (h : Told job includes dir F ps fs reports)
    (hp : F p = true) (hfails : Failing job includes p fs content f) :
    Told job includes dir F (p :: ps) fs
      (⟨p, job.remarks p content ++ [skipLine p f]⟩ :: reports) where
  same before before' := by
    rw [List.filter_cons_of_neg (by simp [hp]), processFiles_of_failing hfails]
    exact (h.same _ _).drop hp
  paths := by
    rw [List.filter_cons_of_pos (by simp [hp]), List.filter_cons_of_pos (by simp [hp]),
      List.map_cons, h.paths]
  skips report hreport hF := by
    rcases List.mem_cons.1 hreport with rfl | hreport
    · exact ⟨[], ps, fs, content, f, rfl, .nil fs, hfails, rfl⟩
    · exact (h.skips report hreport hF).cons hfails.visit

/-- Where the run ends, no file in `F` is left: it would have no turn. -/
theorem AllFail.eq_false_of_not_visit (h : AllFail job includes dir F (p :: ps) fs)
    (hvisit : ∀ fs', ¬ Visit job includes dir p fs fs') : ∀ q ∈ p :: ps, F q = false := by
  intro q hq
  by_contra hF
  obtain ⟨before, after, hsplit⟩ := List.append_of_mem hq
  obtain ⟨fs', content, f, hvisits, hfails⟩ := h before q after hsplit (by simpa using hF)
  cases hvisits with
  | nil =>
    obtain rfl := (List.cons.inj hsplit).1
    exact hvisit fs hfails.visit
  | cons hfirst _ =>
    obtain rfl := (List.cons.inj hsplit).1
    exact hvisit _ hfirst

theorem told_of_not_visit (h : AllFail job includes dir F (p :: ps) fs)
    (hvisit : ∀ fs', ¬ Visit job includes dir p fs fs') :
    ∃ reports, Told job includes dir F (p :: ps) fs reports := by
  have hothers := h.eq_false_of_not_visit hvisit
  obtain ⟨ending, lines, hend⟩ := processFiles_of_not_visit hvisit
  have hp : F p = false := hothers p (List.mem_cons_self ..)
  refine ⟨[⟨p, lines⟩], fun before before' => ?_, ?_, ?_⟩
  · rw [List.filter_eq_self.2 fun q hq => by simp [hothers q hq], hend, hend]
    exact ⟨rfl, rfl, rfl, by simp, by simp [hp]⟩
  · have hnone : (p :: ps).filter F = [] :=
      List.filter_eq_nil_iff.2 fun q hq => by simp [hothers q hq]
    rw [hnone]
    simp [hp]
  · intro report hreport hF
    rw [List.mem_singleton.1 hreport, hp] at hF
    cases hF

/-- By induction on the inputs, from turn to turn. -/
theorem AllFail.exists_told (h : AllFail job includes dir F ps fs) :
    ∃ reports, Told job includes dir F ps fs reports := by
  induction ps generalizing fs with
  | nil => exact ⟨[], told_nil ..⟩
  | cons p ps ih =>
    by_cases hvisit : ∃ fs', Visit job includes dir p fs fs'
    · obtain ⟨fs', hvisit⟩ := hvisit
      obtain ⟨reports, htold⟩ := ih (h.tail hvisit)
      cases hp : F p with
      | false =>
        obtain ⟨lines, hlines⟩ := processFiles_of_visit hvisit
        exact ⟨_, htold.keep hp hvisit hlines⟩
      | true =>
        obtain ⟨fs₁, content, f, hnone, hfails⟩ := h [] p ps rfl hp
        cases hnone
        obtain rfl := hvisit.unique hfails.visit
        exact ⟨_, htold.drop hp hfails⟩
    · exact told_of_not_visit h (not_exists.1 hvisit)

/-- A run with files and the same run without some files that cannot be processed when their turn
    comes end alike, with the same output and the same files.  Report by report they say the same;
    the first one also says for each of these files that it is passed over, behind the remarks
    about its source. -/
theorem FileRun.run_without {args : List Text} {input : Text} {fs : FileSystem}
    (r : FileRun args fs) (F : Path → Bool)
    (hF : AllFail r.job r.includes r.dir F r.inputs r.start) :
    ∃ reports : List Report,
      SameBut F reports r.warnings r.warnings (run args input fs)
        (processFiles r.job r.includes r.dir (r.inputs.filter fun p => !F p) r.start r.warnings) ∧
      (reports.filter fun report => F report.path).map (·.path) = r.inputs.filter F ∧
      ∀ report ∈ reports, F report.path = true →
        IsSkip r.job r.includes r.dir r.inputs r.start report := by
  obtain ⟨reports, htold⟩ := hF.exists_told
  rw [r.run_eq]
  exact ⟨reports, htold.same _ _, htold.paths, htold.skips⟩

/-! ## A file with a stray bracket -/

/-- A bracket that closes nothing. -/
def strayText : Text :=
  ")".toList

def strayArgs : List Text :=
  ["-o".toList, "out".toList, "a.ts".toList, "b.js".toList]

def strayFiles : FileSystem where
  home := []
  entries := [(["a.ts".toList], .file strayText), (["b.js".toList], .file "let b;\n".toList)]

theorem compileIncludes_added : compileIncludes (Plugin.handleConfig ⟨true⟩ {}).includes =
    .ok ((compileIncludes Plugin.addedIncludes).toOption.getD []) :=
  rfl

def strayRun : FileRun strayArgs strayFiles where
  arguments := { files := ["a.ts".toList, "b.js".toList], output := some "out".toList }
  config := {}
  plugin := ⟨true⟩
  dir := "out".toList
  start := strayFiles.put ["out".toList] .directory
  includes := (compileIncludes Plugin.addedIncludes).toOption.getD []
  found := ["a.ts".toList, "b.js".toList]
  warnings := []
  parse_eq := by decide +kernel
  files_ne := by decide
  config_eq := rfl
  plugin_eq := by decide +kernel
  output_eq := rfl
  start_eq := rfl
  includes_eq := compileIncludes_added
  found_eq := by decide +kernel

theorem strayRun_inputs : strayRun.inputs = ["a.ts".toList, "b.js".toList] :=
  Path.sorted_of_pairwise (by decide)

/-- The file with the bracket. -/
def isStray (p : Path) : Bool :=
  p == "a.ts".toList

theorem annotateComments_stray : annotateComments false strayText = .ok strayText := by
  have htokens : (Script.recover false strayText).tokens = [] :=
    List.isEmpty_iff.1 (by decide +kernel)
  have hcomments : (Script.recover false strayText).comments = [] :=
    List.isEmpty_iff.1 (by decide +kernel)
  have hleaves : Script.leaves [] [] = [] := List.mergeSort_nil
  -- The bracket is passed over, so the outline is empty and there is nothing to annotate.
  have hnone : Survey.declarations strayText (Script.outlineOf false strayText) = [] := by
    rw [Script.outlineOf, Script.Reading.outline, htokens, hcomments, hleaves]
    exact List.isEmpty_iff.1 (by decide +kernel)
  have hsorted : Annotate.lastFirst [] = [] := List.mergeSort_nil
  have hcomments' : Annotate.commentEdits strayText [] = .ok [] := rfl
  have happly : Edit.apply strayText [] = .ok strayText := by
    rw [Edit.apply, List.mergeSort_nil]
    decide +kernel
  rw [annotateComments, Annotate.annotateOutline, hnone, Annotate.annotateDeclarations, hsorted,
    hcomments']
  simp only [happly]

theorem lower_stray : Script.lower ⟨false, false⟩ strayText = .error .malformed := by
  have hread : (Script.read false strayText).toOption.isNone = true := by decide +kernel
  rw [Script.lower, if_neg (by decide +kernel)]
  cases hcase : Script.read false strayText with
  | error e => rfl
  | ok s =>
    rw [hcase] at hread
    cases hread

/-- What is said of the bracket. -/
def strayFailure : Failure :=
  ⟨"failed to transform a.ts", some "failed to parse source: not a script"⟩

theorem failing_stray :
    Failing strayRun.job strayRun.includes "a.ts".toList strayRun.start strayText strayFailure where
  included := by decide +kernel
  read := by decide +kernel
  fails := by
    have htranspile : transpile ⟨false, false⟩ strayText = .error (.lower .malformed) := by
      simp only [transpile, annotateComments_stray, lower_stray]
    have htransform : Wrapper.transform transpile ⟨"a.ts".toList, ⟨false, false⟩⟩ strayText =
        .error (.lower .malformed) := by
      rw [Wrapper.transform, if_pos (by decide +kernel), htranspile]
    have hrun : (CodeParser.run (.wrapped ⟨"a.ts".toList, ⟨false, false⟩⟩ echo) strayText).result =
        .error (.transform "a.ts".toList (.lower .malformed)) := by
      simp only [CodeParser.run, CodeParser.runWith, htransform]
    have hparser : (strayRun.job.plugin.handleCodeParser
        ⟨echo, strayRun.job.options, "a.ts".toList⟩).parser =
          .wrapped ⟨"a.ts".toList, ⟨false, false⟩⟩ echo := rfl
    have hemit : strayRun.job.emit = .js := rfl
    simp only [Job.process, hemit, hparser, hrun]
    decide +kernel

theorem allFail_stray :
    AllFail strayRun.job strayRun.includes strayRun.dir isStray strayRun.inputs strayRun.start := by
  intro before p after hsplit hp
  obtain rfl : p = "a.ts".toList := eq_of_beq hp
  rw [strayRun_inputs] at hsplit
  cases before with
  | nil => exact ⟨_, _, _, .nil _, failing_stray⟩
  | cons q before =>
    -- The other input is not the one with the bracket.
    have hmem : "a.ts".toList ∈ ["b.js".toList] := by
      rw [(List.cons.inj hsplit).2]
      simp
    exact absurd hmem (by decide)

theorem run_without_stray :
    AllFail strayRun.job strayRun.includes strayRun.dir isStray strayRun.inputs strayRun.start ∧
      ∃ reports : List Report,
        SameBut isStray reports [] [] (run strayArgs [] strayFiles)
          (processFiles strayRun.job strayRun.includes strayRun.dir ["b.js".toList]
            strayRun.start []) ∧
        (reports.filter fun report => isStray report.path).map (·.path) = ["a.ts".toList] ∧
        ∀ report ∈ reports, isStray report.path = true →
          IsSkip strayRun.job strayRun.includes strayRun.dir ["a.ts".toList, "b.js".toList]
            strayRun.start report := by
  obtain ⟨reports, hsame, hpaths, hskips⟩ :=
    @FileRun.run_without strayArgs [] strayFiles strayRun isStray allFail_stray
  have hothers : (strayRun.inputs.filter fun p => !isStray p) = ["b.js".toList] := by
    rw [strayRun_inputs]
    decide
  have hstray : strayRun.inputs.filter isStray = ["a.ts".toList] := by
    rw [strayRun_inputs]
    decide
  rw [hothers] at hsame
  rw [hstray] at hpaths
  rw [strayRun_inputs] at hskips
  exact ⟨allFail_stray, reports, hsame, hpaths, hskips⟩

/-! ## More than one line for a file -/

/-- Where each report on a file in `F` is one line, the lines of all reports are as many as those of
    the others and these files. -/
theorem length_flatMap_lines {reports : List Report}
    (hone : ∀ report ∈ reports, F report.path = true → report.lines.length = 1) :
    (reports.flatMap (·.lines)).length =
      ((reports.filter fun report => !F report.path).flatMap (·.lines)).length +
        (reports.filter fun report => F report.path).length := by
  induction reports with
  | nil => rfl
  | cons report reports ih =>
    have hrest := ih fun other hother => hone other (List.mem_cons_of_mem _ hother)
    cases hF : F report.path with
    | false =>
      rw [List.filter_cons_of_pos (by simp [hF]), List.filter_cons_of_neg (by simp [hF]),
        List.flatMap_cons, List.flatMap_cons, List.length_append, List.length_append, hrest]
      omega
    | true =>
      have hline := hone report (List.mem_cons_self ..) hF
      rw [List.filter_cons_of_neg (by simp [hF]), List.filter_cons_of_pos (by simp [hF]),
        List.flatMap_cons, List.length_append, List.length_cons, hrest, hline]
      omega

theorem run_stray_warnings : (run strayArgs [] strayFiles).warnings =
    ["source contains syntax errors; continuing best-effort",
      skipLine "a.ts".toList strayFailure] := by
  rw [strayRun.run_eq, strayRun_inputs, processFiles_of_failing failing_stray]
  decide +kernel

theorem run_others_warnings :
    (processFiles strayRun.job strayRun.includes strayRun.dir
      (strayRun.inputs.filter fun p => !isStray p) strayRun.start strayRun.warnings).warnings =
        [] := by
  rw [strayRun_inputs]
  decide +kernel

/-- That a file is passed over is not all that is said about it: a source with syntax errors has
    another line in front. -/
theorem not_forall_run_without :
    ¬ ∀ (args : List Text) (input : Text) (fs : FileSystem) (r : FileRun args fs)
      (F : Path → Bool), AllFail r.job r.includes r.dir F r.inputs r.start →
        ∃ reports : List Report,
          SameBut F reports r.warnings r.warnings (run args input fs)
            (processFiles r.job r.includes r.dir (r.inputs.filter fun p => !F p) r.start
              r.warnings) ∧
          (reports.filter fun report => F report.path).map (·.path) = r.inputs.filter F ∧
          ∀ report ∈ reports, F report.path = true →
            ∃ f, report.lines = [skipLine report.path f] := by
  intro hall
  obtain ⟨reports, hsame, hpaths, hskips⟩ :=
    hall strayArgs [] strayFiles strayRun isStray allFail_stray
  have hone : ∀ report ∈ reports, isStray report.path = true → report.lines.length = 1 := by
    intro report hreport hstray
    obtain ⟨f, hlines⟩ := hskips report hreport hstray
    rw [hlines, List.length_singleton]
  -- There is one file with a bracket, so the two runs would be one line apart.
  have hfiles : (reports.filter fun report => isStray report.path).length = 1 := by
    rw [← List.length_map (f := (·.path)), hpaths, strayRun_inputs]
    decide
  have hwhole : (reports.flatMap (·.lines)).length = 2 := by
    have hlines := hsame.lines
    rw [run_stray_warnings] at hlines
    exact (congrArg List.length hlines).symm
  have hothers :
      ((reports.filter fun report => !isStray report.path).flatMap (·.lines)).length = 0 := by
    have hlines := hsame.others
    rw [run_others_warnings] at hlines
    exact (congrArg List.length hlines).symm
  have hcount := length_flatMap_lines hone
  omega

end TypedDocs.CommandLine
