/-
  A run of the command line.

  Without files the run transforms its input; with files it writes one output
  for each.  A run is a function of the arguments, the input and the file
  system: it answers with what it prints, what it warns about and the file
  system it leaves behind.
-/

import TypedDocs.CommandLine.Arguments
import TypedDocs.Glob
import TypedDocs.Plugin
import TypedDocs.Regex.Parse

namespace TypedDocs.CommandLine

/-! ## Outcomes -/

/-- What went wrong, and what it came from. -/
structure Failure where
  error : String
  cause : Option String := none
  deriving DecidableEq, Repr

/-- An error with all its causes on one line. -/
def Failure.chain (f : Failure) : String :=
  match f.cause with
  | some cause => f.error ++ ": " ++ cause
  | none => f.error

/-- How a run ends. -/
inductive Ending where
  | success
  | failure (f : Failure)
  | refused (r : Refusal)
  /-- Something happened that nothing is prepared for. -/
  | crash
  deriving DecidableEq, Repr

/-- The status that the run leaves to its caller. -/
def Ending.status : Ending → Nat
  | .success => 0
  | .failure _ => 1
  | .refused .help => 0
  | .refused .misuse => 2
  | .crash => 101

/-- What a run leaves behind. -/
structure Outcome where
  ending : Ending
  output : Text
  warnings : List String
  files : FileSystem

/-! ## One source -/

/-- What a run has settled before it looks at sources. -/
structure Job where
  plugin : Plugin
  emit : Emit
  options : Script.LowerOptions

/-- Why a source has no output. -/
inductive ProcessError where
  | failed (f : Failure)
  | crash
  deriving DecidableEq, Repr

/-- An error of the transformation as an error of the process. -/
def processError (contexts : List String) (e : TranspileError) : ProcessError :=
  if e.isCrash then .crash
  else match contexts with
    | context :: _ => .failed ⟨context, some e.message⟩
    | [] => .failed ⟨e.message, none⟩

/-- The parser that gives its source back. -/
def echo : CodeParser Text :=
  .host fun code => .ok code

/-- Whether the plugin transforms the source at a path. -/
def Job.transforms (job : Job) (path : Path) : Bool :=
  job.plugin.enabled && path.isTypescript

/-- The output for a source. -/
def Job.process (job : Job) (path : Path) (content : Text) : Except ProcessError Text :=
  match job.emit with
  | .js =>
    let event := job.plugin.handleCodeParser ⟨echo, job.options, path⟩
    match (event.parser.run content).result with
    | .ok output => .ok output
    | .error failure =>
      match failure.cause with
      | .inl e => .error (processError failure.contexts e)
      | .inr message => .error (.failed ⟨String.ofList message, none⟩)
  | .ts =>
    if job.transforms path then
      match annotateComments job.options.jsx content with
      | .ok output => .ok output
      | .error e => .error (processError [] (.annotate e))
    else .ok content

/-- What a run says about a source that has to be passed over in part. -/
def Job.remarks (job : Job) (path : Path) (content : Text) : List String :=
  if job.transforms path && Script.isBroken job.options.jsx content then
    ["source contains syntax errors; continuing best-effort"]
  else []

/-! ## Files -/

/-- The name of the output for a source, without its directories. -/
def outputName (emit : Emit) (source : Path) : Text :=
  let name := (source.reverse.takeWhile fun c => c ≠ '/' ∧ c ≠ '\\').reverse
  match emit with
  | .ts => name
  | .js =>
    let stem := match Text.stripSuffix? ".ts".toList name, Text.stripSuffix? ".js".toList name with
      | some stem, _ => stem
      | none, some stem => stem
      | none, none => name
    stem ++ ".js".toList

/-- Where the output for a source is written. -/
def Job.target (job : Job) (outputDir source : Path) : Path :=
  outputDir.join (outputName job.emit source)

/-- Whether a list of patterns takes a path in; an empty list takes in everything. -/
def isIncluded (includes : List Regex) (path : Path) : Bool :=
  includes.isEmpty || includes.any (·.isMatch path)

/-- Reads the patterns of a configuration, or names the first one that cannot be read. -/
def compileIncludes : List Text → Except Text (List Regex)
  | [] => .ok []
  | p :: ps =>
    match Regex.parse? p with
    | none => .error p
    | some r => (compileIncludes ps).map (r :: ·)

/-- Writes the output of each file in turn.  A file that cannot be processed is
passed over with a warning; one that cannot be read or written ends the run. -/
def processFiles (job : Job) (includes : List Regex) (outputDir : Path) :
    List Path → FileSystem → List String → Outcome
  | [], fs, warnings => ⟨.success, [], warnings, fs⟩
  | path :: paths, fs, warnings =>
    if !isIncluded includes path then processFiles job includes outputDir paths fs warnings
    else match fs.read path with
      | .error e =>
        ⟨.failure ⟨"failed to read " ++ String.ofList path, some e.message⟩, [], warnings, fs⟩
      | .ok content =>
        let warnings := warnings ++ job.remarks path content
        match job.process path content with
        | .error .crash => ⟨.crash, [], warnings, fs⟩
        | .error (.failed f) =>
          let warning := "skipping " ++ String.ofList path ++ ": " ++ f.chain
          processFiles job includes outputDir paths fs (warnings ++ [warning])
        | .ok output =>
          let target := job.target outputDir path
          match fs.write target output with
          | .error e =>
            ⟨.failure ⟨"failed to write " ++ String.ofList target, some e.message⟩, [], warnings, fs⟩
          | .ok fs => processFiles job includes outputDir paths fs warnings

/-- Whether a path names a source by its extension. -/
def isSource (path : Path) : Bool :=
  path.extension? == some "ts".toList || path.extension? == some "js".toList

/-- The sources right in a directory. -/
def sourcesIn (fs : FileSystem) (dir : Path) : List Path :=
  ((fs.names dir).map dir.join).filter fun p => fs.isFile p && isSource p

/-- The files that an argument stands for: itself, the sources of a directory,
or what a pattern describes.  `none` if it is no pattern. -/
def filesOf? (fs : FileSystem) (arg : Text) : Option (List Path × List String) :=
  if fs.isFile arg then some ([arg], [])
  else if fs.isDirectory arg then some (sourcesIn fs arg, [])
  else (Glob.parse? arg).map fun pattern =>
    let found := (Glob.expand fs pattern).filter fun p => fs.isFile p
    (found, if found.isEmpty then ["no files matched: " ++ String.ofList arg] else [])

/-- The files of all arguments with the warnings about them, up to an argument
that is no pattern. -/
def gather (fs : FileSystem) : List Text → Except Text (List Path) × List String
  | [] => (.ok [], [])
  | arg :: args =>
    match filesOf? fs arg with
    | none => (.error arg, [])
    | some (found, warnings) =>
      let (rest, more) := gather fs args
      (rest.map (found ++ ·), warnings ++ more)

/-! ## Runs -/

/-- The configuration a run works with. -/
def loadConfig (fs : FileSystem) : Option Path → Except Failure Config
  | none => .ok {}
  | some path =>
    match fs.read path with
    | .error e => .error ⟨"failed to read config: " ++ String.ofList path, some e.message⟩
    | .ok text =>
      match Config.parse? text with
      | some c => .ok c
      | none => .error ⟨"invalid config: " ++ String.ofList path, some "not a configuration"⟩

/-- The plugin a run works with. -/
def startPlugin (a : Arguments) (c : Config) : Except Failure Plugin :=
  if a.disable then .ok (Plugin.ofOptions ⟨false⟩)
  else
    let option := (c.plugins.find? (·.name == Plugin.name)).bind (·.option)
    match Plugin.start option with
    | .ok p => .ok p
    | .error e => .error ⟨"invalid typescript plugin option", some e.message⟩

/-- A run that transforms its input. -/
def runInput (job : Job) (input : Text) (fs : FileSystem) : Outcome :=
  let path := "stdin.ts".toList
  let warnings := job.remarks path input
  match job.process path input with
  | .ok output => ⟨.success, output, warnings, fs⟩
  | .error .crash => ⟨.crash, [], warnings, fs⟩
  | .error (.failed f) => ⟨.failure f, [], warnings, fs⟩

/-- A run that writes an output for each file. -/
def runFiles (job : Job) (a : Arguments) (c : Config) (fs : FileSystem) : Outcome :=
  match a.output with
  | none => ⟨.failure ⟨"--output is required when files are given", none⟩, [], [], fs⟩
  | some dir =>
    match fs.makeDirectories dir with
    | .error e =>
      ⟨.failure ⟨"failed to create output directory: " ++ String.ofList dir, some e.message⟩,
        [], [], fs⟩
    | .ok fs =>
      match compileIncludes (job.plugin.handleConfig c).includes with
      | .error p =>
        ⟨.failure ⟨"invalid include pattern: " ++ String.ofList p, some "regex parse error:"⟩,
          [], [], fs⟩
      | .ok includes =>
        match gather fs a.files with
        | (.error p, warnings) =>
          ⟨.failure ⟨"invalid glob pattern: " ++ String.ofList p, some "not a path pattern"⟩,
            [], warnings, fs⟩
        | (.ok paths, warnings) =>
          processFiles job includes dir (Path.sorted paths) fs warnings

/-- A run with its arguments read. -/
def runWith (a : Arguments) (input : Text) (fs : FileSystem) : Outcome :=
  match loadConfig fs a.config with
  | .error f => ⟨.failure f, [], [], fs⟩
  | .ok c =>
    match startPlugin a c with
    | .error f => ⟨.failure f, [], [], fs⟩
    | .ok plugin =>
      let job : Job := ⟨plugin, a.emit.getD .js, ⟨a.decorators, a.jsx⟩⟩
      if a.files.isEmpty then runInput job input fs else runFiles job a c fs

/-- A whole run. -/
def run (args : List Text) (input : Text) (fs : FileSystem) : Outcome :=
  match parse args with
  | .error r => ⟨.refused r, [], [], fs⟩
  | .ok a => runWith a input fs

end TypedDocs.CommandLine
