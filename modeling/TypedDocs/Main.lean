/-
  The program.

  The part of the disk that the arguments can reach is taken down as a file
  system, the run works on that, and what it changed is carried out on the
  disk.
-/

import TypedDocs.CommandLine.Run

namespace TypedDocs.Main

/-! ## What to take down -/

/-- The location that a path leads to when nothing on its way is missing. -/
def aim (home : Location) (p : Path) : Location :=
  p.pieces.foldl (fun l piece =>
      if piece = [] ∨ piece = ['.'] then l
      else if piece = ['.', '.'] then l.dropLast
      else l ++ [piece])
    (if p.isAbsolute then [] else home)

/-- Whether a piece of a path has a wildcard. -/
def hasWildcard (piece : Text) : Bool :=
  piece.any fun c => c == '*' || c == '?' || c == '['

/-- Where an argument starts to look for files, and how deep it looks. -/
def reach (home : Location) (p : Path) : Location × Nat :=
  let fixed := p.pieces.takeWhile fun piece => !hasWildcard piece
  let open_ := p.pieces.dropWhile fun piece => !hasWildcard piece
  let base := (fixed.intersperse ['/']).flatten
  let depth := if open_.contains ['*', '*'] then 64 else open_.length + 1
  (aim home (if p.isAbsolute && base.isEmpty then ['/'] else base), depth)

/-- The places on the disk that a run can look at. -/
def places (home : Location) (a : CommandLine.Arguments) : List (Location × Nat) :=
  (a.config.toList ++ a.output.toList ++ a.files).flatMap fun p =>
    [(aim home p, 1), reach home p]

/-! ## The disk -/

/-- A location as an absolute path. -/
def diskPath (l : Location) : String :=
  "/" ++ "/".intercalate (l.map String.ofList)

/-- What a file holds. -/
def fileEntry (bytes : ByteArray) : Entry :=
  match String.fromUTF8? bytes with
  | some s => .file s.toList
  | none => .binary

/-- Takes down what stands at a location, and what stands below it as deep as `depth` says. -/
def takeDown : Nat → FileSystem → Location → IO FileSystem
  | depth, fs, l => do
    let here := (← IO.currentDir) / diskPath l
    if ← here.isDir then
      let fs := if l.isEmpty then fs else fs.put l .directory
      match depth with
      | 0 => return fs
      | depth + 1 =>
        (← here.readDir).foldlM (fun fs e => takeDown depth fs (l ++ [e.fileName.toList])) fs
    else if ← here.pathExists then
      return fs.put l (fileEntry (← IO.FS.readBinFile here))
    else return fs

/-- Takes down a place and the directories that lead to it. -/
def takePlace (fs : FileSystem) (place : Location × Nat) : IO FileSystem := do
  let fs ← (List.range place.1.length).foldlM (fun fs n => takeDown 0 fs (place.1.take n)) fs
  takeDown place.2 fs place.1

/-- Carries out on the disk what a run changed, in the order in which it did. -/
def carryOut (before after : FileSystem) : IO Unit :=
  after.entries.reverse.forM fun (l, e) =>
    if before.entryAt? l == some e then pure ()
    else match e with
      | .directory => IO.FS.createDirAll (diskPath l)
      | .file content => IO.FS.writeFile (diskPath l) (String.ofList content)
      | .binary => pure ()

/-- Everything that a stream still holds. -/
partial def readRest (stream : IO.FS.Stream) (soFar : String) : IO String := do
  let line ← stream.getLine
  if line.isEmpty then return soFar else readRest stream (soFar ++ line)

/-! ## Reports -/

/-- What the program says about itself. -/
def usage : String :=
  "Infer ESDoc comment types from TypeScript annotations\n\n" ++
  "Usage: esdoc-ts [OPTIONS] [FILES]...\n\n" ++
  "Arguments:\n" ++
  "  [FILES]...  Input files (glob patterns supported). If omitted, reads from stdin\n\n" ++
  "Options:\n" ++
  "  -o, --output <OUTPUT>  Output directory (required when files are given)\n" ++
  "  -c, --config <CONFIG>  ESDoc JSON config supplying `includes` and the plugin option\n" ++
  "      --emit <EMIT>      What to write for each input [default: js] [possible values: js, ts]\n" ++
  "      --decorators       Keep decorators in the lowered output\n" ++
  "      --jsx              Parse sources as TSX\n" ++
  "      --disable          Disable the plugin (sources pass through untouched)\n" ++
  "  -v, --verbose          Debug logging\n" ++
  "  -h, --help             Print help\n"

/-- The lines that report how a run ended. -/
def report : CommandLine.Ending → List String
  | .failure f =>
    ("Error: " ++ f.error) ::
      match f.cause with
      | some cause => ["", "Caused by:", "    " ++ cause]
      | none => []
  | .refused .misuse => ["error: unexpected arguments", "", "For more information, try '--help'."]
  | .crash => ["error: the source cannot be handled"]
  | _ => []

end TypedDocs.Main

open TypedDocs TypedDocs.Main in
/-- Runs the program. -/
def main (args : List String) : IO UInt32 := do
  let texts := args.map String.toList
  let home : Location := (Path.pieces (← IO.currentDir).toString.toList).filter (!·.isEmpty)
  let arguments := (CommandLine.parse texts).toOption.getD {}
  let before ← (places home arguments).foldlM takePlace (FileSystem.empty home)
  let readsInput := (CommandLine.parse texts).toOption.isSome && arguments.files.isEmpty
  let input ← if readsInput then readRest (← IO.getStdin) "" else pure ""
  let outcome := CommandLine.run texts input.toList before
  carryOut before outcome.files
  outcome.warnings.forM fun w => IO.eprintln (" WARN " ++ w)
  (report outcome.ending).forM IO.eprintln
  if outcome.ending == .refused .help then IO.print usage
  IO.print (String.ofList outcome.output)
  return outcome.ending.status.toUInt32
