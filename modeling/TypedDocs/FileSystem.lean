/-
  A file system.

  Files and directories stand at locations, the lists of names that lead to
  them from the root.  There are no links, so a location is the only one of
  its kind; a path is walked name by name and every name but the last has to
  be a directory.
-/

import TypedDocs.Path

namespace TypedDocs

/-- The names that lead from the root to a file or a directory. -/
abbrev Location := List Text

/-- What stands at a location. -/
inductive Entry where
  | directory
  | file (content : Text)
  /-- A file whose bytes are no text. -/
  | binary
  deriving DecidableEq, Repr, Inhabited

/-- Why the system refuses something. -/
inductive SystemError where
  | notFound
  | exists
  | notDirectory
  | isDirectory
  | notText
  deriving DecidableEq, Repr

/-- The words of the system. -/
def SystemError.message : SystemError → String
  | .notFound => "No such file or directory (os error 2)"
  | .exists => "File exists (os error 17)"
  | .notDirectory => "Not a directory (os error 20)"
  | .isDirectory => "Is a directory (os error 21)"
  | .notText => "stream did not contain valid UTF-8"

/-- Files and directories, and the directory that relative paths start from. -/
structure FileSystem where
  home : Location
  entries : List (Location × Entry)
  deriving Repr, Inhabited

namespace FileSystem

/-! ## Locations -/

/-- What stands at a location.  The root is always a directory. -/
def entryAt? (fs : FileSystem) (l : Location) : Option Entry :=
  if l = [] then some .directory
  else (fs.entries.find? (·.1 == l)).map (·.2)

/-- Puts an entry at a location, in place of what stood there. -/
def put (fs : FileSystem) (l : Location) (e : Entry) : FileSystem :=
  { fs with entries := (l, e) :: fs.entries.filter (·.1 != l) }

/-- The names of what stands right below a location. -/
def namesBelow (fs : FileSystem) (l : Location) : List Text :=
  fs.entries.filterMap fun (m, _) =>
    match m.getLast? with
    | some name => if m.dropLast = l then some name else none
    | none => none

/-- The length of the longest location. -/
def depth (fs : FileSystem) : Nat :=
  fs.entries.foldl (fun n (l, _) => max n l.length) 0

/-- The empty file system, seen from a directory that exists in it. -/
def empty (home : Location) : FileSystem :=
  ⟨home, (List.range home.length).map fun n => (home.take (n + 1), .directory)⟩

/-! ## Walking -/

/-- Walks along the pieces of a path.  Where a piece follows, there has to be a directory. -/
def walk (fs : FileSystem) : Location → List Text → Except SystemError Location
  | here, [] => .ok here
  | here, piece :: rest =>
    match fs.entryAt? here with
    | some .directory =>
      if piece = [] ∨ piece = ['.'] then walk fs here rest
      else if piece = ['.', '.'] then walk fs here.dropLast rest
      else walk fs (here ++ [piece]) rest
    | some _ => .error .notDirectory
    | none => .error .notFound

/-- The location of a path, which something need not stand at. -/
def locate (fs : FileSystem) (p : Path) : Except SystemError Location :=
  if p = [] then .error .notFound
  else fs.walk (if p.isAbsolute then [] else fs.home) p.pieces

/-- What a path leads to. -/
def entry? (fs : FileSystem) (p : Path) : Option Entry :=
  match fs.locate p with
  | .ok l => fs.entryAt? l
  | .error _ => none

/-- Whether a path leads to a file. -/
def isFile (fs : FileSystem) (p : Path) : Bool :=
  match fs.entry? p with
  | some (.file _) | some .binary => true
  | _ => false

/-- Whether a path leads to a directory. -/
def isDirectory (fs : FileSystem) (p : Path) : Bool :=
  fs.entry? p == some .directory

/-- Whether a path leads anywhere. -/
def hasPath (fs : FileSystem) (p : Path) : Bool :=
  (fs.entry? p).isSome

/-- The names in a directory. -/
def names (fs : FileSystem) (dir : Path) : List Text :=
  match fs.locate dir with
  | .ok l => fs.namesBelow l
  | .error _ => []

/-! ## Reading and writing -/

/-- The text of a file. -/
def read (fs : FileSystem) (p : Path) : Except SystemError Text :=
  match fs.locate p with
  | .error e => .error e
  | .ok l =>
    match fs.entryAt? l with
    | none => .error .notFound
    | some .directory => .error .isDirectory
    | some .binary => .error .notText
    | some (.file content) => .ok content

/-- Writes a file anew.  Its directory has to exist. -/
def write (fs : FileSystem) (p : Path) (content : Text) : Except SystemError FileSystem :=
  match fs.locate p with
  | .error e => .error e
  | .ok l =>
    if fs.entryAt? l = some .directory then .error .isDirectory
    else match fs.entryAt? l.dropLast with
      | some .directory => .ok (fs.put l (.file content))
      | some _ => .error .notDirectory
      | none => .error .notFound

/-- Makes one directory. -/
def makeDirectory (fs : FileSystem) (p : Path) : Except SystemError FileSystem :=
  let trimmed := (p.reverse.dropWhile (· = '/')).reverse
  match fs.locate (if trimmed = [] then p else trimmed) with
  | .error e => .error e
  | .ok l =>
    if (fs.entryAt? l).isSome then .error .exists
    else .ok (fs.put l .directory)

/-- Makes a directory; one that is there already will do. -/
def ensureDirectory (fs : FileSystem) (p : Path) : Except SystemError FileSystem :=
  match fs.makeDirectory p with
  | .ok fs => .ok fs
  | .error e => if fs.isDirectory p then .ok fs else .error e

/-- Makes a directory and those above it, as many as `fuel` says. -/
def makeDirectoriesFrom : Nat → FileSystem → Path → Except SystemError FileSystem
  | 0, fs, p => fs.ensureDirectory p
  | fuel + 1, fs, p =>
    if p = [] then .ok fs
    else match fs.makeDirectory p, p.parent? with
      | .error .notFound, some above =>
        match makeDirectoriesFrom fuel fs above with
        | .ok fs => fs.ensureDirectory p
        | .error e => .error e
      | _, _ => fs.ensureDirectory p

/-- Makes a directory and all that are missing above it. -/
def makeDirectories (fs : FileSystem) (p : Path) : Except SystemError FileSystem :=
  makeDirectoriesFrom (p.components.length + 1) fs p

/-- Puts a file where a path from the working directory says, with the directories above it. -/
def place (fs : FileSystem) (p : Path) (content : Text) : FileSystem :=
  let fs := match p.parent?.map fs.makeDirectories with
    | some (.ok fs) => fs
    | _ => fs
  (fs.write p content).toOption.getD fs

end FileSystem

end TypedDocs
