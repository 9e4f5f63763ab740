/-
  Path patterns.

  A pattern is a path whose names can hold wildcards: `?` for one character,
  `*` for any number of them, brackets for one of several, and `**` as a name
  for any number of directories.  It stands for the paths of a file system
  that it describes.
-/

import TypedDocs.FileSystem

namespace TypedDocs.Glob

/-! ## Names with wildcards -/

/-- A sign between brackets: the characters from the first to the last. -/
structure CharRange where
  first : Char
  last : Char
  deriving DecidableEq, Repr

/-- A sign of a name. -/
inductive Token where
  | char (c : Char)
  | anyChar
  | anyRun
  /-- Any number of directories; it stands alone. -/
  | anyDepth
  | within (ranges : List CharRange)
  | without (ranges : List CharRange)
  deriving DecidableEq, Repr

/-- A name with wildcards. -/
abbrev Name := List Token

/-- The signs between brackets. -/
def charRanges : Text → List CharRange
  | a :: '-' :: b :: s => ⟨a, b⟩ :: charRanges s
  | a :: s => ⟨a, a⟩ :: charRanges s
  | [] => []

/-- A bracket behind its opening sign.  The first sign of a set stands for
itself, so a set is never empty. -/
def bracket? : Text → Option (Token × Text)
  | '!' :: c :: s => (close? s).map fun (cs, rest) => (.without (charRanges (c :: cs)), rest)
  | '!' :: [] => none
  | c :: s => (close? s).map fun (cs, rest) => (.within (charRanges (c :: cs)), rest)
  | [] => none
where
  /-- What stands before the closing bracket and what stands behind it. -/
  close? (s : Text) : Option (Text × Text) :=
    match s.dropWhile (· ≠ ']') with
    | _ :: rest => some (s.takeWhile (· ≠ ']'), rest)
    | [] => none

/-- The signs of a pattern, which may hold slashes.  `before` is the sign in
front; two stars have to stand between slashes.  Each round takes a sign, so
the length of the text bounds the rounds. -/
def tokens? : Nat → (before : Option Char) → Text → Option (List Token)
  | 0, _, s => if s.isEmpty then some [] else none
  | n + 1, before, s =>
    match s with
    | [] => some []
    | '?' :: s => (tokens? n (some '?') s).map (.anyChar :: ·)
    | '*' :: '*' :: s =>
      if before = none ∨ before = some '/' then
        match s with
        | [] => some [.anyDepth]
        | '/' :: s => (tokens? n (some '/') s).map (.anyDepth :: ·)
        | _ :: _ => none
      else none
    | '*' :: s => (tokens? n (some '*') s).map (.anyRun :: ·)
    | '[' :: s =>
      match bracket? s with
      | some (t, s) => (tokens? n (some ']') s).map (t :: ·)
      | none => none
    | c :: s => (tokens? n (some c) s).map (.char c :: ·)

/-- The signs of a whole text. -/
def parseName? (s : Text) : Option Name :=
  tokens? s.length none s

/-- Whether a character is in one of the ranges. -/
def inRanges (ranges : List CharRange) (c : Char) : Bool :=
  ranges.any fun r => r.first ≤ c && c ≤ r.last

/-- All ends of a text, the text itself first. -/
def tails : Text → List Text
  | [] => [[]]
  | c :: s => (c :: s) :: tails s

/-- Whether a name fits. -/
def fits : Name → Text → Bool
  | [], s => s.isEmpty
  | .anyRun :: ts, s => (tails s).any (fits ts)
  | .anyDepth :: ts, s => (tails s).any (fits ts)
  | .anyChar :: ts, _ :: s => fits ts s
  | .char c :: ts, d :: s => c == d && fits ts s
  | .within ranges :: ts, d :: s => inRanges ranges d && fits ts s
  | .without ranges :: ts, d :: s => !inRanges ranges d && fits ts s
  | _ :: _, [] => false

/-- The text of a name without wildcards. -/
def literal? : Name → Option Text
  | [] => some []
  | .char c :: ts => (literal? ts).map (c :: ·)
  | _ :: _ => none

/-- Whether a name stands for any number of directories. -/
def isAnyDepth (name : Name) : Bool :=
  name.contains .anyDepth

/-! ## Patterns -/

/-- A path whose names can hold wildcards. -/
structure Pattern where
  absolute : Bool
  names : List Name
  /-- Whether a slash at the end asks for a directory. -/
  wantsDirectory : Bool
  deriving Repr

/-- The pieces between slashes, without the empty one that a slash at the end leaves. -/
def piecesOf (s : Text) : List Text :=
  let pieces := Path.pieces s
  if pieces.getLast? = some [] then pieces.dropLast else pieces

/-- Reads a pattern.  It has to be one as a whole and name by name. -/
def parse? (s : Text) : Option Pattern := do
  let _ ← parseName? s
  let absolute := Path.isAbsolute s
  let names ← (piecesOf (if absolute then s.drop 1 else s)).mapM parseName?
  return ⟨absolute, if names.isEmpty then [[]] else names, s.getLast? == some '/'⟩

/-- Drops the names for any number of directories that follow another one. -/
def collapse : List Name → List Name
  | a :: b :: rest => if isAnyDepth a && isAnyDepth b then collapse (b :: rest) else a :: b :: rest
  | names => names

/-- A path, when it is good enough for the end of a pattern. -/
def accept (fs : FileSystem) (p : Pattern) (path : Path) : List Path :=
  if p.wantsDirectory && !fs.isDirectory path then [] else [path]

/-- The path of a name below a directory; below the working directory the name alone. -/
def below (dir : Path) (name : Text) : Path :=
  if dir.components = [.current] then name else dir.join name

/-- The paths below `dir` that the names describe.  Each round goes one name or
one directory further. -/
def expandFrom (fs : FileSystem) (p : Pattern) : Nat → List Name → (dir : Path) → List Path
  | 0, _, _ => []
  | _ + 1, [], _ => []
  | n + 1, name :: names, dir =>
    let next := fun path =>
      if names.isEmpty then accept fs p path else expandFrom fs p n names path
    match literal? name with
    | some s =>
      let isDots := s = ['.'] ∨ s = ['.', '.']
      let path := below dir s
      if (isDots ∧ fs.isDirectory dir) ∨ (¬isDots ∧ fs.hasPath path) then next path else []
    | none =>
      if !fs.isDirectory dir then []
      else
        let visit := fun path names =>
          match names with
          | [] => []
          | name :: rest =>
            if !fits name ((Path.fileName? path).getD []) then []
            else if rest.isEmpty then accept fs p path
            else expandFrom fs p n rest path
        let found := ((fs.names dir).map (below dir)).flatMap fun path =>
          if isAnyDepth name then
            let deep := collapse (name :: names)
            let rest := deep.tail
            if fs.isDirectory path then
              expandFrom fs p n deep path ++ (if rest.isEmpty then [path] else visit path rest)
            else visit path rest
          else visit path (name :: names)
        let dots := if name.head? = some (.char '.') then
            ([['.'], ['.', '.']].filter (fits name)).flatMap fun s => next (dir.join s)
          else []
        found ++ dots

/-- The paths of a file system that a pattern describes. -/
def expand (fs : FileSystem) (p : Pattern) : List Path :=
  expandFrom fs p ((p.names.length + 1) * (fs.depth + 2)) p.names
    (if p.absolute then ['/'] else ['.'])

end TypedDocs.Glob
