/-
  Paths.

  A path is a text whose components are separated by slashes.  Empty
  components and dots between others say nothing and are left out, so paths
  that are written differently can have the same components.
-/

import TypedDocs.Text.Basic

namespace TypedDocs

/-- A path as it is written. -/
abbrev Path := Text

namespace Path

/-- A component of a path. -/
inductive Component where
  /-- The slash in front of an absolute path. -/
  | root
  /-- The dot in front of a relative path. -/
  | current
  /-- Two dots: one directory up. -/
  | parent
  | name (text : Text)
  deriving DecidableEq, Repr

/-- The pieces between slashes; a path without one is a single piece. -/
def pieces : Path → List Text
  | [] => [[]]
  | c :: s =>
    if c = '/' then [] :: pieces s
    else match pieces s with
      | [] => [[c]]
      | p :: ps => (c :: p) :: ps

/-- What a piece behind the first one stands for, if it says anything. -/
def componentOf? (piece : Text) : Option Component :=
  if piece = [] ∨ piece = ['.'] then none
  else if piece = ['.', '.'] then some .parent
  else some (.name piece)

/-- Whether a path starts at the root. -/
def isAbsolute (p : Path) : Bool :=
  p.head? == some '/'

/-- The components of a path. -/
def components (p : Path) : List Component :=
  let named := (pieces p).filterMap componentOf?
  if isAbsolute p then .root :: named
  else if (pieces p).head? == some ['.'] then .current :: named
  else named

/-! ## Names and extensions -/

/-- The last component, when it is a name. -/
def fileName? (p : Path) : Option Text :=
  match (components p).getLast? with
  | some (.name n) => some n
  | _ => none

/-- What stands behind the last dot of a name; a dot in front opens no extension. -/
def extensionOf? (name : Text) : Option Text :=
  match name.reverse.span (· ≠ '.') with
  | (_, []) => none
  | (_, [_]) => none
  | (ext, _) => some ext.reverse

/-- The extension of the file that a path names. -/
def extension? (p : Path) : Option Text :=
  (fileName? p).bind extensionOf?

/-- Whether a path names a typed source. -/
def isTypescript (p : Path) : Bool :=
  extension? p == some ['t', 's']

/-! ## Joining -/

/-- A path below a directory.  An absolute path stays what it is. -/
def join (dir p : Path) : Path :=
  if isAbsolute p then p
  else if dir.isEmpty || dir.getLast? == some '/' then dir ++ p
  else dir ++ '/' :: p

/-- A component as it is written. -/
def Component.text : Component → Text
  | .root => ['/']
  | .current => ['.']
  | .parent => ['.', '.']
  | .name n => n

/-- The path of some components. -/
def ofComponents (cs : List Component) : Path :=
  cs.foldl (fun p c => join p c.text) []

/-- The directory that holds what a path names. -/
def parent? (p : Path) : Option Path :=
  match (components p).reverse with
  | [] => none
  | .root :: _ => none
  | _ :: above => some (ofComponents above.reverse)

/-! ## Order -/

/-- Where a component stands among components of other kinds. -/
def Component.rank : Component → Nat
  | .root => 0
  | .current => 1
  | .parent => 2
  | .name _ => 3

/-- Whether one text comes before another, by code points. -/
def textLt : Text → Text → Bool
  | _, [] => false
  | [], _ :: _ => true
  | a :: s, b :: t => a < b || (a == b && textLt s t)

/-- Whether one component comes before another. -/
def Component.lt (a b : Component) : Bool :=
  a.rank < b.rank || (a.rank == b.rank && textLt a.text b.text)

/-- Whether one list of components does not come after another. -/
def componentsLe : List Component → List Component → Bool
  | [], _ => true
  | _ :: _, [] => false
  | a :: s, b :: t => a.lt b || (a == b && componentsLe s t)

/-- Whether one path does not come after another. -/
def le (p q : Path) : Bool :=
  componentsLe (components p) (components q)

/-- Drops each path that has the components of the path kept before it. -/
def dropRepeats : List Path → List Path
  | p :: q :: rest =>
    if components p = components q then dropRepeats (p :: rest)
    else p :: dropRepeats (q :: rest)
  | ps => ps
termination_by ps => ps.length

/-- Paths in order, each only once. -/
def sorted (ps : List Path) : List Path :=
  dropRepeats (ps.mergeSort le)

end Path

end TypedDocs
