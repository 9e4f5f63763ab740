/-
  Sets of code points that are written as text.

  A set is a row of ranges in hexadecimal digits with blanks or line ends
  between them: `41-5A 61-7A AA`.  The tables of the standard are kept in this form.
-/

import TypedDocs.Text.Escape

namespace TypedDocs.Text

/-- Closed ranges of code points in ascending order. -/
abbrev Ranges := List (Nat × Nat)

namespace Ranges

/-- One range: its first and its last code point, or the only one. -/
def range? (s : Text) : Option (Nat × Nat) := do
  let first ← inBase? 16 (s.takeWhile (· != '-'))
  match s.dropWhile (· != '-') with
  | [] => return (first, first)
  | _ :: rest => return (first, ← inBase? 16 rest)

/-- The ranges that a text spells out. -/
def ofText (s : String) : Ranges :=
  ((s.map fun c => if c == '\n' then ' ' else c).splitOn " ").filterMap fun w =>
    if w.isEmpty then none else range? w.toList

/-- Whether a code point belongs to one of the ranges. -/
def contains (rs : Ranges) (n : Nat) : Bool :=
  rs.any fun (first, last) => first ≤ n && n ≤ last

end Ranges

/-- Sets with their names, each of which is written in small letters without blanks, dashes and
underscores. -/
abbrev NamedRanges := List (List String × String)

/-- The set with a name. -/
def NamedRanges.find? (table : NamedRanges) (name : String) : Option Ranges :=
  (List.find? (fun e : List String × String => e.1.contains name) table).map fun e => Ranges.ofText e.2

end TypedDocs.Text
