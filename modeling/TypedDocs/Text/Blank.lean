/-
  White space and trimming.

  `isBlank` is the property White_Space of the Unicode standard: 25 characters,
  written out as their eleven ranges.
-/

import TypedDocs.Text.Basic

namespace TypedDocs.Text

/-- The characters with the property White_Space. -/
def isBlank (c : Char) : Bool :=
  let n := c.toNat
  (0x9 ≤ n && n ≤ 0xD) || n == 0x20 || n == 0x85 || n == 0xA0 || n == 0x1680 ||
    (0x2000 ≤ n && n ≤ 0x200A) || n == 0x2028 || n == 0x2029 || n == 0x202F ||
    n == 0x205F || n == 0x3000

/-- Drops white space at the front. -/
def trimStart (s : Text) : Text :=
  s.dropWhile isBlank

/-- Drops white space at the end. -/
def trimEnd (s : Text) : Text :=
  (s.reverse.dropWhile isBlank).reverse

/-- Drops white space at both ends. -/
def trim (s : Text) : Text :=
  trimEnd (trimStart s)

end TypedDocs.Text
