/-
  Source text, addressed by byte.

  Every offset in this library counts UTF-8 bytes from the start of a text, so
  an offset can fall past the end of the text or inside a character.  The cuts
  below answer `none` there instead of rounding, which makes "this offset is a
  character boundary" a fact that a caller can read off the result.
-/

namespace TypedDocs

/-- A text, one character at a time. -/
abbrev Text := List Char

/-- A half-open range of byte offsets. -/
structure Span where
  start : Nat
  stop : Nat
  deriving DecidableEq, Repr, Inhabited

/-- `a..b`, the way a range is shown in messages. -/
def Span.show (s : Span) : String :=
  s!"{s.start}..{s.stop}"

namespace Text

/-! ## Cutting at byte offsets -/

/-- Number of UTF-8 bytes of a text. -/
def size : Text → Nat
  | [] => 0
  | c :: s => c.utf8Size + size s

/-- The text after its first `n` bytes. -/
def dropBytes? : Nat → Text → Option Text
  | 0, s => some s
  | _ + 1, [] => none
  | n + 1, c :: s =>
    if c.utf8Size ≤ n + 1 then dropBytes? (n + 1 - c.utf8Size) s else none

/-- The first `n` bytes of a text. -/
def takeBytes? : Nat → Text → Option Text
  | 0, _ => some []
  | _ + 1, [] => none
  | n + 1, c :: s =>
    if c.utf8Size ≤ n + 1 then (takeBytes? (n + 1 - c.utf8Size) s).map (c :: ·) else none

/-- The bytes of `s` from `start` up to `stop`. -/
def slice? (s : Text) (start stop : Nat) : Option Text :=
  if start ≤ stop then (dropBytes? start s).bind (takeBytes? (stop - start)) else none

/-- The text a span covers; empty when the span does not fit the text. -/
def sliceOf (s : Text) (span : Span) : Text :=
  (slice? s span.start span.stop).getD []

/-! ## Lines -/

/-- The pieces between newlines; a text without one is a single piece. -/
def lines : Text → List Text
  | [] => [[]]
  | c :: s =>
    if c = '\n' then [] :: lines s
    else match lines s with
      | [] => [[c]]
      | l :: ls => (c :: l) :: ls

/-- Pieces put back together with a newline between neighbours. -/
def unlines : List Text → Text
  | [] => []
  | [l] => l
  | l :: ls => l ++ '\n' :: unlines ls

/-- Number of newlines that begin before byte `n`. -/
def newlinesBefore : Nat → Text → Nat
  | 0, _ => 0
  | _ + 1, [] => 0
  | n + 1, c :: s => (if c = '\n' then 1 else 0) + newlinesBefore (n + 1 - c.utf8Size) s

/-- The line, counted from one, that byte `offset` stands on. -/
def lineOf? (s : Text) (offset : Nat) : Option Nat :=
  if offset ≤ size s then some (newlinesBefore offset s + 1) else none

/-- Spaces and tabs are what a line may be indented with. -/
def isIndent (c : Char) : Bool :=
  c == ' ' || c == '\t'

/-- The part of a line that stands before byte `offset`. -/
def lineHead? (s : Text) (offset : Nat) : Option Text :=
  (takeBytes? offset s).map fun p => (p.reverse.takeWhile (· ≠ '\n')).reverse

/-- The indentation of the line that byte `offset` stands on, as far as `offset`. -/
def lineIndent? (s : Text) (offset : Nat) : Option Text :=
  (lineHead? s offset).map (·.takeWhile isIndent)

/-- Whether only indentation stands before byte `offset` on its line. -/
def startsLine? (s : Text) (offset : Nat) : Option Bool :=
  (lineHead? s offset).map (·.all isIndent)

/-! ## Affixes -/

/-- The rest of `s` behind `p`, when `s` begins with `p`. -/
def stripPrefix? : Text → Text → Option Text
  | [], s => some s
  | _ :: _, [] => none
  | p :: ps, c :: s => if p = c then stripPrefix? ps s else none

/-- The part of `s` before `p`, when `s` ends with `p`. -/
def stripSuffix? (p s : Text) : Option Text :=
  (stripPrefix? p.reverse s.reverse).map List.reverse

/-- Carriage return and newline together become one newline. -/
def unixLines : Text → Text
  | [] => []
  | '\r' :: '\n' :: s => '\n' :: unixLines s
  | c :: s => c :: unixLines s

/-- Every line ends in a newline, also one that ends in a carriage return alone. -/
def plainLines : Text → Text
  | [] => []
  | '\r' :: '\n' :: s => '\n' :: plainLines s
  | '\r' :: s => '\n' :: plainLines s
  | c :: s => c :: plainLines s

end Text

end TypedDocs
