/-
  Regular expressions and what they match.

  A place in a text is a `Cursor`, the text before it and the text behind it.
  An expression takes a cursor to all the cursors at which a match that starts
  there can end, so that a match is a set of places and the order in which
  alternatives are tried does not matter.
-/

import TypedDocs.Text.Blank
import TypedDocs.Text.Digit
import TypedDocs.Text.Fold
import TypedDocs.Text.Ranges
import TypedDocs.Text.Word

namespace TypedDocs

namespace Regex

/-! ## Sets of characters -/

/-- A set of characters. -/
inductive CharSet where
  | none
  | range (first last : Char)
  | digit
  | space
  | word
  | compl (s : CharSet)
  | union (a b : CharSet)
  | inter (a b : CharSet)
  /-- The characters of a table. -/
  | table (rs : Text.Ranges)
  /-- The characters that differ from a member at most in case. -/
  | anyCase (s : CharSet)
  /-- The same for letters of ASCII alone. -/
  | asciiCase (s : CharSet)
  deriving DecidableEq, Repr

/-- The characters that differ from one at most in case. -/
def caseVariants (c : Char) : List Char :=
  (Text.caseVariants c.toNat).map Char.ofNat

/-- A letter of ASCII in both cases. -/
def asciiVariants (c : Char) : List Char :=
  if c.isUpper then [c, c.toLower] else if c.isLower then [c, c.toUpper] else [c]

namespace CharSet

/-- Whether a character belongs to a set. -/
def contains : CharSet → Char → Bool
  | none, _ => false
  | range first last, c => first ≤ c && c ≤ last
  | digit, c => Text.isDecimalDigit c
  | space, c => Text.isBlank c
  | word, c => Text.isWord c
  | compl s, c => !s.contains c
  | union a b, c => a.contains c || b.contains c
  | inter a b, c => a.contains c && b.contains c
  | table rs, c => rs.contains c.toNat
  | anyCase s, c => (caseVariants c).any s.contains
  | asciiCase s, c => (asciiVariants c).any s.contains

/-- The set of one character. -/
def one (c : Char) : CharSet := range c c

/-- Whether a set has no character beyond ASCII that one byte can count up to. -/
def isAscii (s : CharSet) : Bool :=
  (List.range 128).all fun n => !s.contains (Char.ofNat (128 + n))

/-- The union of several sets. -/
def unions : List CharSet → CharSet
  | [] => none
  | [s] => s
  | s :: ss => union s (unions ss)

/-- The characters of one set that are not in another. -/
def diff (a b : CharSet) : CharSet := inter a (compl b)

/-- The characters of exactly one of two sets. -/
def symmDiff (a b : CharSet) : CharSet := diff (union a b) (inter a b)

end CharSet

/-! ## Places -/

/-- A place in a text: what stands before it, the nearest first, and what stands behind it. -/
structure Cursor where
  before : Text
  after : Text
  deriving DecidableEq, Repr

/-- All places of a text, from the one at `c` on. -/
def placesFrom (before : Text) : Text → List Cursor
  | [] => [⟨before, []⟩]
  | c :: s => ⟨before, c :: s⟩ :: placesFrom (c :: before) s

/-- A condition on a place that takes up no text. -/
inductive Anchor where
  | textStart
  | textEnd
  /-- The start of a line; a carriage return ends lines too if `crlf` is set. -/
  | lineStart (crlf : Bool)
  | lineEnd (crlf : Bool)
  /-- Between a character of a word and one of none. -/
  | boundary (isWord : CharSet)
  | notBoundary (isWord : CharSet)
  | wordStart (isWord : CharSet)
  | wordEnd (isWord : CharSet)
  | wordStartHalf (isWord : CharSet)
  | wordEndHalf (isWord : CharSet)
  deriving DecidableEq, Repr

namespace Anchor

/-- Whether the next character, if there is one, belongs to a set. -/
def nextIn (s : CharSet) (text : Text) : Bool :=
  (text.head?.map s.contains).getD false

/-- Whether a place meets the condition. -/
def holds : Anchor → Cursor → Bool
  | textStart, c => c.before.isEmpty
  | textEnd, c => c.after.isEmpty
  | lineStart crlf, c =>
    match c.before.head? with
    | none => true
    | some '\n' => true
    | some '\r' => crlf && c.after.head? != some '\n'
    | some _ => false
  | lineEnd crlf, c =>
    match c.after.head? with
    | none => true
    | some '\n' => !(crlf && c.before.head? == some '\r')
    | some '\r' => crlf
    | some _ => false
  | boundary w, c => nextIn w c.before != nextIn w c.after
  | notBoundary w, c => nextIn w c.before == nextIn w c.after
  | wordStart w, c => !nextIn w c.before && nextIn w c.after
  | wordEnd w, c => nextIn w c.before && !nextIn w c.after
  | wordStartHalf w, c => !nextIn w c.before
  | wordEndHalf w, c => !nextIn w c.after

end Anchor

end Regex

/-! ## Expressions -/

/-- A regular expression. -/
inductive Regex where
  /-- Takes up nothing. -/
  | empty
  | set (chars : Regex.CharSet)
  | anchor (a : Regex.Anchor)
  | seq (a b : Regex)
  | alt (a b : Regex)
  /-- At least `least` times, and at most `most` times if there is a limit. -/
  | times (r : Regex) (least : Nat) (most : Option Nat)
  deriving DecidableEq, Repr

namespace Regex

/-- Follows a step from each of several places. -/
def follow (step : Cursor → List Cursor) (cs : List Cursor) : List Cursor :=
  (cs.flatMap step).eraseDups

/-- Follows a step exactly so many times. -/
def followTimes (step : Cursor → List Cursor) : Nat → List Cursor → List Cursor
  | 0, cs => cs
  | n + 1, cs => if cs.isEmpty then [] else followTimes step n (follow step cs)

/-- Follows a step at most so many times. -/
def followUpTo (step : Cursor → List Cursor) : Nat → List Cursor → List Cursor
  | 0, cs => cs
  | n + 1, cs => if cs.isEmpty then [] else (cs ++ followUpTo step n (follow step cs)).eraseDups

/-- The places at which a match that starts at a place can end.  A repetition
without a limit need not go on longer than there is text, for a round that
takes up nothing leads nowhere new. -/
def ends : Regex → Cursor → List Cursor
  | empty, c => [c]
  | set s, c =>
    match c.after with
    | [] => []
    | x :: rest => if s.contains x then [⟨x :: c.before, rest⟩] else []
  | anchor a, c => if a.holds c then [c] else []
  | seq a b, c => follow (ends b) (ends a c)
  | alt a b, c => (ends a c ++ ends b c).eraseDups
  | times r least most, c =>
    let more := match most with
      | some n => n - least
      | none => c.after.length
    followUpTo (ends r) more (followTimes (ends r) least [c])

/-- Whether an expression matches somewhere in a text. -/
def isMatch (r : Regex) (s : Text) : Bool :=
  (placesFrom [] s).any fun c => !(ends r c).isEmpty

/-- Expressions one after the other. -/
def seqs : List Regex → Regex
  | [] => empty
  | [r] => r
  | r :: rs => seq r (seqs rs)

/-- One of several expressions. -/
def alts : List Regex → Regex
  | [] => empty
  | [r] => r
  | r :: rs => alt r (alts rs)

end Regex

end TypedDocs
