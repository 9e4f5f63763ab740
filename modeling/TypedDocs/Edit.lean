/-
  Span edits.

  Edits are pairs of a span and its replacement.  They are ordered by span and
  applied in one pass over the text; two edits that share bytes are refused.
-/

import TypedDocs.Text.Basic

namespace TypedDocs

/-- Replaces the bytes of a span by a text. -/
structure Edit where
  span : Span
  text : Text
  deriving DecidableEq, Repr

/-- Why a list of edits cannot be applied. -/
inductive EditError where
  /-- Two neighbours in span order share bytes. -/
  | overlap (first second : Span)
  /-- A cut falls past the end, before the previous one, or inside a character. -/
  | badCut
  deriving DecidableEq, Repr

namespace Edit

/-- Puts a text at an offset. -/
def insert (offset : Nat) (text : Text) : Edit :=
  ⟨⟨offset, offset⟩, text⟩

/-- Removes the bytes of a span. -/
def delete (span : Span) : Edit :=
  ⟨span, []⟩

/-- Edits are ordered by where they start, then by where they stop. -/
def le (a b : Edit) : Bool :=
  a.span.start < b.span.start || (a.span.start == b.span.start && a.span.stop ≤ b.span.stop)

/-- The first two neighbours of which the second starts before the first stops. -/
def firstOverlap : List Edit → Option (Span × Span)
  | a :: b :: rest =>
    if b.span.start < a.span.stop then some (a.span, b.span) else firstOverlap (b :: rest)
  | _ => none

/-- Copies the text from `cursor` on, with each edit's span replaced. -/
def splice (source : Text) (cursor : Nat) : List Edit → Option Text
  | [] => Text.dropBytes? cursor source
  | e :: rest => do
    let kept ← Text.slice? source cursor e.span.start
    let tail ← splice source e.span.stop rest
    return kept ++ e.text ++ tail

/-- Applies a list of edits, given in any order. -/
def apply (source : Text) (edits : List Edit) : Except EditError Text :=
  let edits := edits.mergeSort le
  match firstOverlap edits with
  | some (a, b) => .error (.overlap a b)
  | none =>
    match splice source 0 edits with
    | some text => .ok text
    | none => .error .badCut

end Edit

end TypedDocs
