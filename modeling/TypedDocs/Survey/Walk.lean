/-
  The survey of an outline, step by step.

  A cursor stands on a node and knows the siblings on both sides of it, and the
  same of every ancestor.  It moves to the first child, to the next sibling or
  to the parent, and never out of the outline it was put into.  The survey moves
  one cursor through an outline and keeps what it finds on the way: down as long
  as there is a child, else on to the next sibling, else up until there is one.
-/

import TypedDocs.Survey

namespace TypedDocs.Survey

open Outline

/-! ## Cursors -/

/-- A node among its siblings, the nearest first on either side. -/
structure Level where
  here : Outline
  before : List Outline
  after : List Outline

/-- A position in an outline: the level of a node and those of its ancestors, the nearest first. -/
structure Cursor where
  level : Level
  above : List Level

namespace Cursor

/-- The position of the root, which has no siblings. -/
def root (t : Outline) : Cursor :=
  ⟨⟨t, [], []⟩, []⟩

def firstChild? (c : Cursor) : Option Cursor :=
  match c.level.here.kids with
  | [] => none
  | k :: ks => some ⟨⟨k, [], ks⟩, c.level :: c.above⟩

def nextSibling? (c : Cursor) : Option Cursor :=
  match c.level.after with
  | [] => none
  | k :: ks => some ⟨⟨k, c.level.here :: c.level.before, ks⟩, c.above⟩

def parent? (c : Cursor) : Option Cursor :=
  match c.above with
  | [] => none
  | l :: ls => some ⟨l, ls⟩

/-- What a declaration is found from: the node, what stands before it and what is above it. -/
def place (c : Cursor) : Place :=
  ⟨c.level.here, c.level.before, c.above.map fun l => (l.here, l.before)⟩

end Cursor

/-! ## Steps -/

/-- How far a survey has come, with the declarations found so far. -/
inductive Walk where
  /-- The node at the cursor is looked at next. -/
  | visiting (c : Cursor) (found : List Declaration)
  /-- The node at the cursor and everything below it has been looked at. -/
  | leaving (c : Cursor) (found : List Declaration)
  | done (found : List Declaration)

namespace Walk

/-- A survey before its first step. -/
def start (t : Outline) : Walk :=
  visiting (.root t) []

/-- Looks at a node and goes down, or goes on to the next sibling, or up. -/
def step (source : Text) : Walk → Walk
  | visiting c found =>
    let found := found ++ (declaration? source c.place).toList
    match c.firstChild? with
    | some k => visiting k found
    | none => leaving c found
  | leaving c found =>
    match c.nextSibling? with
    | some s => visiting s found
    | none =>
      match c.parent? with
      | some p => leaving p found
      | none => done found
  | done found => done found

/-- The place that the next step looks at. -/
def place? : Walk → Option Place
  | visiting c _ => some c.place
  | _ => none

end Walk

end TypedDocs.Survey
