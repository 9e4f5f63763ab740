/-
  Labelled trees over a source text.

  A tree has a label, the span of text it covers and its children in text
  order.  `fold` is the only recursion over trees that the rest of the library
  needs: a result for a tree from the tree itself and the results of its
  children.
-/

import TypedDocs.Text.Basic

namespace TypedDocs

/-- A tree whose nodes carry a label and cover a span of text. -/
structure Tree (κ : Type) where
  label : κ
  span : Span
  kids : List (Tree κ)
  deriving Repr, Inhabited

namespace Tree

variable {κ α : Type}

mutual

/-- Computes a result from a tree and the results of its children. -/
def fold (f : Tree κ → List α → α) : Tree κ → α
  | ⟨label, span, kids⟩ => f ⟨label, span, kids⟩ (foldList f kids)

/-- The results of several trees. -/
def foldList (f : Tree κ → List α → α) : List (Tree κ) → List α
  | [] => []
  | t :: ts => fold f t :: foldList f ts

end

/-- Folding a list of trees is folding each of them. -/
theorem foldList_eq_map (f : Tree κ → List α → α) (ts : List (Tree κ)) :
    foldList f ts = ts.map (fold f) := by
  induction ts with
  | nil => rfl
  | cons t ts ih => rw [foldList, ih, List.map_cons]

/-- Every node of a tree, parents before children, children in order. -/
def preorder (t : Tree κ) : List (Tree κ) :=
  t.fold fun t below => t :: below.flatten

/-- Changes every node, children first. -/
def mapUp (f : Tree κ → Tree κ) (t : Tree κ) : Tree κ :=
  t.fold fun t kids => f { t with kids := kids }

end Tree

end TypedDocs
