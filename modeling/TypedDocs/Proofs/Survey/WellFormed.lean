/-
  Well-formed outlines.

  The survey relies on a few facts about the tree it walks: where nodes lie,
  that comments are leaves and that a wrapper wraps one declaration.  They are
  stated here for every node of the tree, and carried from a tree to its
  children and from a tree to its places.
-/

import TypedDocs.Survey
import TypedDocs.Proofs.Text.Cut

namespace TypedDocs

/-! ## Trees -/

namespace Tree

variable {κ : Type}

/-- Induction over trees: what holds of a node as soon as it holds of its children holds of all. -/
theorem induct {motive : Tree κ → Prop}
    (node : ∀ label span kids, (∀ k ∈ kids, motive k) → motive ⟨label, span, kids⟩) :
    ∀ t, motive t
  | ⟨label, span, kids⟩ => node label span kids fun k _ => induct node k

theorem preorder_eq (t : Tree κ) : t.preorder = t :: t.kids.flatMap preorder := by
  obtain ⟨label, span, kids⟩ := t
  unfold preorder
  rw [fold, foldList_eq_map, List.flatMap_def]

theorem self_mem_preorder (t : Tree κ) : t ∈ t.preorder := by
  rw [preorder_eq]
  exact List.mem_cons_self ..

/-- The nodes below a child are nodes below its parent. -/
theorem mem_preorder_of_mem_kids {t k n : Tree κ} (hk : k ∈ t.kids) (hn : n ∈ k.preorder) :
    n ∈ t.preorder := by
  rw [preorder_eq]
  exact List.mem_cons_of_mem _ (List.mem_flatMap.2 ⟨k, hk, hn⟩)

end Tree

namespace Survey

open Outline

/-- Whether a child of `parent` is a documented declaration or wraps one. -/
def isClaimant (source : Text) (parent kid : Outline) : Bool :=
  isWrapper kid || (kind? source ⟨kid, [], [(parent, [])]⟩).isSome

/-- What the tree of a text is relied on to be. -/
structure WellFormed (source : Text) (root : Outline) : Prop where
  /-- Every node covers a range of the text, from character boundary to character boundary. -/
  fits : ∀ t : Outline, t ∈ root.preorder → t.span.Fits source
  /-- Children lie inside their parent. -/
  nested : ∀ t : Outline, t ∈ root.preorder → ∀ k ∈ t.kids, k.span.Within t.span
  /-- Children are in text order and share no byte. -/
  ordered : ∀ t : Outline, t ∈ root.preorder →
    t.kids.Pairwise fun a b => a.span.stop ≤ b.span.start
  /-- Comments have no inner structure. -/
  leaves : ∀ t : Outline, t ∈ root.preorder → t.kind = .comment → t.kids = []
  /-- A wrapper wraps at most one declaration. -/
  wrappers : ∀ t : Outline, t ∈ root.preorder → isWrapper t = true →
    t.kids.countP (isClaimant source t) ≤ 1

theorem WellFormed.kid {source : Text} {t k : Outline} (h : WellFormed source t)
    (hk : k ∈ t.kids) : WellFormed source k where
  fits n hn := h.fits n (Tree.mem_preorder_of_mem_kids hk hn)
  nested n hn := h.nested n (Tree.mem_preorder_of_mem_kids hk hn)
  ordered n hn := h.ordered n (Tree.mem_preorder_of_mem_kids hk hn)
  leaves n hn := h.leaves n (Tree.mem_preorder_of_mem_kids hk hn)
  wrappers n hn := h.wrappers n (Tree.mem_preorder_of_mem_kids hk hn)

end Survey

/-! ## Places -/

namespace Outline

/-- Every node that a place shows, the place's own and those around it, satisfies `N`. -/
def Place.Over (N : Outline → Prop) (p : Place) : Prop :=
  N p.here ∧ (∀ b ∈ p.before, N b) ∧ ∀ a ∈ p.above, N a.1 ∧ ∀ b ∈ a.2, N b

/-- The places of a tree show nodes of the tree and of what stands around it. -/
theorem over_of_mem_placesFrom {N : Outline → Prop} (t : Outline) (above : List (Outline × List Outline))
    (before : List Outline) (hnodes : ∀ n ∈ t.preorder, N n) (hbefore : ∀ b ∈ before, N b)
    (habove : ∀ a ∈ above, N a.1 ∧ ∀ b ∈ a.2, N b) :
    ∀ p ∈ placesFrom above before t, p.Over N := by
  induction t using Tree.induct generalizing above before with
  | node label span kids ih =>
    have hself : N ⟨label, span, kids⟩ := hnodes _ (Tree.self_mem_preorder _)
    -- The children one by one; what stands before a child are nodes of the tree as well.
    have hkids : ∀ (ts before' : List Outline), (∀ k ∈ ts, k ∈ kids) → (∀ b ∈ before', N b) →
        ∀ p ∈ placesOfKids ((⟨label, span, kids⟩, before) :: above) before' ts, p.Over N := by
      intro ts
      induction ts with
      | nil =>
        intro before' _ _ p hp
        simp [placesOfKids] at hp
      | cons t ts iht =>
        intro before' hts hb' p hp
        have ht : t ∈ kids := hts t (List.mem_cons_self ..)
        have hbelow : ∀ n ∈ t.preorder, N n := fun n hn =>
          hnodes n (Tree.mem_preorder_of_mem_kids (t := ⟨label, span, kids⟩) ht hn)
        rw [placesOfKids, List.mem_append] at hp
        rcases hp with hp | hp
        · refine ih t ht _ before' hbelow hb' ?_ p hp
          intro a ha
          rcases List.mem_cons.1 ha with rfl | ha
          · exact ⟨hself, hbefore⟩
          · exact habove a ha
        · refine iht (t :: before') (fun k hk => hts k (List.mem_cons_of_mem _ hk)) ?_ p hp
          intro b hb
          rcases List.mem_cons.1 hb with rfl | hb
          · exact hbelow _ (Tree.self_mem_preorder _)
          · exact hb' b hb
    intro p hp
    rw [placesFrom, List.mem_cons] at hp
    rcases hp with rfl | hp
    · exact ⟨hself, hbefore, habove⟩
    · exact hkids kids [] (fun k hk => hk) (by simp) p hp

/-- Every node that a place of a tree shows is a node of the tree. -/
theorem over_of_mem_places {t : Outline} {p : Place} (hp : p ∈ t.places) :
    p.Over (· ∈ t.preorder) :=
  over_of_mem_placesFrom t [] [] (fun _ hn => hn) (by simp) (by simp) p hp

end Outline

end TypedDocs
