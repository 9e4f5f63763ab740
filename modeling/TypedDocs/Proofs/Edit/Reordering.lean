/-
  Edits in any order.

  A list of edits can be given in another order.  Sorting brings back the same
  spans in the same places (`map_span_mergeSort_of_perm`), and the search for an
  overlap looks at nothing but spans, so it stops at the same two.  Which texts
  stand at the spans is settled as soon as edits of one span keep their order
  (`filter_span_of_keepsTies`); then the sorted edits are the same list, and
  everything that follows is the same as well.  Nothing is asked of the spans:
  they may run backwards or lie outside of the text.
-/

import TypedDocs.Proofs.Edit.Order
import TypedDocs.Proofs.Edit.Overlap
import Mathlib.Data.List.FinRange
import Mathlib.Data.List.Sort

namespace TypedDocs.Edit

/-! ## Spans after sorting -/

/-- Sorted spans follow one another in the order of edits. -/
theorem pairwise_map_span_mergeSort (edits : List Edit) :
    ((edits.mergeSort le).map Edit.span).Pairwise
      fun a b => le (delete a) (delete b) = true := by
  -- The order looks at spans only, so it does not tell an edit from the deletion of its span.
  rw [List.pairwise_map]
  exact List.pairwise_mergeSort le_trans' le_total' edits

/-- The spans of sorted edits do not depend on the order in which the edits are given. -/
theorem map_span_mergeSort_of_perm {edits edits' : List Edit} (hperm : edits.Perm edits') :
    (edits.mergeSort le).map Edit.span = (edits'.mergeSort le).map Edit.span := by
  have hsorted : (edits.mergeSort le).Perm (edits'.mergeSort le) :=
    ((List.mergeSort_perm edits le).trans hperm).trans (List.mergeSort_perm edits' le).symm
  refine List.Perm.eq_of_pairwise ?_ (pairwise_map_span_mergeSort edits)
    (pairwise_map_span_mergeSort edits') (hsorted.map Edit.span)
  intro a b _ _ hab hba
  exact span_eq_of_le hab hba

/-- The search for an overlap looks at spans only. -/
theorem firstOverlap_eq_map_delete (es : List Edit) :
    firstOverlap es = firstOverlap ((es.map Edit.span).map delete) := by
  fun_induction firstOverlap es with
  | case1 a b rest hlt =>
    rw [List.map_cons, List.map_cons, List.map_cons, List.map_cons, firstOverlap]
    exact (if_pos hlt).symm
  | case2 a b rest hle ih =>
    rw [List.map_cons, List.map_cons, List.map_cons, List.map_cons, firstOverlap, ih]
    exact (if_neg hle).symm
  | case3 es hshort =>
    -- Fewer than two edits have no neighbours, whatever their texts.
    cases es with
    | nil => rfl
    | cons a es =>
      cases es with
      | nil => rfl
      | cons b rest => exact (hshort a b rest rfl).elim

/-- The overlap that is reported does not depend on the order in which the edits are given. -/
theorem firstOverlap_mergeSort_of_perm {edits edits' : List Edit} (hperm : edits.Perm edits') :
    firstOverlap (edits.mergeSort le) = firstOverlap (edits'.mergeSort le) := by
  rw [firstOverlap_eq_map_delete, map_span_mergeSort_of_perm hperm, ← firstOverlap_eq_map_delete]

/-! ## Positions matched one to one -/

/-- A one-to-one match between the positions of two lists that hold the same edits. -/
structure Matching (edits edits' : List Edit) where
  position : Fin edits.length ≃ Fin edits'.length
  get_position : ∀ i, edits'.get (position i) = edits.get i

namespace Matching

variable {edits edits' : List Edit}

/-- Of two edits with equal spans, the one that stands first in one list stands first in the
    other. -/
def KeepsTies (m : Matching edits edits') : Prop :=
  ∀ i j, i < j → (edits.get i).span = (edits.get j).span → m.position i < m.position j

/-- The positions of the edits that have a span, in order. -/
def spanPositions (edits : List Edit) (span : Span) : List (Fin edits.length) :=
  (List.finRange edits.length).filter fun i => (edits.get i).span = span

theorem mem_spanPositions {span : Span} {i : Fin edits.length} :
    i ∈ spanPositions edits span ↔ (edits.get i).span = span := by
  simp [spanPositions]

theorem pairwise_spanPositions (edits : List Edit) (span : Span) :
    (spanPositions edits span).Pairwise (· < ·) :=
  (List.sortedLT_finRange edits.length).pairwise.filter _

theorem map_get_spanPositions (edits : List Edit) (span : Span) :
    (spanPositions edits span).map edits.get = edits.filter (·.span = span) := by
  conv_rhs => rw [← List.map_get_finRange edits, List.filter_map]
  rfl

/-- A match that keeps ties leads from the positions of a span to the positions of that span,
    in order. -/
theorem map_position_spanPositions (m : Matching edits edits') (hties : m.KeepsTies)
    (span : Span) :
    (spanPositions edits span).map m.position = spanPositions edits' span := by
  have hsorted : ((spanPositions edits span).map m.position).Pairwise (· < ·) := by
    rw [List.pairwise_map]
    refine (pairwise_spanPositions edits span).imp_of_mem ?_
    intro i j hi hj hij
    rw [mem_spanPositions] at hi hj
    exact hties i j hij (hi.trans hj.symm)
  refine hsorted.eq_of_mem_iff (pairwise_spanPositions edits' span) ?_
  intro j
  obtain ⟨i, rfl⟩ := m.position.surjective j
  rw [List.mem_map_of_injective m.position.injective, mem_spanPositions, mem_spanPositions,
    m.get_position]

/-- If ties are kept, both lists hold the same edits of each span in the same order. -/
theorem filter_span_of_keepsTies (m : Matching edits edits') (hties : m.KeepsTies)
    (span : Span) : edits.filter (·.span = span) = edits'.filter (·.span = span) := by
  have hget : edits'.get ∘ m.position = edits.get := funext m.get_position
  rw [← map_get_spanPositions, ← map_get_spanPositions, ← m.map_position_spanPositions hties,
    List.map_map, hget]

end Matching

/-- Lists that hold the same edits of each span in the same order are sorted into one list. -/
theorem mergeSort_eq_of_filter_span_eq {edits edits' : List Edit}
    (h : ∀ span : Span, edits.filter (·.span = span) = edits'.filter (·.span = span)) :
    edits.mergeSort le = edits'.mergeSort le := by
  refine eq_of_filter_span_eq (List.pairwise_mergeSort le_trans' le_total' edits)
    (List.pairwise_mergeSort le_trans' le_total' edits') ?_
  intro span
  rw [filter_span_mergeSort, filter_span_mergeSort, h]

/-! ## The outcome -/

/-- The order in which edits are given does not bear on whether they are refused, nor on which
    spans are reported.  If edits of one span keep their order, nothing else changes either: the
    text, the refusal and the bad cut are the same. -/
theorem apply_perm (source : Text) (edits edits' : List Edit) (hperm : edits.Perm edits') :
    (∀ first second, apply source edits = .error (.overlap first second) ↔
      apply source edits' = .error (.overlap first second)) ∧
    ∀ m : Matching edits edits', m.KeepsTies → apply source edits = apply source edits' := by
  constructor
  · intro first second
    rw [apply_eq_overlap_iff, apply_eq_overlap_iff, firstOverlap_mergeSort_of_perm hperm]
  · intro m hties
    have hsort := mergeSort_eq_of_filter_span_eq (m.filter_span_of_keepsTies hties)
    unfold apply
    rw [hsort]

/-- Two insertions at one offset, and a span that runs backwards. -/
def backwardEdits : List Edit :=
  [insert 2 "<".toList, ⟨⟨4, 1⟩, "x".toList⟩, insert 2 ">".toList]

/-- The same edits, the backward span first. -/
def backwardEditsSwapped : List Edit :=
  [⟨⟨4, 1⟩, "x".toList⟩, insert 2 "<".toList, insert 2 ">".toList]

/-- The first two positions change places. -/
def backwardMatching : Matching backwardEdits backwardEditsSwapped where
  position := (Equiv.swap 0 1 : Fin 3 ≃ Fin 3)
  get_position := by decide

theorem apply_perm_backward :
    backwardEdits.Perm backwardEditsSwapped ∧ backwardMatching.KeepsTies ∧
      apply "abcdef".toList backwardEdits = apply "abcdef".toList backwardEditsSwapped := by
  have hperm : backwardEdits.Perm backwardEditsSwapped := List.Perm.swap ..
  have hties : backwardMatching.KeepsTies := by
    unfold Matching.KeepsTies
    decide
  exact ⟨hperm, hties, (apply_perm "abcdef".toList _ _ hperm).2 backwardMatching hties⟩

/-- Insertions at one offset that change places change the text. -/
example : apply "ab".toList [insert 1 "x".toList, insert 1 "y".toList] = .ok "axyb".toList ∧
    apply "ab".toList [insert 1 "y".toList, insert 1 "x".toList] = .ok "ayxb".toList := by
  constructor <;> cbv

end TypedDocs.Edit
