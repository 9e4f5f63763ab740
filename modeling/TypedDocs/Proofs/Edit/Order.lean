/-
  Edits from left to right.

  Edits are applied by where they start, then by where they stop, and edits of
  one span in the order in which they are given.  This names exactly one order
  of every list of edits (`leftToRight_iff`), the one that sorting finds.  In
  it, the insertions at an offset stand together, behind everything that starts
  before the offset and in front of everything else (`LeftToRight.insertions`).
-/

import TypedDocs.Proofs.Edit.Stretch

namespace TypedDocs

theorem Span.eq_mk_iff {span : Span} {start stop : Nat} :
    span = ⟨start, stop⟩ ↔ span.start = start ∧ span.stop = stop := by
  cases span
  rw [Span.mk.injEq]

/-! ## Stable sorting -/

/-- Sorting leaves those elements alone that stand in order already. -/
theorem filter_mergeSort_of_pairwise {α : Type} {le : α → α → Bool}
    (htrans : ∀ a b c, le a b = true → le b c = true → le a c = true)
    (htotal : ∀ a b, (le a b || le b a) = true) {l : List α} {p : α → Bool}
    (h : (l.filter p).Pairwise fun a b => le a b = true) :
    (l.mergeSort le).filter p = l.filter p := by
  -- A sorted sublist stays one, and filtering finds as many elements as before.
  have hsub : (l.filter p).Sublist (l.mergeSort le) :=
    List.sublist_mergeSort htrans htotal h List.filter_sublist
  have hfilter := hsub.filter p
  rw [List.filter_filter] at hfilter
  simp only [Bool.and_self] at hfilter
  have hlength := ((List.mergeSort_perm l le).filter p).length_eq
  exact (hfilter.eq_of_length hlength.symm).symm

namespace Edit

/-- The edits in text order; those of one span stay in the order in which they are given. -/
structure LeftToRight (edits inOrder : List Edit) : Prop where
  perm : inOrder.Perm edits
  sorted : inOrder.Pairwise fun a b => le a b = true
  ties : ∀ span : Span, inOrder.filter (·.span = span) = edits.filter (·.span = span)

/-! ## Exactly one order -/

/-- Edits that neither precedes the other have one span. -/
theorem span_eq_of_le {a b : Edit} (hab : le a b = true) (hba : le b a = true) :
    a.span = b.span := by
  rw [le_iff] at hab hba
  have hsame : a.span.start = b.span.start ∧ a.span.stop = b.span.stop := by omega
  exact Span.eq_mk_iff.2 hsame

theorem mem_iff_of_filter_span_eq {es es' : List Edit}
    (h : ∀ span : Span, es.filter (·.span = span) = es'.filter (·.span = span)) (e : Edit) :
    e ∈ es ↔ e ∈ es' := by
  have hfilter : e ∈ es.filter (·.span = e.span) ↔ e ∈ es'.filter (·.span = e.span) := by
    rw [h e.span]
  simpa using hfilter

/-- Sorted edits are determined by the edits they have of each span. -/
theorem eq_of_filter_span_eq {es es' : List Edit} (hes : es.Pairwise fun a b => le a b = true)
    (hes' : es'.Pairwise fun a b => le a b = true)
    (h : ∀ span : Span, es.filter (·.span = span) = es'.filter (·.span = span)) : es = es' := by
  induction es generalizing es' with
  | nil => exact (List.eq_nil_iff_forall_not_mem.2 fun e he =>
      List.not_mem_nil ((mem_iff_of_filter_span_eq h e).2 he)).symm
  | cons a es ih =>
    have ha : a ∈ es' := (mem_iff_of_filter_span_eq h a).1 (List.mem_cons_self ..)
    cases es' with
    | nil => cases ha
    | cons b es' =>
      have hb : b ∈ a :: es := (mem_iff_of_filter_span_eq h b).2 (List.mem_cons_self ..)
      -- Each head is among the other list, so neither precedes the other.
      have hspan : a.span = b.span := by
        rcases List.mem_cons.1 ha with rfl | ha
        · rfl
        · rcases List.mem_cons.1 hb with rfl | hb
          · rfl
          · exact span_eq_of_le (List.rel_of_pairwise_cons hes hb)
              (List.rel_of_pairwise_cons hes' ha)
      have hheads := h a.span
      rw [List.filter_cons_of_pos (by simp), List.filter_cons_of_pos (by simp [hspan]),
        List.cons.injEq] at hheads
      obtain ⟨rfl, htails⟩ := hheads
      have hrest : ∀ span : Span, es.filter (·.span = span) = es'.filter (·.span = span) := by
        intro span
        by_cases hs : a.span = span
        · exact hs ▸ htails
        · have hboth := h span
          rwa [List.filter_cons_of_neg (by simpa using hs),
            List.filter_cons_of_neg (by simpa using hs)] at hboth
      rw [ih (List.pairwise_cons.1 hes).2 (List.pairwise_cons.1 hes').2 hrest]

/-- Sorting keeps the edits of one span in the order in which they are given. -/
theorem filter_span_mergeSort (edits : List Edit) (span : Span) :
    (edits.mergeSort le).filter (·.span = span) = edits.filter (·.span = span) := by
  have hsame : (edits.filter (·.span = span)).Pairwise fun a b => le a b = true := by
    refine List.pairwise_of_forall_mem_list fun a ha b hb => ?_
    have ha : a.span = span := by simpa using (List.mem_filter.1 ha).2
    have hb : b.span = span := by simpa using (List.mem_filter.1 hb).2
    rw [le_iff, ha, hb]
    omega
  exact filter_mergeSort_of_pairwise le_trans' le_total' hsame

/-- There is exactly one order from left to right, and sorting finds it. -/
theorem leftToRight_iff {edits inOrder : List Edit} :
    LeftToRight edits inOrder ↔ inOrder = edits.mergeSort le := by
  have hsorted := List.pairwise_mergeSort le_trans' le_total' edits
  constructor
  · intro h
    refine eq_of_filter_span_eq h.sorted hsorted fun span => ?_
    rw [h.ties, filter_span_mergeSort]
  · rintro rfl
    exact ⟨List.mergeSort_perm edits le, hsorted, filter_span_mergeSort edits⟩

/-! ## Insertions at an offset -/

/-- Sorted edits: those that start before an offset, the insertions there, and the others. -/
theorem exists_insertions {es : List Edit} (hsorted : es.Pairwise fun a b => le a b = true)
    (hrange : ∀ e ∈ es, e.span.start ≤ e.span.stop) (offset : Nat) :
    ∃ before after, es = before ++ es.filter (·.span = ⟨offset, offset⟩) ++ after ∧
      (∀ e ∈ before, e.span.start < offset) ∧
      ∀ e ∈ after, offset ≤ e.span.start ∧ offset < e.span.stop := by
  induction es with
  | nil => exact ⟨[], [], rfl, by simp, by simp⟩
  | cons a es ih =>
    obtain ⟨hfirst, hrest⟩ := List.pairwise_cons.1 hsorted
    obtain ⟨ha, hes⟩ := List.forall_mem_cons.1 hrange
    obtain ⟨before, after, heq, hbefore, hafter⟩ := ih hrest hes
    by_cases hearly : a.span.start < offset
    · have hspan : a.span ≠ ⟨offset, offset⟩ := by
        rw [ne_eq, Span.eq_mk_iff]
        omega
      refine ⟨a :: before, after, ?_, List.forall_mem_cons.2 ⟨hearly, hbefore⟩, hafter⟩
      rw [List.filter_cons_of_neg (by simpa using hspan)]
      exact congrArg (a :: ·) heq
    by_cases hspan : a.span = ⟨offset, offset⟩
    · -- Behind an insertion at the offset nothing starts before it.
      have hnone : before = [] := by
        refine List.eq_nil_iff_forall_not_mem.2 fun e he => ?_
        have hle := hfirst e (by rw [heq]; simp [he])
        have hlt := hbefore e he
        rw [Span.eq_mk_iff] at hspan
        rw [le_iff] at hle
        omega
      refine ⟨[], after, ?_, by simp, hafter⟩
      rw [hnone] at heq
      rw [List.filter_cons_of_pos (by simpa using hspan)]
      exact congrArg (a :: ·) heq
    · -- The first edit is neither, so it and all behind it come after the insertions.
      have hall : ∀ e ∈ a :: es, offset ≤ e.span.start ∧ offset < e.span.stop := by
        rw [Span.eq_mk_iff] at hspan
        refine List.forall_mem_cons.2 ⟨by omega, fun e he => ?_⟩
        have hle := hfirst e he
        have hstop := hes e he
        rw [le_iff] at hle
        omega
      have hfilter : (a :: es).filter (·.span = ⟨offset, offset⟩) = [] := by
        refine List.filter_eq_nil_iff.2 fun e he h => ?_
        have hlt := (hall e he).2
        rw [decide_eq_true_eq, Span.eq_mk_iff] at h
        omega
      exact ⟨[], a :: es, by rw [hfilter, List.append_nil, List.nil_append], by simp, hall⟩

theorem LeftToRight.insertions {edits inOrder : List Edit} (h : LeftToRight edits inOrder)
    (hrange : ∀ e ∈ edits, e.span.start ≤ e.span.stop) (offset : Nat) :
    ∃ before after, inOrder = before ++ edits.filter (·.span = ⟨offset, offset⟩) ++ after ∧
      (∀ e ∈ before, e.span.start < offset) ∧
      ∀ e ∈ after, offset ≤ e.span.start ∧ offset < e.span.stop := by
  rw [← h.ties]
  exact exists_insertions h.sorted (fun e he => hrange e (h.perm.mem_iff.1 he)) offset

end Edit

end TypedDocs
