/-
  Edits that stay out of each other's way.

  A list of stretches splits a text into what an edit leaves alone and what it
  replaces: read with the old texts it is the source, read with the new texts
  it is the result.  `apply_eq_ok` says that edits whose spans fit the text and
  lie apart are applied without an error, and gives the stretches that relate
  source and result.
-/

import TypedDocs.Edit
import TypedDocs.Proofs.Text.Cut
import Mathlib.Data.List.Perm.Basic

namespace TypedDocs

open Text

namespace Edit

/-! ## Stretches -/

/-- A part of a text: what an edit leaves alone, what it replaces and by what. -/
structure Stretch where
  gap : Text
  old : Text
  new : Text
  deriving DecidableEq, Repr

namespace Stretch

/-- The text before the edits; `tail` stands behind the last of them. -/
def source : List Stretch → Text → Text
  | [], tail => tail
  | s :: ss, tail => s.gap ++ s.old ++ source ss tail

/-- The text after the edits. -/
def result : List Stretch → Text → Text
  | [], tail => tail
  | s :: ss, tail => s.gap ++ s.new ++ result ss tail

/-- The edits that lead from the old texts to the new ones, when the first gap begins at `offset`. -/
def edits (offset : Nat) : List Stretch → List Edit
  | [] => []
  | s :: ss =>
    ⟨⟨offset + size s.gap, offset + size s.gap + size s.old⟩, s.new⟩ ::
      edits (offset + size s.gap + size s.old) ss

end Stretch

/-! ## One pass -/

/-- Neighbours that do not overlap are not reported. -/
theorem firstOverlap_eq_none {es : List Edit}
    (h : es.Pairwise fun a b => a.span.stop ≤ b.span.start) : firstOverlap es = none := by
  induction es with
  | nil => rfl
  | cons a es ih =>
    cases es with
    | nil => rfl
    | cons b es =>
      have hab : a.span.stop ≤ b.span.start := List.rel_of_pairwise_cons h (List.mem_cons_self ..)
      rw [firstOverlap, if_neg (by omega)]
      exact ih (List.pairwise_cons.1 h).2

/-- The pass over ordered edits meets no bad cut.  `pre` is what the cursor has passed already. -/
theorem splice_eq_some {source : Text} (es : List Edit) (cursor : Nat) (pre suf : Text)
    (hsource : source = pre ++ suf) (hcursor : size pre = cursor)
    (hfits : ∀ e ∈ es, e.span.Fits source) (hafter : ∀ e ∈ es, cursor ≤ e.span.start)
    (hordered : es.Pairwise fun a b => a.span.stop ≤ b.span.start) :
    ∃ ss tail, suf = Stretch.source ss tail ∧
      splice source cursor es = some (Stretch.result ss tail) ∧ Stretch.edits cursor ss = es := by
  induction es generalizing cursor pre suf with
  | nil =>
    refine ⟨[], suf, rfl, ?_, rfl⟩
    exact dropBytes?_eq_some.2 ⟨pre, hsource, hcursor⟩
  | cons e es ih =>
    obtain ⟨hle, hstart, hstop⟩ := hfits e (List.mem_cons_self ..)
    have hcur : cursor ≤ e.span.start := hafter e (List.mem_cons_self ..)
    obtain ⟨hfirst, hrest⟩ := List.pairwise_cons.1 hordered
    -- The cursor, the start and the stop of the edit split the text in four.
    obtain ⟨a, b, hab, ha⟩ := isBoundary_iff.1 hstart
    obtain ⟨c, d, hcd, hc⟩ := isBoundary_iff.1 hstop
    obtain ⟨gap, rfl, rfl⟩ := exists_append_of_size_le (hsource.symm.trans hab) (by omega)
    obtain ⟨old, rfl, rfl⟩ := exists_append_of_size_le (hab.symm.trans hcd) (by omega)
    obtain ⟨ss, tail, rfl, hsplice, hedits⟩ := ih e.span.stop (pre ++ gap ++ old) d hcd hc
      (fun x hx => hfits x (List.mem_cons_of_mem _ hx)) hfirst hrest
    rw [size_append] at ha
    rw [size_append, size_append] at hc
    have hgap : slice? source cursor e.span.start = some gap :=
      slice?_eq_some.2 ⟨pre, old ++ Stretch.source ss tail, hab, hcursor, by omega⟩
    refine ⟨⟨gap, old, e.text⟩ :: ss, tail, ?_, ?_, ?_⟩
    · rw [Stretch.source, List.append_assoc]
    · rw [splice, hgap, hsplice]
      rfl
    · have hs : cursor + size gap = e.span.start := by omega
      have ht : e.span.start + size old = e.span.stop := by omega
      rw [Stretch.edits, hs, ht, hedits]

/-! ## Order -/

theorem le_iff {a b : Edit} : le a b = true ↔ a.span.start < b.span.start ∨
    (a.span.start = b.span.start ∧ a.span.stop ≤ b.span.stop) := by
  simp only [le, Bool.or_eq_true, Bool.and_eq_true, decide_eq_true_eq, beq_iff_eq]

theorem le_trans' (a b c : Edit) (hab : le a b = true) (hbc : le b c = true) : le a c = true := by
  rw [le_iff] at hab hbc ⊢
  omega

theorem le_total' (a b : Edit) : (le a b || le b a) = true := by
  rw [Bool.or_eq_true, le_iff, le_iff]
  omega

/-- Sorted edits that lie apart follow one another.  Of two insertions at one offset
    either may come first, and an insertion precedes a replacement that starts there. -/
theorem pairwise_stop_le_start {es : List Edit} (hsorted : es.Pairwise fun a b => le a b = true)
    (happart : es.Pairwise fun a b => a.span.Apart b.span)
    (hrange : ∀ e ∈ es, e.span.start ≤ e.span.stop) :
    es.Pairwise fun a b => a.span.stop ≤ b.span.start := by
  refine (hsorted.and happart).imp_of_mem ?_
  rintro a b ha hb ⟨hle, hapart⟩
  have hra := hrange a ha
  have hrb := hrange b hb
  rw [le_iff] at hle
  unfold Span.Apart at hapart
  omega

/-- Edits that fit the text and follow one another are applied in text order, each to its own
    stretch. -/
theorem apply_eq_of_ordered {source : Text} {es : List Edit}
    (hfits : ∀ e ∈ es, e.span.Fits source)
    (hordered : (es.mergeSort le).Pairwise fun a b => a.span.stop ≤ b.span.start) :
    ∃ ss tail, source = Stretch.source ss tail ∧
      apply source es = .ok (Stretch.result ss tail) ∧ Stretch.edits 0 ss = es.mergeSort le := by
  have hfits' : ∀ e ∈ es.mergeSort le, e.span.Fits source :=
    fun e he => hfits e (List.mem_mergeSort.1 he)
  obtain ⟨ss, tail, hsource, hsplice, hedits⟩ := splice_eq_some (es.mergeSort le) 0 [] source
    rfl rfl hfits' (fun _ _ => Nat.zero_le _) hordered
  rw [List.nil_append] at hsplice
  refine ⟨ss, tail, hsource, ?_, hedits⟩
  simp only [apply, firstOverlap_eq_none hordered, hsplice]

/-- Edits that fit the text and lie apart are applied, each to its own stretch. -/
theorem apply_eq_ok {source : Text} {es : List Edit} (hfits : ∀ e ∈ es, e.span.Fits source)
    (happart : es.Pairwise fun a b => a.span.Apart b.span) :
    ∃ ss tail, source = Stretch.source ss tail ∧
      apply source es = .ok (Stretch.result ss tail) ∧ (Stretch.edits 0 ss).Perm es := by
  have hperm : (es.mergeSort le).Perm es := List.mergeSort_perm es le
  have hsorted : (es.mergeSort le).Pairwise fun a b => le a b = true :=
    List.pairwise_mergeSort le_trans' le_total' es
  have happart' : (es.mergeSort le).Pairwise fun a b => a.span.Apart b.span :=
    (hperm.pairwise_iff fun h => h.symm).2 happart
  have hordered := pairwise_stop_le_start hsorted happart' fun e he =>
    (hfits e (hperm.mem_iff.1 he)).1
  obtain ⟨ss, tail, hsource, happly, hedits⟩ := apply_eq_of_ordered hfits hordered
  exact ⟨ss, tail, hsource, happly, hedits ▸ hperm⟩

end Edit

end TypedDocs
