/-
  One pass and one edit at a time.

  Edits can also be applied one at a time, each by itself at the offsets it was
  made for, as long as the rightmost goes first: what it changes lies behind
  everything that is still to be done.  Both ways lead to the same text
  (`apply_eq_splices`).
-/

import TypedDocs.Proofs.Edit.Order
import TypedDocs.Proofs.Edit.Overlap

namespace TypedDocs.Edit

open Text

/-! ## One edit -/

/-- One edit by itself: the text before its span, its own text, and the text behind its span. -/
def spliceInto? (text : Text) (e : Edit) : Option Text := do
  let before ← takeBytes? e.span.start text
  let behind ← dropBytes? e.span.stop text
  return before ++ e.text ++ behind

theorem spliceInto?_eq_some (before old behind : Text) {e : Edit}
    (hstart : size before = e.span.start) (hstop : size before + size old = e.span.stop) :
    spliceInto? (before ++ old ++ behind) e = some (before ++ e.text ++ behind) := by
  have hbefore : takeBytes? e.span.start (before ++ old ++ behind) = some before :=
    takeBytes?_eq_some.2 ⟨old ++ behind, by rw [List.append_assoc], hstart⟩
  have hbehind : dropBytes? e.span.stop (before ++ old ++ behind) = some behind :=
    dropBytes?_eq_some.2 ⟨before ++ old, rfl, by rw [size_append, hstop]⟩
  rw [spliceInto?, hbefore, hbehind]
  rfl

/-! ## One edit after another -/

/-- From the rightmost to the leftmost, each edit turns its own stretch from old to new.  `before`
    is what stands to the left of all of them. -/
theorem foldlM_spliceInto?_edits (ss : List Stretch) (before tail : Text) :
    (Stretch.edits (size before) ss).reverse.foldlM spliceInto?
        (before ++ Stretch.source ss tail) = some (before ++ Stretch.result ss tail) := by
  induction ss generalizing before with
  | nil => rfl
  | cons s ss ih =>
    -- The edits behind this stretch are done; they have not moved it.
    have hbehind := ih (before ++ s.gap ++ s.old)
    rw [size_append, size_append] at hbehind
    let here : Edit := ⟨⟨size before + size s.gap, size before + size s.gap + size s.old⟩, s.new⟩
    have hhere : spliceInto? (before ++ s.gap ++ s.old ++ Stretch.result ss tail) here =
        some (before ++ s.gap ++ s.new ++ Stretch.result ss tail) :=
      spliceInto?_eq_some (before ++ s.gap) s.old _ (size_append ..) (by rw [size_append])
    rw [Stretch.edits, List.reverse_cons, List.foldlM_append, Stretch.source, Stretch.result]
    simp only [← List.append_assoc] at hbehind hhere ⊢
    rw [hbehind]
    exact (bind_pure _).trans hhere

/-- Edits that fit the text and are not refused are applied without a bad cut.  The result is that
    of applying them one at a time from right to left; it has the texts of the edits, from left to
    right, in place of their spans and keeps everything between them.  Insertions at one offset
    stand in the order in which they are given, in front of what replaces the text there. -/
theorem apply_eq_splices (source : Text) (edits : List Edit)
    (hfits : ∀ e ∈ edits, e.span.Fits source)
    (haccepted : ∀ first second, apply source edits ≠ .error (.overlap first second)) :
    ∃ inOrder out, (∀ order, LeftToRight edits order ↔ order = inOrder) ∧
      apply source edits = .ok out ∧
      inOrder.reverse.foldlM spliceInto? source = some out ∧
      (∃ stretches tail, source = Stretch.source stretches tail ∧
        out = Stretch.result stretches tail ∧ Stretch.edits 0 stretches = inOrder) ∧
      ∀ offset, ∃ before after,
        inOrder = before ++ edits.filter (·.span = ⟨offset, offset⟩) ++ after ∧
          (∀ e ∈ before, e.span.start < offset) ∧
          ∀ e ∈ after, offset ≤ e.span.start ∧ offset < e.span.stop := by
  have hrange : ∀ e ∈ edits, e.span.start ≤ e.span.stop := fun e he => (hfits e he).1
  have hrange' : ∀ e ∈ edits.mergeSort le, e.span.start ≤ e.span.stop :=
    fun e he => hrange e (List.mem_mergeSort.1 he)
  have hordered := pairwise_of_firstOverlap_eq_none hrange' (apply_ne_overlap_iff.1 haccepted)
  obtain ⟨ss, tail, hsource, happly, hedits⟩ := apply_eq_of_ordered hfits hordered
  have hsplices := foldlM_spliceInto?_edits ss [] tail
  rw [List.nil_append, List.nil_append, ← hsource, size_nil, hedits] at hsplices
  have horder : LeftToRight edits (edits.mergeSort le) := leftToRight_iff.2 rfl
  exact ⟨edits.mergeSort le, Stretch.result ss tail, fun _ => leftToRight_iff, happly, hsplices,
    ⟨ss, tail, hsource, rfl, hedits⟩, horder.insertions hrange⟩

/-- Two insertions where a character of two bytes is replaced, and one at the end. -/
def naiveEdits : List Edit :=
  [⟨⟨2, 4⟩, "i".toList⟩, insert 2 "<".toList, insert 6 "!".toList, insert 2 ">".toList]

theorem apply_eq_splices_naive :
    (∀ e ∈ naiveEdits, e.span.Fits "naïve".toList) ∧
      apply "naïve".toList naiveEdits = .ok "na<>ive!".toList ∧
      ∃ inOrder, LeftToRight naiveEdits inOrder ∧
        inOrder.reverse.foldlM spliceInto? "naïve".toList = some "na<>ive!".toList := by
  have hfits : ∀ e ∈ naiveEdits, e.span.Fits "naïve".toList := by decide
  have hsort : naiveEdits.mergeSort le =
      [insert 2 "<".toList, insert 2 ">".toList, ⟨⟨2, 4⟩, "i".toList⟩, insert 6 "!".toList] := by
    simp [naiveEdits, List.mergeSort, le, insert]
  have hresult : apply "naïve".toList naiveEdits = .ok "na<>ive!".toList := by
    unfold apply
    rw [hsort]
    decide +kernel
  have haccepted : ∀ first second,
      apply "naïve".toList naiveEdits ≠ .error (.overlap first second) := by
    intro first second h
    rw [hresult] at h
    cases h
  obtain ⟨inOrder, out, horder, happly, hsplices, -⟩ :=
    apply_eq_splices "naïve".toList naiveEdits hfits haccepted
  obtain rfl : "na<>ive!".toList = out := Except.ok.inj (hresult.symm.trans happly)
  exact ⟨hfits, hresult, inOrder, (horder inOrder).2 rfl, hsplices⟩

end TypedDocs.Edit
