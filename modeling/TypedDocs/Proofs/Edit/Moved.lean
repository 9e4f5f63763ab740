/-
  Where an offset of the source stands in the result.

  An edit that stops at an offset or before it moves the offset by as much as
  its text is longer or shorter than its span (`moved`).  If no edit reaches
  across the offset, what stands in front of it splits into the stretches of
  these edits and a text that source and result share (`exists_moved`).
-/

import TypedDocs.Proofs.Edit.Stretch
import Mathlib.Algebra.Ring.Nat

namespace TypedDocs.Edit

open Text

/-! ## Stretches one after another -/

namespace Stretch

theorem source_append (a b : List Stretch) (tail : Text) :
    source (a ++ b) tail = source a (source b tail) := by
  induction a with
  | nil => rfl
  | cons s a ih => rw [List.cons_append, source, source, ih]

theorem result_append (a b : List Stretch) (tail : Text) :
    result (a ++ b) tail = result a (result b tail) := by
  induction a with
  | nil => rfl
  | cons s a ih => rw [List.cons_append, result, result, ih]

/-- What stands behind the stretches is not looked at. -/
theorem source_tail (ss : List Stretch) (a b : Text) : source ss (a ++ b) = source ss a ++ b := by
  induction ss with
  | nil => rfl
  | cons s ss ih => rw [source, source, ih, ← List.append_assoc]

theorem result_tail (ss : List Stretch) (a b : Text) : result ss (a ++ b) = result ss a ++ b := by
  induction ss with
  | nil => rfl
  | cons s ss ih => rw [result, result, ih, ← List.append_assoc]

theorem edits_append (offset : Nat) (a b : List Stretch) :
    edits offset (a ++ b) = edits offset a ++ edits (offset + size (source a [])) b := by
  induction a generalizing offset with
  | nil => rfl
  | cons s a ih =>
    have hoffset : offset + size s.gap + size s.old + size (source a []) =
        offset + size (source (s :: a) []) := by
      rw [source, size_append, size_append]
      omega
    rw [List.cons_append, edits, edits, ih, hoffset, List.cons_append]

/-- The edits of stretches begin behind the offset they are counted from. -/
theorem le_start_of_mem_edits {ss : List Stretch} {offset : Nat} {e : Edit}
    (he : e ∈ edits offset ss) : offset ≤ e.span.start ∧ e.span.start ≤ e.span.stop := by
  induction ss generalizing offset with
  | nil => cases he
  | cons s ss ih =>
    rw [edits, List.mem_cons] at he
    rcases he with rfl | he
    · exact ⟨Nat.le_add_right .., Nat.le_add_right ..⟩
    · have hrest := ih he
      omega

theorem pairwise_edits (offset : Nat) (ss : List Stretch) :
    (edits offset ss).Pairwise fun a b => a.span.stop ≤ b.span.start := by
  induction ss generalizing offset with
  | nil => exact List.Pairwise.nil
  | cons s ss ih =>
    exact List.pairwise_cons.2 ⟨fun _ he => (le_start_of_mem_edits he).1, ih _⟩

theorem length_edits (offset : Nat) (ss : List Stretch) : (edits offset ss).length = ss.length := by
  induction ss generalizing offset with
  | nil => rfl
  | cons s ss ih => rw [edits, List.length_cons, List.length_cons, ih]

/-- What the edits add and what they take away make the difference between source and result. -/
theorem size_result (ss : List Stretch) (offset : Nat) :
    size (source ss []) + ((edits offset ss).map fun e => size e.text).sum =
      size (result ss []) + ((edits offset ss).map fun e => e.span.stop - e.span.start).sum := by
  induction ss generalizing offset with
  | nil => rfl
  | cons s ss ih =>
    have hrest := ih (offset + size s.gap + size s.old)
    simp only [source, result, edits, size_append, List.map_cons, List.sum_cons]
    omega

/-- The stretches whose edits stop at an offset or before it come first. -/
theorem exists_passed (ss : List Stretch) {offset n : Nat} (hn : offset ≤ n) :
    ∃ a b, ss = a ++ b ∧ offset + size (source a []) ≤ n ∧
      (∀ e ∈ edits offset a, e.span.stop ≤ n) ∧
      ∀ e ∈ edits (offset + size (source a [])) b, n < e.span.stop := by
  induction ss generalizing offset with
  | nil => exact ⟨[], [], rfl, hn, by simp [edits], by simp [edits]⟩
  | cons s ss ih =>
    by_cases hstop : offset + size s.gap + size s.old ≤ n
    · obtain ⟨a, b, rfl, hle, ha, hb⟩ := ih hstop
      have hoffset : offset + size (source (s :: a) []) =
          offset + size s.gap + size s.old + size (source a []) := by
        rw [source, size_append, size_append]
        omega
      refine ⟨s :: a, b, rfl, hoffset ▸ hle, ?_, hoffset ▸ hb⟩
      rw [edits]
      exact List.forall_mem_cons.2 ⟨hstop, ha⟩
    · refine ⟨[], s :: ss, rfl, hn, by simp [edits], fun e he => ?_⟩
      rw [source, size_nil, Nat.add_zero, edits, List.mem_cons] at he
      rcases he with rfl | he
      · exact Nat.lt_of_not_le hstop
      · have hlater := le_start_of_mem_edits he
        omega

end Stretch

/-! ## Offsets -/

/-- Where an offset of the source stands in the result: every edit that stops at it or before it
    puts its text in place of its span. -/
def moved (edits : List Edit) (offset : Nat) : Nat :=
  let passed := edits.filter (·.span.stop ≤ offset)
  offset + (passed.map fun e => size e.text).sum -
    (passed.map fun e => e.span.stop - e.span.start).sum

/-- An offset is moved by the stretches in front of it. -/
theorem moved_append {a b : List Stretch} {n : Nat}
    (ha : ∀ e ∈ Stretch.edits 0 a, e.span.stop ≤ n)
    (hb : ∀ e ∈ Stretch.edits (size (Stretch.source a [])) b, n < e.span.stop) (gap : Text)
    (hn : size (Stretch.source a gap) = n) :
    moved (Stretch.edits 0 (a ++ b)) n = size (Stretch.result a gap) := by
  have hpassed : (Stretch.edits 0 (a ++ b)).filter (·.span.stop ≤ n) = Stretch.edits 0 a := by
    rw [Stretch.edits_append, Nat.zero_add, List.filter_append,
      List.filter_eq_self.2 fun e he => decide_eq_true (ha e he),
      List.filter_eq_nil_iff.2 fun e he => by simpa using hb e he, List.append_nil]
  have hsize := Stretch.size_result a 0
  have hsource := Stretch.source_tail a [] gap
  have hresult := Stretch.result_tail a [] gap
  rw [List.nil_append] at hsource hresult
  rw [hsource, size_append] at hn
  unfold moved
  dsimp only
  rw [hpassed, hresult, size_append]
  omega

/-- An offset that no edit reaches across: in front of it stand the stretches of the edits that
    stop there or before, and then a text that source and result share. -/
theorem exists_moved {ss : List Stretch} {tail : Text} {n : Nat}
    (hn : IsBoundary (Stretch.source ss tail) n)
    (hclear : ∀ e ∈ Stretch.edits 0 ss, e.span.stop ≤ n ∨ n ≤ e.span.start) :
    ∃ a b gap rest rest', ss = a ++ b ∧ (∀ e ∈ Stretch.edits 0 a, e.span.stop ≤ n) ∧
      (∀ e ∈ Stretch.edits (size (Stretch.source a [])) b, n < e.span.stop) ∧
      Stretch.source ss tail = Stretch.source a gap ++ rest ∧
      Stretch.result ss tail = Stretch.result a gap ++ rest' ∧
      size (Stretch.source a gap) = n ∧
      moved (Stretch.edits 0 ss) n = size (Stretch.result a gap) := by
  obtain ⟨a, b, rfl, hle, ha, hb⟩ := Stretch.exists_passed ss (Nat.zero_le n)
  rw [Nat.zero_add] at hle hb
  obtain ⟨front, rest, hfront, hsize⟩ := isBoundary_iff.1 hn
  have hsplit : Stretch.source (a ++ b) tail = Stretch.source a [] ++ Stretch.source b tail := by
    rw [Stretch.source_append, ← Stretch.source_tail, List.nil_append]
  obtain ⟨gap, rfl, hgap⟩ := exists_append_of_size_le (hsplit.symm.trans hfront) (by omega)
  rw [← Stretch.source_tail, List.nil_append] at hsize hfront
  -- The first edit that is not passed begins behind the shared text.
  have hshared : ∃ rest', Stretch.result b tail = gap ++ rest' := by
    cases b with
    | nil => exact ⟨rest, hgap⟩
    | cons s b =>
      have hfirst : (⟨⟨size (Stretch.source a []) + size s.gap,
          size (Stretch.source a []) + size s.gap + size s.old⟩, s.new⟩ : Edit) ∈
            Stretch.edits (size (Stretch.source a [])) (s :: b) := List.mem_cons_self ..
      have hstop := hb _ hfirst
      have hstart := hclear _ (by
        rw [Stretch.edits_append, Nat.zero_add]
        exact List.mem_append_right _ hfirst)
      have hshort : size gap ≤ size s.gap := by
        rw [← List.nil_append gap, Stretch.source_tail, size_append] at hsize
        dsimp only at hstop hstart
        omega
      rw [Stretch.source, List.append_assoc] at hgap
      obtain ⟨m, hm, -⟩ := exists_append_of_size_le hgap.symm hshort
      exact ⟨m ++ s.new ++ Stretch.result b tail, by rw [Stretch.result, hm]; simp⟩
  obtain ⟨rest', hrest'⟩ := hshared
  refine ⟨a, b, gap, rest, rest', rfl, ha, hb, hfront, ?_, hsize, moved_append ha hb gap hsize⟩
  rw [Stretch.result_append, hrest', Stretch.result_tail]

end TypedDocs.Edit
