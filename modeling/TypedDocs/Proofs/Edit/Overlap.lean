/-
  Which edits are refused.

  Applying edits compares neighbours in span order only, and of those only
  where the first stops with where the second starts.  For spans that do not
  run backwards this finds a conflict between any two edits, however far apart
  they stand in the list: if no neighbours overlap, each edit stops before
  every later one starts (`pairwise_of_firstOverlap_eq_none`).  What is
  reported is a conflict of the list (`conflicts_of_firstOverlap`).
-/

import TypedDocs.Proofs.Edit.Stretch

namespace TypedDocs

/-! ## Conflicts -/

namespace Span

/-- Two spans share a byte, or one of them is empty and lies strictly inside the other. -/
def Conflicts (a b : Span) : Prop :=
  (∃ byte, (a.start ≤ byte ∧ byte < a.stop) ∧ b.start ≤ byte ∧ byte < b.stop) ∨
    (a.start = a.stop ∧ b.start < a.start ∧ a.start < b.stop) ∨
    (b.start = b.stop ∧ a.start < b.start ∧ b.start < a.stop)

theorem Conflicts.symm {a b : Span} (h : a.Conflicts b) : b.Conflicts a := by
  rcases h with ⟨byte, ha, hb⟩ | hinside | hinside
  · exact Or.inl ⟨byte, hb, ha⟩
  · exact Or.inr (Or.inr hinside)
  · exact Or.inr (Or.inl hinside)

/-- Spans that do not run backwards conflict unless one stops before the other starts. -/
theorem conflicts_iff_not_apart {a b : Span} (ha : a.start ≤ a.stop) (hb : b.start ≤ b.stop) :
    a.Conflicts b ↔ ¬ a.Apart b := by
  unfold Conflicts Apart
  constructor
  · rintro (⟨byte, hbyte⟩ | hinside | hinside) <;> omega
  · intro h
    by_cases hempty : a.start = a.stop ∨ b.start = b.stop
    · right
      omega
    · -- The later of the two starts is a byte of both.
      left
      exact ⟨max a.start b.start, by omega, by omega⟩

end Span

namespace Edit

/-! ## Neighbours and all pairs -/

/-- What is reported are neighbours, the second of which starts before the first stops. -/
theorem exists_neighbours_of_firstOverlap {es : List Edit} {first second : Span}
    (h : firstOverlap es = some (first, second)) :
    ∃ before a b after, es = before ++ a :: b :: after ∧ a.span = first ∧ b.span = second ∧
      second.start < first.stop := by
  fun_induction firstOverlap es with
  | case1 a b rest hlt =>
    obtain ⟨rfl, rfl⟩ : a.span = first ∧ b.span = second := by simpa using h
    exact ⟨[], a, b, rest, rfl, rfl, rfl, hlt⟩
  | case2 a b rest hle ih =>
    obtain ⟨before, x, y, after, heq, hx, hy, hlt⟩ := ih h
    exact ⟨a :: before, x, y, after, by rw [heq, List.cons_append], hx, hy, hlt⟩
  | case3 => cases h

/-- If no neighbours overlap, every edit stops before any later one starts. -/
theorem pairwise_of_firstOverlap_eq_none {es : List Edit}
    (hrange : ∀ e ∈ es, e.span.start ≤ e.span.stop) (h : firstOverlap es = none) :
    es.Pairwise fun a b => a.span.stop ≤ b.span.start := by
  induction es with
  | nil => exact List.Pairwise.nil
  | cons a es ih =>
    cases es with
    | nil => exact List.pairwise_singleton _ a
    | cons b es =>
      rw [firstOverlap] at h
      split at h
      case isTrue => cases h
      case isFalse hab =>
        obtain ⟨-, hrest⟩ := List.forall_mem_cons.1 hrange
        have hpairs := ih hrest h
        have hb : b.span.start ≤ b.span.stop := hrest b (List.mem_cons_self ..)
        refine List.pairwise_cons.2 ⟨fun c hc => ?_, hpairs⟩
        -- From the neighbour on, a span's stop and the next start only grow.
        rcases List.mem_cons.1 hc with rfl | hc
        · omega
        · have hbc : b.span.stop ≤ c.span.start := List.rel_of_pairwise_cons hpairs hc
          omega

/-! ## Pairs of edits -/

/-- Two edits at different positions of a list have spans that are related. -/
def HasPair (R : Span → Span → Prop) (es : List Edit) : Prop :=
  ∃ (i j : Nat) (a b : Edit), i ≠ j ∧ es[i]? = some a ∧ es[j]? = some b ∧ R a.span b.span

theorem hasPair_iff_not_pairwise {R : Span → Span → Prop} (hsymm : ∀ {a b}, R a b → R b a)
    {es : List Edit} : HasPair R es ↔ ¬ es.Pairwise fun a b => ¬ R a.span b.span := by
  rw [List.pairwise_iff_getElem]
  constructor
  · rintro ⟨i, j, a, b, hne, ha, hb, hab⟩ hpairs
    obtain ⟨hi, rfl⟩ := List.getElem?_eq_some_iff.1 ha
    obtain ⟨hj, rfl⟩ := List.getElem?_eq_some_iff.1 hb
    rcases Nat.lt_or_gt_of_ne hne with hlt | hlt
    · exact hpairs i j hi hj hlt hab
    · exact hpairs j i hj hi hlt (hsymm hab)
  · intro h
    push Not at h
    obtain ⟨i, j, hi, hj, hlt, hab⟩ := h
    exact ⟨i, j, es[i], es[j], Nat.ne_of_lt hlt, List.getElem?_eq_getElem hi,
      List.getElem?_eq_getElem hj, hab⟩

/-- Which pairs of edits a list has does not depend on its order. -/
theorem hasPair_perm {R : Span → Span → Prop} (hsymm : ∀ {a b}, R a b → R b a)
    {es es' : List Edit} (hperm : es.Perm es') : HasPair R es ↔ HasPair R es' := by
  rw [hasPair_iff_not_pairwise hsymm, hasPair_iff_not_pairwise hsymm,
    hperm.pairwise_iff fun hab hba => hab (hsymm hba)]

/-! ## Refusals -/

theorem apply_eq_overlap_iff {source : Text} {es : List Edit} {first second : Span} :
    apply source es = .error (.overlap first second) ↔
      firstOverlap (es.mergeSort le) = some (first, second) := by
  unfold apply
  dsimp only
  cases hoverlap : firstOverlap (es.mergeSort le) with
  | some pair => simp [Prod.ext_iff]
  | none => cases hsplice : splice source 0 (es.mergeSort le) <;> simp

theorem apply_ne_overlap_iff {source : Text} {es : List Edit} :
    (∀ first second, apply source es ≠ .error (.overlap first second)) ↔
      firstOverlap (es.mergeSort le) = none := by
  simp only [ne_eq, apply_eq_overlap_iff, Option.eq_none_iff_forall_ne_some, Prod.forall]

/-- The spans that are reported conflict. -/
theorem conflicts_of_firstOverlap {es : List Edit} {first second : Span}
    (hsorted : es.Pairwise fun a b => le a b = true)
    (hrange : ∀ e ∈ es, e.span.start ≤ e.span.stop)
    (h : firstOverlap es = some (first, second)) : first.Conflicts second := by
  obtain ⟨before, a, b, after, rfl, rfl, rfl, hlt⟩ := exists_neighbours_of_firstOverlap h
  have ha : a.span.start ≤ a.span.stop := hrange a (by simp)
  have hb : b.span.start ≤ b.span.stop := hrange b (by simp)
  have hle : le a b = true :=
    List.rel_of_pairwise_cons (List.pairwise_append.1 hsorted).2.1 (List.mem_cons_self ..)
  rw [Span.conflicts_iff_not_apart ha hb]
  rw [le_iff] at hle
  unfold Span.Apart
  omega

/-- The spans that are reported are those of two edits of the list. -/
theorem hasPair_of_firstOverlap {es : List Edit} {first second : Span}
    (h : firstOverlap (es.mergeSort le) = some (first, second)) :
    HasPair (fun a b => a = first ∧ b = second) es := by
  obtain ⟨before, a, b, after, heq, ha, hb, -⟩ := exists_neighbours_of_firstOverlap h
  -- Sorting can swap the two, so they are looked for in either order.
  let R : Span → Span → Prop := fun x y => (x = first ∧ y = second) ∨ (x = second ∧ y = first)
  have hsymm : ∀ {x y}, R x y → R y x := by
    rintro x y (⟨hx, hy⟩ | ⟨hx, hy⟩)
    · exact Or.inr ⟨hy, hx⟩
    · exact Or.inl ⟨hy, hx⟩
  have hsorted : HasPair R (es.mergeSort le) := by
    refine ⟨before.length, before.length + 1, a, b, by omega, ?_, ?_, Or.inl ⟨ha, hb⟩⟩
    · simp [heq]
    · simp [heq]
  obtain ⟨i, j, x, y, hne, hx, hy, hxy⟩ :=
    (hasPair_perm hsymm (List.mergeSort_perm es le)).1 hsorted
  rcases hxy with ⟨hfirst, hsecond⟩ | ⟨hsecond, hfirst⟩
  · exact ⟨i, j, x, y, hne, hx, hy, hfirst, hsecond⟩
  · exact ⟨j, i, y, x, hne.symm, hy, hx, hfirst, hsecond⟩

/-- No neighbours overlap in span order exactly when all edits of the list lie apart. -/
theorem firstOverlap_mergeSort_eq_none_iff {es : List Edit}
    (hrange : ∀ e ∈ es, e.span.start ≤ e.span.stop) :
    firstOverlap (es.mergeSort le) = none ↔ es.Pairwise fun a b => a.span.Apart b.span := by
  have hperm : (es.mergeSort le).Perm es := List.mergeSort_perm es le
  have hrange' : ∀ e ∈ es.mergeSort le, e.span.start ≤ e.span.stop :=
    fun e he => hrange e (List.mem_mergeSort.1 he)
  rw [← hperm.pairwise_iff fun h => h.symm]
  constructor
  · intro h
    exact (pairwise_of_firstOverlap_eq_none hrange' h).imp Or.inl
  · intro h
    have hsorted := List.pairwise_mergeSort le_trans' le_total' es
    exact firstOverlap_eq_none (pairwise_stop_le_start hsorted h hrange')

/-- Two edits of a list conflict exactly when its edits do not all lie apart. -/
theorem hasPair_conflicts_iff {es : List Edit} (hrange : ∀ e ∈ es, e.span.start ≤ e.span.stop) :
    HasPair Span.Conflicts es ↔ ¬ es.Pairwise fun a b => a.span.Apart b.span := by
  rw [hasPair_iff_not_pairwise Span.Conflicts.symm, not_iff_not]
  refine List.Pairwise.iff_of_mem fun {a b} ha hb => ?_
  rw [Span.conflicts_iff_not_apart (hrange a ha) (hrange b hb), not_not]

/-- Edits are refused for an overlap exactly when two of them conflict, and a refusal names such a
    pair.  Edits that touch, and insertions at one offset, lie apart and are accepted. -/
theorem apply_overlap_iff (source : Text) (edits : List Edit)
    (hrange : ∀ e ∈ edits, e.span.start ≤ e.span.stop) :
    ((∃ first second, apply source edits = .error (.overlap first second)) ↔
      HasPair Span.Conflicts edits) ∧
    (∀ first second, apply source edits = .error (.overlap first second) →
      first.Conflicts second ∧ HasPair (fun a b => a = first ∧ b = second) edits) ∧
    ((edits.Pairwise fun a b => a.span.Apart b.span) →
      ∀ first second, apply source edits ≠ .error (.overlap first second)) := by
  have haccepted : (∀ first second, apply source edits ≠ .error (.overlap first second)) ↔
      edits.Pairwise fun a b => a.span.Apart b.span :=
    apply_ne_overlap_iff.trans (firstOverlap_mergeSort_eq_none_iff hrange)
  refine ⟨?_, ?_, haccepted.2⟩
  · rw [hasPair_conflicts_iff hrange, ← haccepted]
    push Not
    rfl
  · intro first second h
    have hoverlap := apply_eq_overlap_iff.1 h
    have hsorted := List.pairwise_mergeSort le_trans' le_total' edits
    have hrange' : ∀ e ∈ edits.mergeSort le, e.span.start ≤ e.span.stop :=
      fun e he => hrange e (List.mem_mergeSort.1 he)
    exact ⟨conflicts_of_firstOverlap hsorted hrange' hoverlap, hasPair_of_firstOverlap hoverlap⟩

/-- An insertion inside a long deletion, and a shorter deletion that stands between them in span
    order. -/
def crossingEdits : List Edit :=
  [insert 8 "y".toList, delete ⟨2, 4⟩, delete ⟨0, 9⟩]

theorem apply_overlap_iff_crossing :
    (∀ e ∈ crossingEdits, e.span.start ≤ e.span.stop) ∧ HasPair Span.Conflicts crossingEdits ∧
      ∃ first second, apply "abcdefghij".toList crossingEdits = .error (.overlap first second) := by
  have hrange : ∀ e ∈ crossingEdits, e.span.start ≤ e.span.stop := by decide
  have hpair : HasPair Span.Conflicts crossingEdits :=
    ⟨0, 2, insert 8 "y".toList, delete ⟨0, 9⟩, by decide, rfl, rfl, Or.inr (Or.inl (by decide))⟩
  exact ⟨hrange, hpair, (apply_overlap_iff "abcdefghij".toList crossingEdits hrange).1.2 hpair⟩

example : apply "abcdef".toList
    [delete ⟨2, 4⟩, insert 2 "x".toList, delete ⟨0, 2⟩, insert 2 "y".toList] =
      .ok "xyef".toList := by
  cbv

end Edit

end TypedDocs
