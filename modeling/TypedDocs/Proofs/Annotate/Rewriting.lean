/-
  A rewriting, piece by piece.

  A successful rewriting is recorded as data: in text order, each declaration
  with the stretch of text that its comment takes.  Cut at a declaration, source
  and result are what stands in front, the old comment or the new one, and what
  stands behind (`Rewriting.cut`).
-/

import TypedDocs.Proofs.Annotate.Frame
import TypedDocs.Proofs.Edit.Moved
import TypedDocs.Proofs.Edit.Overlap

namespace TypedDocs.Annotate

open Text Edit

/-- A rewriting of a text whose declarations are given. -/
structure Rewriting (source : Text) (decls : List Declaration) (out : Text) where
  /-- Each declaration, with what stands in front of its comment, the old comment and the new. -/
  pieces : List (Declaration × Stretch)
  /-- What stands behind the last comment. -/
  tail : Text
  perm : (pieces.map Prod.fst).Perm decls
  source_eq : source = Stretch.source (pieces.map Prod.snd) tail
  out_eq : out = Stretch.result (pieces.map Prod.snd) tail
  edits_eq : (pieces.map Prod.fst).map (commentEdit source) =
    (Stretch.edits 0 (pieces.map Prod.snd)).map .ok

namespace Rewriting

/-- Annotating that succeeds is a rewriting. -/
theorem of_annotateDeclarations {source out : Text} {decls : List Declaration}
    (hfits : ∀ d ∈ decls, d.commentSpan.Fits source)
    (h : annotateDeclarations source decls = .ok out) : Nonempty (Rewriting source decls out) := by
  unfold annotateDeclarations at h
  split at h
  case h_1 => cases h
  case h_2 es hes =>
    split at h
    case h_1 => cases h
    case h_2 text happly =>
      obtain rfl := Except.ok.inj h
      have hsort : (lastFirst decls).Perm decls := List.mergeSort_perm decls _
      have hmap := map_eq_of_mapM_ok hes
      have hesFits := fits_of_map_commentEdit hmap fun d hd => hfits d (hsort.mem_iff.1 hd)
      -- No two edits are reported, so they follow one another in text order.
      have haccepted : ∀ first second, apply source es ≠ .error (.overlap first second) := by
        intro first second herror
        rw [happly] at herror
        cases herror
      have hordered := pairwise_of_firstOverlap_eq_none
        (fun e he => (hesFits e (List.mem_mergeSort.1 he)).1) (apply_ne_overlap_iff.1 haccepted)
      obtain ⟨ss, tail, hsource, hresult, hedits⟩ := apply_eq_of_ordered hesFits hordered
      obtain rfl := Except.ok.inj (happly.symm.trans hresult)
      obtain ⟨inOrder, hinOrder, hcomments⟩ :=
        exists_inOrder hmap (hedits ▸ List.mergeSort_perm es Edit.le)
      have hlength : inOrder.length = ss.length := by
        have hlengths := congrArg List.length hcomments
        rwa [List.length_map, List.length_map, Stretch.length_edits] at hlengths
      have hfst : (inOrder.zip ss).map Prod.fst = inOrder :=
        List.map_fst_zip (Nat.le_of_eq hlength)
      have hsnd : (inOrder.zip ss).map Prod.snd = ss :=
        List.map_snd_zip (Nat.le_of_eq hlength.symm)
      exact ⟨{
        pieces := inOrder.zip ss
        tail := tail
        perm := hfst.symm ▸ hinOrder.trans hsort
        source_eq := hsnd.symm ▸ hsource
        out_eq := by rw [hsnd]
        edits_eq := by rw [hfst, hsnd, hcomments] }⟩

variable {source out : Text} {decls : List Declaration} (r : Rewriting source decls out)

/-- The edits, in text order. -/
def edits : List Edit :=
  Stretch.edits 0 (r.pieces.map Prod.snd)

/-- The source in front of a text that stands behind some of the pieces. -/
def sourceFront (before : List (Declaration × Stretch)) (gap : Text) : Text :=
  Stretch.source (before.map Prod.snd) gap

/-- The result in front of a text that stands behind some of the pieces. -/
def outFront (before : List (Declaration × Stretch)) (gap : Text) : Text :=
  Stretch.result (before.map Prod.snd) gap

theorem sourceFront_append (before : List (Declaration × Stretch)) (a b : Text) :
    sourceFront before (a ++ b) = sourceFront before a ++ b :=
  Stretch.source_tail ..

theorem outFront_append (before : List (Declaration × Stretch)) (a b : Text) :
    outFront before (a ++ b) = outFront before a ++ b :=
  Stretch.result_tail ..

theorem sourceFront_concat (before : List (Declaration × Stretch)) (p : Declaration × Stretch)
    (gap : Text) :
    sourceFront (before ++ [p]) gap = sourceFront before (p.2.gap ++ p.2.old) ++ gap := by
  rw [sourceFront, List.map_append, Stretch.source_append, sourceFront, ← Stretch.source_tail]
  rfl

theorem outFront_concat (before : List (Declaration × Stretch)) (p : Declaration × Stretch)
    (gap : Text) : outFront (before ++ [p]) gap = outFront before (p.2.gap ++ p.2.new) ++ gap := by
  rw [outFront, List.map_append, Stretch.result_append, outFront, ← Stretch.result_tail]
  rfl

/-! ## Cuts -/

/-- Some of the pieces come first: the edits of their declarations come first as well. -/
theorem edits_split {before after : List (Declaration × Stretch)}
    (h : r.pieces = before ++ after) :
    (before.map Prod.fst).map (commentEdit source) =
        (Stretch.edits 0 (before.map Prod.snd)).map .ok ∧
      (after.map Prod.fst).map (commentEdit source) =
        (Stretch.edits (size (sourceFront before [])) (after.map Prod.snd)).map .ok := by
  have hedits := r.edits_eq
  rw [h, List.map_append, List.map_append, List.map_append, Stretch.edits_append, List.map_append,
    Nat.zero_add] at hedits
  exact List.append_inj hedits (by simp [Stretch.length_edits])

/-- A rewriting, cut at one of its declarations. -/
theorem cut {before after : List (Declaration × Stretch)} {d : Declaration} {s : Stretch}
    (h : r.pieces = before ++ (d, s) :: after) :
    source = sourceFront before s.gap ++ s.old ++ Stretch.source (after.map Prod.snd) r.tail ∧
      out = outFront before s.gap ++ s.new ++ Stretch.result (after.map Prod.snd) r.tail ∧
      commentEdit source d = .ok ⟨⟨size (sourceFront before s.gap),
        size (sourceFront before s.gap) + size s.old⟩, s.new⟩ := by
  have hsource := r.source_eq
  have hout := r.out_eq
  rw [h, List.map_append, List.map_cons] at hsource hout
  rw [Stretch.source_append, Stretch.source, Stretch.source_tail, Stretch.source_tail] at hsource
  rw [Stretch.result_append, Stretch.result, Stretch.result_tail, Stretch.result_tail] at hout
  have hfront : sourceFront before s.gap = sourceFront before [] ++ s.gap :=
    sourceFront_append before [] s.gap
  refine ⟨hsource, hout, ?_⟩
  rw [hfront, size_append]
  exact (List.cons.inj (r.edits_split h).2).1

theorem mem_decls {before after : List (Declaration × Stretch)} {d : Declaration} {s : Stretch}
    (h : r.pieces = before ++ (d, s) :: after) : d ∈ decls := by
  refine r.perm.mem_iff.1 ?_
  rw [h]
  simp

/-- Every declaration has its piece. -/
theorem exists_piece {d : Declaration} (hd : d ∈ decls) :
    ∃ before s after, r.pieces = before ++ (d, s) :: after := by
  obtain ⟨⟨d', s⟩, hp, rfl⟩ := List.mem_map.1 (r.perm.mem_iff.2 hd)
  obtain ⟨before, after, h⟩ := List.append_of_mem hp
  exact ⟨before, s, after, h⟩

/-- The spans of some edits are those of their declarations. -/
theorem forall_span_iff {ps : List (Declaration × Stretch)} {es : List Edit} {P : Span → Prop}
    (h : (ps.map Prod.fst).map (commentEdit source) = es.map .ok) :
    (∀ e ∈ es, P e.span) ↔ ∀ p ∈ ps, P p.1.commentSpan := by
  have hspans := map_span_of_map_commentEdit h
  rw [← List.forall_mem_map, ← hspans, List.forall_mem_map, List.forall_mem_map]

/-- The comment spans follow one another. -/
theorem pairwise : r.pieces.Pairwise fun p q =>
    p.1.commentSpan.stop ≤ q.1.commentSpan.start := by
  have hspans := map_span_of_map_commentEdit r.edits_eq
  rw [List.map_map] at hspans
  have hpairs := Stretch.pairwise_edits 0 (r.pieces.map Prod.snd)
  rw [← List.pairwise_map (f := Edit.span) (R := fun a b : Span => a.stop ≤ b.start), ← hspans,
    List.pairwise_map] at hpairs
  exact hpairs

/-- The comment span of a declaration is apart from all others. -/
theorem eq_or_apart {d : Declaration} (hd : d ∈ decls) :
    ∀ p ∈ r.pieces, p.1 = d ∨ p.1.commentSpan.Apart d.commentSpan := by
  obtain ⟨before, s, after, h⟩ := r.exists_piece hd
  obtain ⟨-, hafter, hbefore⟩ := List.pairwise_append.1 (h ▸ r.pairwise)
  intro p hp
  rw [h] at hp
  rcases List.mem_append.1 hp with hp | hp
  · exact Or.inr (Or.inl (hbefore p hp _ (List.mem_cons_self ..)))
  · rcases List.mem_cons.1 hp with rfl | hp
    · exact Or.inl rfl
    · exact Or.inr (Or.inr (List.rel_of_pairwise_cons hafter hp))

/-- An offset that no comment span reaches across: in front of it stand the pieces whose comment
    spans stop there or before, and then a text that source and result share. -/
theorem exists_moved {n : Nat} (hn : source.IsBoundary n)
    (hclear : ∀ p ∈ r.pieces, p.1.commentSpan.stop ≤ n ∨ n ≤ p.1.commentSpan.start) :
    ∃ before after gap rest rest', r.pieces = before ++ after ∧
      (∀ p ∈ before, p.1.commentSpan.stop ≤ n) ∧ (∀ p ∈ after, n < p.1.commentSpan.stop) ∧
      source = sourceFront before gap ++ rest ∧ out = outFront before gap ++ rest' ∧
      size (sourceFront before gap) = n ∧ moved r.edits n = size (outFront before gap) := by
  have hedits : ∀ e ∈ r.edits, e.span.stop ≤ n ∨ n ≤ e.span.start :=
    (forall_span_iff (P := fun s => s.stop ≤ n ∨ n ≤ s.start) r.edits_eq).2 hclear
  obtain ⟨a, b, gap, rest, rest', hab, ha, hb, hsource, hout, hsize, hmoved⟩ :=
    Edit.exists_moved (r.source_eq ▸ hn) hedits
  obtain ⟨before, after, hpieces, rfl, rfl⟩ := List.map_eq_append_iff.1 hab
  obtain ⟨hbefore, hafter⟩ := r.edits_split hpieces
  refine ⟨before, after, gap, rest, rest', hpieces, ?_, ?_, ?_, ?_, hsize, hmoved⟩
  · exact (forall_span_iff (P := fun s => s.stop ≤ n) hbefore).1 ha
  · exact (forall_span_iff (P := fun s => n < s.stop) hafter).1 hb
  · exact r.source_eq.trans hsource
  · exact r.out_eq.trans hout

end Rewriting

end TypedDocs.Annotate
