/-
  Annotating a text leaves its code alone.

  Along a well-formed outline, annotating either reports a mismatch or
  succeeds: no cut fails and no two edits overlap.  On success, source and
  result are the same text but for one stretch per declaration, where the old
  comment, or no text at all right before the declaration, has given way to the
  new comment.
-/

import TypedDocs.Annotate
import TypedDocs.Proofs.Edit.Stretch
import TypedDocs.Proofs.Survey.CommentSpans
import TypedDocs.Proofs.Survey.Found

namespace TypedDocs

open Text

/-! ## Cuts of the survey -/

namespace Survey

open Outline

/-- Every cut that is made in the text while its declarations are read falls between
    characters: the texts of nodes, the lines of their ends, the lines in front of
    comments and declarations, and the comments that are replaced. -/
structure CutsFit (source : Text) (outline : Outline) : Prop where
  texts : ∀ t : Outline, t ∈ outline.preorder → (source.slice? t.span.start t.span.stop).isSome
  lines : ∀ t : Outline, t ∈ outline.preorder →
    (source.lineOf? t.span.start).isSome ∧ (source.lineOf? t.span.stop).isSome
  heads : ∀ t : Outline, t ∈ outline.preorder → (source.startsLine? t.span.start).isSome
  starts : ∀ d ∈ declarations source outline,
    (source.lineIndent? d.start).isSome ∧ (source.startsLine? d.start).isSome
  comments : ∀ d ∈ declarations source outline,
    (source.slice? d.commentSpan.start d.commentSpan.stop).isSome

/-- The span of a comment and the start of a declaration are those of nodes. -/
theorem fits_of_mem_declarations {source : Text} {outline : Outline}
    (hwf : WellFormed source outline) {d : Declaration} (h : d ∈ declarations source outline) :
    source.IsBoundary d.start ∧ d.commentSpan.Fits source :=
  fits_of_fits hwf.fits h

/-- Reading the declarations of a well-formed outline makes no bad cut. -/
theorem WellFormed.cutsFit {source : Text} {outline : Outline} (hwf : WellFormed source outline) :
    CutsFit source outline where
  texts t ht := (hwf.fits t ht).slice?_isSome
  lines t ht := ⟨lineOf?_isSome (hwf.fits t ht).2.1, lineOf?_isSome (hwf.fits t ht).2.2⟩
  heads t ht := startsLine?_isSome (hwf.fits t ht).2.1
  starts _ hd :=
    have hstart := (fits_of_mem_declarations hwf hd).1
    ⟨lineIndent?_isSome hstart, startsLine?_isSome hstart⟩
  comments _ hd := (fits_of_mem_declarations hwf hd).2.slice?_isSome

end Survey

namespace Annotate

open Edit

/-! ## Edits of declarations -/

/-- A pass that succeeds has succeeded on each member. -/
theorem map_eq_of_mapM_ok {α β ε : Type} {f : α → Except ε β} {xs : List α} {ys : List β}
    (h : xs.mapM f = .ok ys) : xs.map f = ys.map .ok := by
  induction xs generalizing ys with
  | nil =>
    obtain rfl : [] = ys := by simpa [pure, Except.pure] using h
    rfl
  | cons x xs ih =>
    rw [List.mapM_cons] at h
    cases hx : f x with
    | error e => rw [hx] at h; cases h
    | ok y =>
      rw [hx] at h
      cases hxs : xs.mapM f with
      | error e => rw [hxs] at h; cases h
      | ok zs =>
        rw [hxs] at h
        obtain rfl : y :: zs = ys := Except.ok.inj h
        rw [List.map_cons, List.map_cons, hx, ih hxs]

/-- An edit writes the synthesized tags in place of the old comment. -/
theorem exists_tags_of_commentEdit {source : Text} {d : Declaration} {e : Edit}
    (h : commentEdit source d = .ok e) :
    ∃ tags, Synthesis.synthesize d (oldTags source d) = .ok tags ∧
      e = ⟨d.commentSpan, placed d (Comment.build tags d.indent)⟩ := by
  unfold commentEdit at h
  cases hs : Synthesis.synthesize d (oldTags source d) with
  | error m => rw [hs] at h; cases h
  | ok tags =>
    rw [hs] at h
    exact ⟨tags, rfl, (Except.ok.inj h).symm⟩

/-- The edit of a declaration takes the declaration's comment span. -/
theorem span_of_commentEdit {source : Text} {d : Declaration} {e : Edit}
    (h : commentEdit source d = .ok e) : e.span = d.commentSpan := by
  obtain ⟨tags, -, rfl⟩ := exists_tags_of_commentEdit h
  rfl

theorem map_span_of_map_commentEdit {source : Text} {decls : List Declaration} {es : List Edit}
    (h : decls.map (commentEdit source) = es.map .ok) :
    decls.map Declaration.commentSpan = es.map Edit.span := by
  induction decls generalizing es with
  | nil =>
    obtain rfl : es = [] := by simpa using h.symm
    rfl
  | cons d decls ih =>
    cases es with
    | nil => cases h
    | cons e es =>
      rw [List.map_cons, List.map_cons, List.cons.injEq] at h
      rw [List.map_cons, List.map_cons, span_of_commentEdit h.1, ih h.2]

/-- The edits of declarations whose comment spans fit the text fit it. -/
theorem fits_of_map_commentEdit {source : Text} {decls : List Declaration} {es : List Edit}
    (h : decls.map (commentEdit source) = es.map .ok)
    (hfits : ∀ d ∈ decls, d.commentSpan.Fits source) : ∀ e ∈ es, e.span.Fits source := by
  intro e he
  have hmem : e.span ∈ decls.map Declaration.commentSpan := by
    rw [map_span_of_map_commentEdit h]
    exact List.mem_map_of_mem he
  obtain ⟨d, hd, hde⟩ := List.mem_map.1 hmem
  exact hde ▸ hfits d hd

/-- The edits in another order belong to the declarations in another order. -/
theorem exists_inOrder {source : Text} {decls : List Declaration} {es inOrder : List Edit}
    (h : decls.map (commentEdit source) = es.map .ok) (hperm : inOrder.Perm es) :
    ∃ declsInOrder : List Declaration, declsInOrder.Perm decls ∧
      declsInOrder.map (commentEdit source) = inOrder.map .ok := by
  have hmapPerm : (inOrder.map .ok).Perm (decls.map (commentEdit source)) := h ▸ hperm.map _
  obtain ⟨declsInOrder, heq, hdecls⟩ :=
    (congrFun₂ (List.eq_map_comp_perm (commentEdit source)) _ _).mpr hmapPerm
  exact ⟨declsInOrder, hdecls, heq.symm⟩

/-! ## The whole text -/

/-- Source and result of a rewriting are the same text, but for one stretch per
    declaration: there the text of the declaration's comment span has given way to the
    text of its new comment. -/
def KeepsCode (source : Text) (decls : List Declaration) (out : Text) : Prop :=
  ∃ (inOrder : List Declaration) (stretches : List Stretch) (tail : Text),
    inOrder.Perm decls ∧ source = Stretch.source stretches tail ∧
      out = Stretch.result stretches tail ∧
      inOrder.map Declaration.commentSpan = (Stretch.edits 0 stretches).map Edit.span ∧
      inOrder.map (commentEdit source) = (Stretch.edits 0 stretches).map .ok

/-- Declarations whose comment spans fit the text and lie apart. -/
theorem annotateDeclarations_cases {source : Text} {decls : List Declaration}
    (hfits : ∀ d ∈ decls, d.commentSpan.Fits source)
    (happart : decls.Pairwise fun a b => a.commentSpan.Apart b.commentSpan) :
    (∃ e, annotateDeclarations source decls = .error (.mismatch e)) ∨
      ∃ out, annotateDeclarations source decls = .ok out ∧ KeepsCode source decls out := by
  unfold annotateDeclarations
  cases hedits : commentEdits source (lastFirst decls) with
  | error e => exact Or.inl ⟨e, rfl⟩
  | ok es =>
    right
    have hsort : (lastFirst decls).Perm decls := List.mergeSort_perm decls _
    have hmap : (lastFirst decls).map (commentEdit source) = es.map .ok := map_eq_of_mapM_ok hedits
    have hspans : (lastFirst decls).map Declaration.commentSpan = es.map Edit.span :=
      map_span_of_map_commentEdit hmap
    have hesFits := fits_of_map_commentEdit hmap fun d hd => hfits d (hsort.mem_iff.1 hd)
    have hesApart : es.Pairwise fun a b => a.span.Apart b.span := by
      rw [← List.pairwise_map, ← hspans, List.pairwise_map]
      exact (hsort.pairwise_iff fun h => h.symm).2 happart
    obtain ⟨ss, tail, hsource, happly, hperm⟩ := apply_eq_ok hesFits hesApart
    obtain ⟨inOrder, hmapOrder, hinOrder⟩ := exists_inOrder hmap hperm
    refine ⟨Stretch.result ss tail, by simp only [happly], inOrder, ss, tail, ?_, hsource, rfl, ?_, ?_⟩
    · exact hmapOrder.trans hsort
    · exact map_span_of_map_commentEdit hinOrder
    · exact hinOrder

/-- Along a well-formed outline annotating makes no bad cut and meets no overlap: it
    reports a mismatch, or it succeeds and keeps all code. -/
theorem annotateOutline_keepsCode (source : Text) (outline : Outline)
    (hwf : Survey.WellFormed source outline) :
    Survey.CutsFit source outline ∧
      ((∃ e, annotateOutline source outline = .error (.mismatch e)) ∨
        ∃ out, annotateOutline source outline = .ok out ∧
          KeepsCode source (Survey.declarations source outline) out) :=
  ⟨hwf.cutsFit, annotateDeclarations_cases (fun _ hd => (Survey.fits_of_mem_declarations hwf hd).2)
    (Survey.pairwise_apart_declarations hwf)⟩

/-- An exported class with a comment, and in it a decorated field without one. -/
def boxSource : Text :=
  "/** Box. */\nexport class Box { @key id: T; }".toList

/-- The outline of `boxSource`. -/
def boxOutline : Outline :=
  ⟨⟨.program, none⟩, ⟨0, 44⟩, [
    ⟨⟨.comment, none⟩, ⟨0, 11⟩, []⟩,
    ⟨⟨.exportStmt, none⟩, ⟨12, 44⟩, [
      ⟨⟨.token "export", none⟩, ⟨12, 18⟩, []⟩,
      ⟨⟨.classDecl, none⟩, ⟨19, 44⟩, [
        ⟨⟨.typeIdent, some .name⟩, ⟨25, 28⟩, []⟩,
        ⟨⟨.classBody, none⟩, ⟨29, 44⟩, [
          ⟨⟨.decorator, none⟩, ⟨31, 35⟩, []⟩,
          ⟨⟨.fieldDef, none⟩, ⟨36, 41⟩, [
            ⟨⟨.identifier, some .name⟩, ⟨36, 38⟩, []⟩,
            ⟨⟨.typeAscription, some .type⟩, ⟨38, 41⟩, [
              ⟨⟨.typeIdent, none⟩, ⟨40, 41⟩, []⟩]⟩]⟩]⟩]⟩]⟩]⟩

theorem boxOutline_wellFormed : Survey.WellFormed boxSource boxOutline where
  fits := by decide +kernel
  nested := by decide +kernel
  ordered := by decide +kernel
  leaves := by decide +kernel
  wrappers := by decide +kernel

theorem annotateOutline_keepsCode_box :
    Survey.WellFormed boxSource boxOutline ∧ Survey.CutsFit boxSource boxOutline ∧
      ((∃ e, annotateOutline boxSource boxOutline = .error (.mismatch e)) ∨
        ∃ out, annotateOutline boxSource boxOutline = .ok out ∧
          KeepsCode boxSource (Survey.declarations boxSource boxOutline) out) :=
  ⟨boxOutline_wellFormed, annotateOutline_keepsCode boxSource boxOutline boxOutline_wellFormed⟩

end Annotate

end TypedDocs
