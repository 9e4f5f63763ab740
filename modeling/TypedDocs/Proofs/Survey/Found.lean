/-
  What is recorded of a declaration that is found.

  A declaration is found at a place and takes over from it where it starts and
  which comment is its documentation (`FoundAt`).  Both are read off nodes of
  the outline.  So if all nodes fit the text, the indentation recorded is that of
  the line the declaration starts on, and its documentation, if it has one,
  is a comment that begins a line (`recorded_of_mem_declarations`).
-/

import TypedDocs.Proofs.Survey.Locate
import TypedDocs.Proofs.Survey.WellFormed

namespace TypedDocs

/-! ## Comment spans -/

theorem Declaration.commentSpan_of_none {d : Declaration} (h : d.doc = none) :
    d.commentSpan = ⟨d.start, d.start⟩ := by
  rw [commentSpan, h, Option.getD_none]

theorem Declaration.commentSpan_of_some {d : Declaration} {doc : Span} (h : d.doc = some doc) :
    d.commentSpan = doc := by
  rw [commentSpan, h, Option.getD_some]

namespace Survey

open Outline Text

/-! ## Places of declarations -/

/-- A declaration is found at a place. -/
structure FoundAt (source : Text) (d : Declaration) (p : Place) : Prop where
  declares : (kind? source p).isSome
  start : d.start = (locate source p).1
  doc : d.doc = (locate source p).2
  indent : d.indent = (source.lineIndent? d.start).getD []
  inline : d.inline = !(source.startsLine? d.start).getD true

theorem exists_foundAt {source : Text} {outline : Outline} {d : Declaration}
    (h : d ∈ declarations source outline) : ∃ p ∈ outline.places, FoundAt source d p := by
  obtain ⟨p, hp, hd⟩ := List.mem_filterMap.1 h
  refine ⟨p, hp, ?_⟩
  unfold declaration? at hd
  obtain ⟨kind, hkind, rfl⟩ := Option.map_eq_some_iff.1 hd
  exact ⟨Option.isSome_of_eq_some hkind, rfl, rfl, rfl, rfl⟩

theorem FoundAt.commentSpan_eq {source : Text} {d : Declaration} {p : Place}
    (h : FoundAt source d p) : d.commentSpan = commentSpan source p := by
  rw [Declaration.commentSpan, h.doc, h.start, commentSpan]

/-- The anchor of a place and what stands before it are nodes of the outline. -/
theorem exists_anchor_mem {outline : Outline} {p : Place} (hp : p ∈ outline.places) :
    ∃ (x : Outline) (bs : List Outline), x ∈ outline.preorder ∧ (∀ b ∈ bs, b ∈ outline.preorder) ∧
      anchor p.here p.before p.above = (x.span.start, bs) := by
  obtain ⟨hhere, hbefore, habove⟩ := over_of_mem_places hp
  obtain ⟨x, bs, hmem, hanchor⟩ := exists_anchor_eq p.here p.before p.above
  rcases List.mem_cons.1 hmem with heq | hmem
  · obtain ⟨rfl, rfl⟩ := Prod.mk.inj heq
    exact ⟨_, _, hhere, hbefore, hanchor⟩
  · exact ⟨x, bs, (habove _ hmem).1, (habove _ hmem).2, hanchor⟩

variable {source : Text} {outline : Outline} {d : Declaration}

/-! ## Offsets -/

/-- The span of a comment and the start of a declaration are those of nodes. -/
theorem fits_of_fits (hfits : ∀ t : Outline, t ∈ outline.preorder → t.span.Fits source)
    (h : d ∈ declarations source outline) :
    source.IsBoundary d.start ∧ d.commentSpan.Fits source := by
  obtain ⟨p, hp, hfound⟩ := exists_foundAt h
  obtain ⟨x, bs, hx, hbs, hanchor⟩ := exists_anchor_mem hp
  constructor
  · rw [hfound.start]
    rcases locate_start_cases source hanchor with h | ⟨n, hn, h⟩
    · rw [h]
      exact (hfits x hx).2.1
    · rw [h]
      exact (hfits n (hbs n hn)).2.1
  · rw [hfound.commentSpan_eq]
    rcases commentSpan_cases source hanchor with
      h | ⟨near, n, far, rfl, -, ⟨-, h⟩ | ⟨-, h⟩⟩
    · rw [h]
      exact ⟨Nat.le_refl _, (hfits x hx).2.1, (hfits x hx).2.1⟩
    · have hn := hfits n (hbs n (by simp))
      rw [h]
      exact ⟨Nat.le_refl _, hn.2.1, hn.2.1⟩
    · rw [h]
      exact hfits n (hbs n (by simp))

/-! ## Lines -/

/-- The documentation of a declaration is a documentation comment of the outline, and it begins a
    line. -/
theorem exists_doc_of_mem_declarations (h : d ∈ declarations source outline) {doc : Span}
    (hdoc : d.doc = some doc) :
    ∃ t : Outline, t ∈ outline.preorder ∧ t.span = doc ∧ t.isDocComment source = true ∧
      source.startsLine? doc.start = some true := by
  obtain ⟨p, hp, hfound⟩ := exists_foundAt h
  obtain ⟨x, bs, -, hbs, hanchor⟩ := exists_anchor_mem hp
  obtain ⟨ds, hpassed, -⟩ := passDecorators_cases x.span.start bs
  rw [hfound.doc, locate_eq hanchor] at hdoc
  obtain ⟨cs, c, rest, hrest, -, hc, hline, rfl⟩ := docAmong_cases hdoc
  refine ⟨c, hbs c ?_, rfl, hc, hline⟩
  rw [hpassed, hrest]
  simp

/-- What is recorded of a declaration is so in the text. -/
structure Recorded (source : Text) (d : Declaration) : Prop where
  boundary : source.IsBoundary d.start
  spanFits : d.commentSpan.Fits source
  indent : source.lineIndent? d.start = some d.indent
  startsLine : source.startsLine? d.start = some (!d.inline)
  docStartsLine : ∀ doc, d.doc = some doc → source.startsLine? doc.start = some true
  docOpens : ∀ doc, d.doc = some doc → "/**".toList <+: source.sliceOf doc

theorem recorded_of_mem_declarations
    (hfits : ∀ t : Outline, t ∈ outline.preorder → t.span.Fits source)
    (h : d ∈ declarations source outline) : Recorded source d := by
  obtain ⟨p, -, hfound⟩ := exists_foundAt h
  obtain ⟨hboundary, hspan⟩ := fits_of_fits hfits h
  obtain ⟨indent, hindent⟩ := Option.isSome_iff_exists.1 (lineIndent?_isSome hboundary)
  obtain ⟨first, hfirst⟩ := Option.isSome_iff_exists.1 (startsLine?_isSome hboundary)
  refine ⟨hboundary, hspan, ?_, ?_, ?_, ?_⟩
  · rw [hfound.indent, hindent, Option.getD_some]
  · rw [hfound.inline, hfirst, Option.getD_some, Bool.not_not]
  · intro doc hdoc
    obtain ⟨t, -, -, -, hline⟩ := exists_doc_of_mem_declarations h hdoc
    exact hline
  · intro doc hdoc
    obtain ⟨t, -, rfl, ht, -⟩ := exists_doc_of_mem_declarations h hdoc
    simp only [isDocComment, Bool.and_eq_true] at ht
    exact List.isPrefixOf_iff_prefix.1 ht.1.2

theorem Recorded.isIndent_indent (h : Recorded source d) : d.indent.all isIndent = true := by
  obtain ⟨head, -, hindent⟩ := Option.map_eq_some_iff.1 h.indent
  rw [← hindent]
  exact List.all_takeWhile

/-- Declarations with one start have one indentation. -/
theorem Recorded.indent_eq {d' : Declaration} (h : Recorded source d) (h' : Recorded source d')
    (hstart : d.start = d'.start) : d.indent = d'.indent := by
  have hindent := h.indent
  rw [hstart, h'.indent] at hindent
  exact (Option.some.inj hindent).symm

/-- Documentation is not empty. -/
theorem Recorded.doc_start_lt_stop (h : Recorded source d) {doc : Span} (hdoc : d.doc = some doc) :
    doc.start < doc.stop := by
  have hopens := h.docOpens doc hdoc
  unfold sliceOf at hopens
  cases hslice : slice? source doc.start doc.stop with
  | none =>
    rw [hslice] at hopens
    exact absurd hopens (by decide)
  | some m =>
    rw [hslice, Option.getD_some] at hopens
    obtain ⟨rest, rfl⟩ := hopens
    obtain ⟨-, -, -, -, hsize⟩ := slice?_eq_some.1 hslice
    rw [size_append] at hsize
    have hmark : size "/**".toList = 3 := rfl
    omega

theorem Recorded.doc_eq_none (h : Recorded source d)
    (hempty : d.commentSpan.start = d.commentSpan.stop) : d.doc = none := by
  refine Option.eq_none_iff_forall_ne_some.2 fun doc hdoc => ?_
  rw [Declaration.commentSpan_of_some hdoc] at hempty
  exact Nat.ne_of_lt (h.doc_start_lt_stop hdoc) hempty

end Survey

end TypedDocs
