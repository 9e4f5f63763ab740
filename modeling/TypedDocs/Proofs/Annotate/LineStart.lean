/-
  Comments and declarations stand at the start of a line.

  In front of an offset that only indentation stands in front of, the last edit
  either ends with a newline and the indentation of its own line, or it replaces
  a comment that a line ends behind.  So the line in front of such an offset is
  the same in the result (`lastLine_outFront`), and the new comment that goes
  there begins a line.  Every other new comment brings its line along, and so
  does every declaration behind a comment that is inserted
  (`annotateOutline_startsLine`).
-/

import TypedDocs.Proofs.Annotate.Rewriting
import TypedDocs.Proofs.Text.LineHead
import TypedDocs.Proofs.Text.Lines

namespace TypedDocs.Annotate

open Text Edit Survey

/-! ## The text of an edit -/

/-- What an edit puts in front of the new comment. -/
def lead (d : Declaration) : Text :=
  if d.doc.isNone && d.inline then '\n' :: d.indent else []

/-- What an edit puts behind the new comment. -/
def trail (d : Declaration) : Text :=
  if d.doc.isNone then '\n' :: d.indent else []

theorem placed_eq_append (d : Declaration) (block : Text) :
    placed d block = lead d ++ block ++ trail d := by
  unfold placed lead trail
  cases d.doc <;> cases d.inline <;> simp

/-- An old comment is replaced by the new one and nothing else. -/
theorem placed_of_some {d : Declaration} {doc : Span} (h : d.doc = some doc) :
    lead d = [] ∧ trail d = [] := by
  rw [lead, trail, h]
  exact ⟨rfl, rfl⟩

theorem trail_of_none {d : Declaration} (h : d.doc = none) : trail d = '\n' :: d.indent := by
  rw [trail, h]
  rfl

theorem lead_cases (d : Declaration) :
    lead d = '\n' :: d.indent ∨ (lead d = [] ∧ (d.inline = true → d.doc.isSome)) := by
  unfold lead
  cases hdoc : d.doc <;> cases hinline : d.inline <;> simp

namespace Rewriting

variable {source out : Text} {decls : List Declaration} (r : Rewriting source decls out)
  {before after : List (Declaration × Stretch)} {d : Declaration} {s : Stretch}

/-! ## Pieces -/

theorem exists_tags (h : r.pieces = before ++ (d, s) :: after) :
    ∃ tags, Synthesis.synthesize d (oldTags source d) = .ok tags ∧
      s.new = lead d ++ Comment.build tags d.indent ++ trail d := by
  obtain ⟨tags, htags, hedit⟩ := exists_tags_of_commentEdit (r.cut h).2.2
  refine ⟨tags, htags, ?_⟩
  rw [← placed_eq_append]
  exact congrArg Edit.text hedit

theorem commentSpan_eq (h : r.pieces = before ++ (d, s) :: after) :
    d.commentSpan =
      ⟨size (sourceFront before s.gap), size (sourceFront before s.gap) + size s.old⟩ :=
  (span_of_commentEdit (r.cut h).2.2).symm

/-- A new comment is inserted where the declaration starts. -/
theorem piece_of_none (h : r.pieces = before ++ (d, s) :: after) (hdoc : d.doc = none) :
    size (sourceFront before s.gap) = d.start ∧ s.old = [] := by
  have hspan := r.commentSpan_eq h
  rw [Declaration.commentSpan_of_none hdoc, Span.mk.injEq] at hspan
  exact ⟨hspan.1.symm, size_eq_zero.1 (by omega)⟩

/-- An old comment is what is replaced. -/
theorem piece_of_some (h : r.pieces = before ++ (d, s) :: after) {doc : Span}
    (hdoc : d.doc = some doc) :
    size (sourceFront before s.gap) = doc.start ∧ s.old = source.sliceOf doc := by
  have hspan := r.commentSpan_eq h
  rw [Declaration.commentSpan_of_some hdoc] at hspan
  obtain ⟨hsource, -, -⟩ := r.cut h
  have hslice : slice? source doc.start doc.stop = some s.old :=
    slice?_eq_some.2 ⟨_, _, hsource, by rw [hspan], by rw [hspan]⟩
  exact ⟨by rw [hspan], by rw [sliceOf, hslice, Option.getD_some]⟩

/-! ## Lines -/

/-- Behind an inserted comment stands the indentation of the declaration's line. -/
theorem lastLine_inserted (hrec : Recorded source d) (h : r.pieces = before ++ (d, s) :: after)
    (hdoc : d.doc = none) (front : Text) : lastLine (front ++ s.new) = d.indent := by
  obtain ⟨tags, -, hnew⟩ := r.exists_tags h
  rw [hnew, trail_of_none hdoc, ← List.append_assoc,
    lastLine_append_newline _ (newline_not_mem_of_isIndent hrec.isIndent_indent)]

/-- In the source, the line in front of an inserted comment begins with the indentation. -/
theorem takeWhile_lastLine_of_none (hrec : Recorded source d)
    (h : r.pieces = before ++ (d, s) :: after) (hdoc : d.doc = none) :
    (lastLine (sourceFront before s.gap)).takeWhile isIndent = d.indent := by
  have hindent := hrec.indent
  rw [(r.cut h).1, List.append_assoc, ← (r.piece_of_none h hdoc).1, lineIndent?_append] at hindent
  exact Option.some.inj hindent

/-- A comment that closes leaves something on its last line. -/
theorem not_isIndent_of_closed {s : Text} (h : "*/".toList <:+ s) (front : Text) :
    (lastLine (front ++ s)).all isIndent = false := by
  obtain ⟨init, rfl⟩ := h
  rw [← List.append_assoc, lastLine_append_of_not_mem _ (by decide), List.all_append,
    Bool.and_eq_false_iff]
  exact Or.inr (by decide)

/-- If only indentation stands in front of an offset of the source, the same indentation stands in
    front of it in the result. -/
theorem lastLine_outFront (hrec : ∀ d ∈ decls, Recorded source d)
    (hclosed : ∀ d ∈ decls, ∀ doc, d.doc = some doc → "*/".toList <:+ source.sliceOf doc)
    (h : r.pieces = before ++ after) {gap : Text}
    (hgap : (lastLine (sourceFront before gap)).all isIndent = true) :
    lastLine (outFront before gap) = lastLine (sourceFront before gap) := by
  -- Only the last of the pieces bears on the line, and it does if no newline stands behind it.
  rcases List.eq_nil_or_concat' before with rfl | ⟨init, ⟨d, s⟩, rfl⟩
  · rfl
  rw [List.append_assoc] at h
  rw [sourceFront_concat] at hgap ⊢
  rw [outFront_concat]
  by_cases hnewline : '\n' ∈ gap
  · rw [lastLine_append_of_mem _ hnewline, lastLine_append_of_mem _ hnewline]
  rw [lastLine_append_of_not_mem _ hnewline] at hgap ⊢
  rw [lastLine_append_of_not_mem _ hnewline]
  rw [List.all_append, Bool.and_eq_true] at hgap
  have hd := r.mem_decls h
  cases hdoc : d.doc with
  | none =>
    have hold := (r.piece_of_none h hdoc).2
    have htake := r.takeWhile_lastLine_of_none (hrec d hd) h hdoc
    rw [hold, List.append_nil] at hgap ⊢
    rw [outFront_append, r.lastLine_inserted (hrec d hd) h hdoc, ← htake,
      List.takeWhile_eq_self_iff.2 (List.all_eq_true.1 hgap.1)]
  | some doc =>
    -- A line does not end behind the old comment, and nothing but indentation stands on it.
    rw [sourceFront_append, (r.piece_of_some h hdoc).2,
      not_isIndent_of_closed (hclosed d hd doc hdoc)] at hgap
    exact absurd hgap.1 (by decide)

/-! ## Where a declaration stands -/

/-- No comment span reaches across the start of a declaration that has no comment. -/
theorem clear_of_none (hd : d ∈ decls) (hdoc : d.doc = none) :
    ∀ p ∈ r.pieces, p.1.commentSpan.stop ≤ d.start ∨ d.start ≤ p.1.commentSpan.start := by
  intro p hp
  have hapart := r.eq_or_apart hd p hp
  rw [Span.Apart, Declaration.commentSpan_of_none hdoc] at hapart
  rcases hapart with heq | hapart
  · rw [heq, Declaration.commentSpan_of_none hdoc]
    exact Or.inl (Nat.le_refl _)
  · exact hapart

/-- The last of the pieces that stop at an offset or before it: if a declaration's piece is one of
    them, it is that piece or another one behind it. -/
theorem exists_last (h : r.pieces = before ++ after) {n : Nat}
    (hafter : ∀ p ∈ after, n < p.1.commentSpan.stop) (hd : d ∈ decls)
    (hn : d.commentSpan.stop ≤ n) :
    ∃ init d' s', before = init ++ [(d', s')] ∧
      (d' = d ∨ d.commentSpan.stop ≤ d'.commentSpan.start) := by
  obtain ⟨front, s, back, hpiece⟩ := r.exists_piece hd
  have hmem : (d, s) ∈ before ++ after := by
    rw [← h, hpiece]
    simp
  have hpassed := (List.mem_append.1 hmem).resolve_right fun hmem =>
    Nat.not_lt_of_le hn (hafter _ hmem)
  rcases List.eq_nil_or_concat' before with rfl | ⟨init, ⟨d', s'⟩, rfl⟩
  · cases hpassed
  refine ⟨init, d', s', rfl, ?_⟩
  rcases List.mem_append.1 hpassed with hpassed | hpassed
  · have hpairs := (List.pairwise_append.1 (h ▸ r.pairwise)).1
    exact Or.inr ((List.pairwise_append.1 hpairs).2.2 _ hpassed _ (List.mem_singleton_self _))
  · exact Or.inl (Prod.mk.inj (List.mem_singleton.1 hpassed)).1.symm

/-- The last edit in front of a declaration without a comment inserts a comment where the
    declaration starts: its own, or that of another declaration with the same start. -/
theorem exists_insertion (hrec : ∀ d ∈ decls, Recorded source d) (hd : d ∈ decls)
    (hdoc : d.doc = none) :
    ∃ init d' s' back rest', r.pieces = init ++ (d', s') :: back ∧ d'.doc = none ∧
      d'.start = d.start ∧ out = outFront init (s'.gap ++ s'.new) ++ rest' ∧
      moved r.edits d.start = size (outFront init (s'.gap ++ s'.new)) := by
  have hspan := Declaration.commentSpan_of_none hdoc
  obtain ⟨before, after, gap, rest, rest', h, hbefore, hafter, -, hout, hsize, hmoved⟩ :=
    r.exists_moved (hrec d hd).boundary (r.clear_of_none hd hdoc)
  obtain ⟨init, d', s', rfl, hlast⟩ := r.exists_last h hafter hd (Nat.le_of_eq (by rw [hspan]))
  rw [List.append_assoc, List.singleton_append] at h
  have hd' := r.mem_decls h
  have hempty : d'.commentSpan.start = d.start ∧ d'.commentSpan.stop = d.start := by
    rcases hlast with rfl | hle
    · exact ⟨congrArg Span.start hspan, congrArg Span.stop hspan⟩
    · have hrange := (hrec d' hd').spanFits.1
      have hstop : d'.commentSpan.stop ≤ d.start := hbefore (d', s') (by simp)
      rw [hspan] at hle
      dsimp only at hle
      omega
  have hdoc' := (hrec d' hd').doc_eq_none (hempty.1.trans hempty.2.symm)
  rw [Declaration.commentSpan_of_none hdoc'] at hempty
  obtain ⟨hfront, hold⟩ := r.piece_of_none h hdoc'
  have hgap : gap = [] := by
    rw [sourceFront_concat, hold, List.append_nil, size_append, hfront] at hsize
    dsimp only at hempty
    exact size_eq_zero.1 (by omega)
  rw [hgap, outFront_concat, List.append_nil] at hout hmoved
  exact ⟨init, d', s', after, rest', h, hdoc', hempty.1, hout, hmoved⟩

/-- Behind the comment that is inserted for it, a declaration begins a line, with the indentation
    that its line has in the source. -/
theorem moved_of_none (hrec : ∀ d ∈ decls, Recorded source d) (hd : d ∈ decls)
    (hdoc : d.doc = none) :
    out.startsLine? (moved r.edits d.start) = some true ∧
      out.lineIndent? (moved r.edits d.start) = some d.indent := by
  obtain ⟨init, d', s', back, rest', h, hdoc', hstart, hout, hmoved⟩ :=
    r.exists_insertion hrec hd hdoc
  have hrec' := hrec d' (r.mem_decls h)
  have hall := (hrec d hd).isIndent_indent
  have hline : lastLine (outFront init (s'.gap ++ s'.new)) = d.indent := by
    rw [outFront_append, r.lastLine_inserted hrec' h hdoc', hrec'.indent_eq (hrec d hd) hstart]
  rw [hmoved, hout, startsLine?_append, lineIndent?_append, hline, hall,
    List.takeWhile_eq_self_iff.2 (List.all_eq_true.1 hall)]
  exact ⟨rfl, rfl⟩

/-! ## Where a comment stands -/

/-- The result in front of the new comment of a declaration. -/
def commentFront (before : List (Declaration × Stretch)) (d : Declaration) (s : Stretch) : Text :=
  outFront before (s.gap ++ lead d)

theorem exists_comment (h : r.pieces = before ++ (d, s) :: after) :
    ∃ tags rest, Synthesis.synthesize d (oldTags source d) = .ok tags ∧
      out = commentFront before d s ++ Comment.build tags d.indent ++ rest := by
  obtain ⟨tags, htags, hnew⟩ := r.exists_tags h
  obtain ⟨-, hout, -⟩ := r.cut h
  refine ⟨tags, trail d ++ Stretch.result (after.map Prod.snd) r.tail, htags, hout.trans ?_⟩
  rw [hnew, commentFront, outFront_append]
  simp

/-- In the source, only indentation stands in front of a comment that brings no line along. -/
theorem sourceFront_startsLine (hrec : Recorded source d) (h : r.pieces = before ++ (d, s) :: after)
    (hlead : d.inline = true → d.doc.isSome) :
    (lastLine (sourceFront before s.gap)).all isIndent = true := by
  obtain ⟨hsource, -, -⟩ := r.cut h
  have hline := startsLine?_append (sourceFront before s.gap)
    (s.old ++ Stretch.source (after.map Prod.snd) r.tail)
  rw [← List.append_assoc, ← hsource] at hline
  cases hdoc : d.doc with
  | none =>
    have hinline : d.inline = false := by simpa [hdoc] using hlead
    rw [(r.piece_of_none h hdoc).1, hrec.startsLine, hinline] at hline
    exact (Option.some.inj hline).symm
  | some doc =>
    rw [(r.piece_of_some h hdoc).1, hrec.docStartsLine doc hdoc] at hline
    exact (Option.some.inj hline).symm

/-- Every new comment begins a line. -/
theorem commentFront_startsLine (hrec : ∀ d ∈ decls, Recorded source d)
    (hclosed : ∀ d ∈ decls, ∀ doc, d.doc = some doc → "*/".toList <:+ source.sliceOf doc)
    (h : r.pieces = before ++ (d, s) :: after) :
    (lastLine (commentFront before d s)).all isIndent = true := by
  have hd := r.mem_decls h
  rcases lead_cases d with hlead | ⟨hlead, hdoc⟩
  · rw [commentFront, outFront_append, hlead,
      lastLine_append_newline _ (newline_not_mem_of_isIndent (hrec d hd).isIndent_indent)]
    exact (hrec d hd).isIndent_indent
  · have hsource := r.sourceFront_startsLine (hrec d hd) h hdoc
    rw [commentFront, hlead, List.append_nil, r.lastLine_outFront hrec hclosed h hsource]
    exact hsource

end Rewriting

/-! ## Outlines -/

/-- In the result of annotating a text along an outline whose nodes fit the text and whose
    documentation comments are closed, every new comment begins a line.  So does every declaration
    that had no comment, and its line is indented as in the source. -/
theorem annotateOutline_startsLine (source : Text) (outline : Outline) (out : Text)
    (hfits : ∀ t : Outline, t ∈ outline.preorder → t.span.Fits source)
    (hclosed : ∀ t : Outline, t ∈ outline.preorder → t.isDocComment source = true →
      "*/".toList <:+ t.text source)
    (h : annotateOutline source outline = .ok out) :
    ∃ r : Rewriting source (declarations source outline) out,
      (∀ before d s after, r.pieces = before ++ (d, s) :: after → ∃ tags rest,
        Synthesis.synthesize d (oldTags source d) = .ok tags ∧
          out = Rewriting.commentFront before d s ++ Comment.build tags d.indent ++ rest ∧
          out.startsLine? (size (Rewriting.commentFront before d s)) = some true) ∧
      ∀ d ∈ declarations source outline, d.doc = none →
        out.startsLine? (moved r.edits d.start) = some true ∧
          out.lineIndent? (moved r.edits d.start) = some d.indent := by
  have hrec : ∀ d ∈ declarations source outline, Recorded source d :=
    fun d hd => recorded_of_mem_declarations hfits hd
  have hdocs : ∀ d ∈ declarations source outline, ∀ doc, d.doc = some doc →
      "*/".toList <:+ source.sliceOf doc := by
    intro d hd doc hdoc
    obtain ⟨t, ht, rfl, hisDoc, -⟩ := exists_doc_of_mem_declarations hd hdoc
    exact hclosed t ht hisDoc
  obtain ⟨r⟩ := Rewriting.of_annotateDeclarations (fun d hd => (hrec d hd).spanFits) h
  refine ⟨r, fun before d s after hpieces => ?_, fun d hd hdoc => r.moved_of_none hrec hd hdoc⟩
  obtain ⟨tags, rest, htags, hout⟩ := r.exists_comment hpieces
  have hstart := r.commentFront_startsLine hrec hdocs hpieces
  refine ⟨tags, rest, htags, hout, ?_⟩
  rw [hout, List.append_assoc, startsLine?_append, hstart]

/-! ## Two fields on one line -/

/-- A class with a comment, and on its line two fields without one. -/
def pairSource : Text :=
  "/** Pair. */\nclass Pair \x7b a: T; b: T; \x7d".toList

/-- A field of the class. -/
def pairField (start : Nat) : Outline :=
  ⟨⟨.fieldDef, none⟩, ⟨start, start + 4⟩, [
    ⟨⟨.identifier, some .name⟩, ⟨start, start + 1⟩, []⟩,
    ⟨⟨.typeAscription, some .type⟩, ⟨start + 1, start + 4⟩, [
      ⟨⟨.typeIdent, none⟩, ⟨start + 3, start + 4⟩, []⟩]⟩]⟩

/-- The outline of `pairSource`. -/
def pairOutline : Outline :=
  ⟨⟨.program, none⟩, ⟨0, 39⟩, [
    ⟨⟨.comment, none⟩, ⟨0, 12⟩, []⟩,
    ⟨⟨.classDecl, none⟩, ⟨13, 39⟩, [
      ⟨⟨.typeIdent, some .name⟩, ⟨19, 23⟩, []⟩,
      ⟨⟨.classBody, none⟩, ⟨24, 39⟩, [pairField 26, pairField 32]⟩]⟩]⟩

def pairDeclarations : List Declaration := [
  ⟨"Pair".toList, .classLike, 2, 13, [], false, some ⟨0, 12⟩⟩,
  ⟨"a".toList, .field (some (.named "T".toList)), 2, 26, [], true, none⟩,
  ⟨"b".toList, .field (some (.named "T".toList)), 2, 32, [], true, none⟩]

/-- The comment of a field, on lines of its own. -/
def pairFieldText : Text :=
  "\n/**\n * @lineNumber 2\n * @type \x7bT\x7d\n */\n".toList

/-- The edits of the declarations. -/
def pairEdits : List Edit := [
  ⟨⟨0, 12⟩, "/**\n * Pair.\n * @lineNumber 2\n */".toList⟩,
  Edit.insert 26 pairFieldText, Edit.insert 32 pairFieldText]

def pairResult : Text :=
  "/**\n * Pair.\n * @lineNumber 2\n */\nclass Pair \x7b ".toList ++ pairFieldText ++
    "a: T; ".toList ++ pairFieldText ++ "b: T; \x7d".toList

theorem annotateOutline_pair : annotateOutline pairSource pairOutline = .ok pairResult := by
  have hdecls : declarations pairSource pairOutline = pairDeclarations := by decide +kernel
  have hlastFirst : lastFirst pairDeclarations = pairDeclarations.reverse := by
    simp [lastFirst, pairDeclarations, List.mergeSort]
  have hcomments : commentEdits pairSource pairDeclarations.reverse = .ok pairEdits.reverse := by
    decide +kernel
  have hsort : pairEdits.reverse.mergeSort Edit.le = pairEdits := by
    simp [pairEdits, List.mergeSort, Edit.le, Edit.insert]
  have happly : Edit.apply pairSource pairEdits.reverse = .ok pairResult := by
    rw [Edit.apply, hsort]
    decide +kernel
  rw [annotateOutline, hdecls, annotateDeclarations, hlastFirst, hcomments]
  simp only [happly]

theorem annotateOutline_startsLine_pair :
    (∀ t : Outline, t ∈ pairOutline.preorder → t.span.Fits pairSource) ∧
      (∀ t : Outline, t ∈ pairOutline.preorder → t.isDocComment pairSource = true →
        "*/".toList <:+ t.text pairSource) ∧
      ∃ r : Rewriting pairSource (declarations pairSource pairOutline) pairResult,
        ∀ d ∈ declarations pairSource pairOutline, d.doc = none →
          pairResult.startsLine? (moved r.edits d.start) = some true ∧
            pairResult.lineIndent? (moved r.edits d.start) = some d.indent := by
  have hfits : ∀ t : Outline, t ∈ pairOutline.preorder → t.span.Fits pairSource := by
    decide +kernel
  have hclosed : ∀ t : Outline, t ∈ pairOutline.preorder → t.isDocComment pairSource = true →
      "*/".toList <:+ t.text pairSource := by
    decide +kernel
  obtain ⟨r, -, hdecls⟩ :=
    annotateOutline_startsLine pairSource pairOutline pairResult hfits hclosed annotateOutline_pair
  exact ⟨hfits, hclosed, r, hdecls⟩

end TypedDocs.Annotate
