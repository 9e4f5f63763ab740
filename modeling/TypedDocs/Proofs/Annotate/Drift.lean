/-
  Indentation from pass to pass.

  A declaration keeps its indentation if a line ends between its documentation
  and itself, in the source or with a comment that is inserted there.  If none
  does, the declaration stands on the last line of the new comment, and the
  blank in front of the closing mark is taken for indentation: there is one more
  with every pass (`annotateOutline_lineIndent_iff`).
-/

import TypedDocs.Proofs.Annotate.LineStart
import TypedDocs.Proofs.Comment.Layout
import TypedDocs.Proofs.Survey.Between
import TypedDocs.Proofs.Synthesis.Result

namespace TypedDocs

open Text Edit Survey

/-! ## The last line of a comment -/

namespace Comment

/-- The closing mark stands on a line of its own. -/
theorem exists_build_eq {tags : List Tag} (h : tags ≠ []) (indent : Text) :
    ∃ body, build tags indent = body ++ '\n' :: (indent ++ " */".toList) := by
  rw [build_eq h]
  rcases List.eq_nil_or_concat' ((contentLines tags).map (bordered indent)) with hnil | ⟨ls, l, hls⟩
  · rw [hnil]
    exact ⟨"/**".toList, rfl⟩
  · rw [hls, unlines_append (by simp) (by simp), unlines_singleton]
    exact ⟨"/**".toList ++ '\n' :: unlines (ls ++ [l]), by simp⟩

/-- On that line, the indentation of the comment seems to be one blank longer. -/
theorem takeWhile_lastLine_build {tags : List Tag} (h : tags ≠ []) {indent : Text}
    (hindent : indent.all isIndent = true) (front gap : Text) (hgap : '\n' ∉ gap) :
    (lastLine (front ++ build tags indent ++ gap)).takeWhile isIndent = indent ++ [' '] := by
  obtain ⟨body, hbody⟩ := exists_build_eq h indent
  have hline : '\n' ∉ indent ++ " */".toList := by
    rw [List.mem_append, not_or]
    exact ⟨newline_not_mem_of_isIndent hindent, by decide⟩
  rw [lastLine_append_of_not_mem _ hgap, hbody, ← List.append_assoc,
    lastLine_append_newline _ hline, List.append_assoc,
    List.takeWhile_append_of_pos (List.all_eq_true.1 hindent)]
  rfl

end Comment

namespace Annotate

/-- A line ends between the documentation of a declaration and the declaration: in the text, or
    with a new comment that is inserted in front of a declaration with the same start. -/
def Parted (source : Text) (decls : List Declaration) (d : Declaration) (doc : Span) : Prop :=
  '\n' ∈ source.sliceOf ⟨doc.stop, d.start⟩ ∨ ∃ d' ∈ decls, d'.doc = none ∧ d'.start = d.start

instance (source : Text) (decls : List Declaration) (d : Declaration) (doc : Span) :
    Decidable (Parted source decls d doc) :=
  inferInstanceAs (Decidable (_ ∨ _))

namespace Rewriting

variable {source out : Text} {decls : List Declaration} (r : Rewriting source decls out)
  {d : Declaration} {doc : Span}

/-- No comment span reaches across the start of a declaration if none is between it and its
    documentation. -/
theorem clear_of_some (hd : d ∈ decls) (hdoc : d.doc = some doc) (hle : doc.stop ≤ d.start)
    (hrange : doc.start ≤ doc.stop)
    (hclear : ∀ d' ∈ decls, doc.stop ≤ d'.commentSpan.start → d.start ≤ d'.commentSpan.start) :
    ∀ p ∈ r.pieces, p.1.commentSpan.stop ≤ d.start ∨ d.start ≤ p.1.commentSpan.start := by
  intro p hp
  have hmem : p.1 ∈ decls := r.perm.mem_iff.1 (List.mem_map_of_mem hp)
  have hapart := r.eq_or_apart hd p hp
  rw [Span.Apart, Declaration.commentSpan_of_some hdoc] at hapart
  rcases hapart with heq | hbefore | hafter
  · rw [heq, Declaration.commentSpan_of_some hdoc]
    exact Or.inl hle
  · left
    omega
  · exact Or.inr (hclear p.1 hmem hafter)

/-- A declaration with documentation, in source and result: between the two stands the same text,
    if no comment is put there. -/
theorem exists_gap (hrec : ∀ d ∈ decls, Recorded source d) (hd : d ∈ decls)
    (hdoc : d.doc = some doc) (hle : doc.stop ≤ d.start)
    (hclear : ∀ d' ∈ decls, doc.stop ≤ d'.commentSpan.start → d.start ≤ d'.commentSpan.start)
    (hnone : ∀ d' ∈ decls, d'.doc = none → d'.start ≠ d.start) :
    ∃ tags front front' gap rest rest', Synthesis.synthesize d (oldTags source d) = .ok tags ∧
      source.sliceOf ⟨doc.stop, d.start⟩ = gap ∧
      source = front ++ gap ++ rest ∧ size (front ++ gap) = d.start ∧
      out = front' ++ Comment.build tags d.indent ++ gap ++ rest' ∧
      moved r.edits d.start = size (front' ++ Comment.build tags d.indent ++ gap) := by
  have hspan := Declaration.commentSpan_of_some hdoc
  have hrange := (hrec d hd).doc_start_lt_stop hdoc
  obtain ⟨before, after, gap, rest, rest', h, hbefore, hafter, hsource, hout, hsize, hmoved⟩ :=
    r.exists_moved (hrec d hd).boundary (r.clear_of_some hd hdoc hle (Nat.le_of_lt hrange) hclear)
  -- Behind the documentation there is no other piece in front of the declaration.
  obtain ⟨init, d', s', rfl, hlast⟩ := r.exists_last h hafter hd (hspan ▸ hle)
  rw [List.append_assoc] at h
  have hd' := r.mem_decls h
  obtain rfl : d' = d := by
    refine hlast.resolve_right fun hlater => ?_
    have hd'range := (hrec d' hd').spanFits.1
    have hstop : d'.commentSpan.stop ≤ d.start := hbefore (d', s') (by simp)
    have hstart := hclear d' hd' (hspan ▸ hlater)
    have hdoc' := (hrec d' hd').doc_eq_none (by omega)
    rw [Declaration.commentSpan_of_none hdoc'] at hstart hstop
    exact hnone d' hd' hdoc' (Nat.le_antisymm hstop hstart)
  obtain ⟨tags, htags, hnew⟩ := r.exists_tags h
  obtain ⟨hlead, htrail⟩ := placed_of_some hdoc
  rw [hlead, htrail, List.nil_append, List.append_nil] at hnew
  have hstop : size (sourceFront init (s'.gap ++ s'.old)) = doc.stop := by
    rw [sourceFront_append, size_append, ← hspan, r.commentSpan_eq h]
  rw [sourceFront_concat] at hsource hsize
  rw [outFront_concat, hnew, outFront_append] at hout hmoved
  dsimp only at hsource hsize
  have hslice : slice? source doc.stop d'.start = some gap := by
    rw [size_append] at hsize
    exact slice?_eq_some.2 ⟨_, rest, hsource, hstop, by omega⟩
  refine ⟨tags, sourceFront init (s'.gap ++ s'.old), outFront init s'.gap, gap, rest, rest', htags,
    ?_, hsource, hsize, hout, hmoved⟩
  rw [sliceOf, hslice, Option.getD_some]

/-- A declaration with documentation keeps its indentation if the two are parted, and is indented
    by one blank more if they are not. -/
theorem lineIndent_of_some (hrec : ∀ d ∈ decls, Recorded source d) (hd : d ∈ decls)
    (hdoc : d.doc = some doc) (hle : doc.stop ≤ d.start)
    (hclear : ∀ d' ∈ decls, doc.stop ≤ d'.commentSpan.start → d.start ≤ d'.commentSpan.start) :
    out.lineIndent? (moved r.edits d.start) =
      some (if Parted source decls d doc then d.indent else d.indent ++ [' ']) := by
  by_cases hnone : ∃ d' ∈ decls, d'.doc = none ∧ d'.start = d.start
  · have hparted : Parted source decls d doc := Or.inr hnone
    rw [if_pos hparted]
    obtain ⟨d', hd', hdoc', hstart⟩ := hnone
    rw [← hstart, (r.moved_of_none hrec hd' hdoc').2, (hrec d' hd').indent_eq (hrec d hd) hstart]
  · obtain ⟨tags, front, front', gap, rest, rest', htags, hgap, hsource, hsize, hout, hmoved⟩ :=
      r.exists_gap hrec hd hdoc hle hclear fun d' hd' hdoc' hstart => hnone ⟨d', hd', hdoc', hstart⟩
    have hparted : Parted source decls d doc ↔ '\n' ∈ gap := by
      rw [Parted, hgap, or_iff_left hnone]
    have hafter := lineIndent?_append (front' ++ Comment.build tags d.indent ++ gap) rest'
    rw [← hout, ← hmoved] at hafter
    rw [hafter]
    by_cases hnewline : '\n' ∈ gap
    · -- The line in front of the declaration begins behind the documentation, as in the source.
      have hbefore := lineIndent?_append (front ++ gap) rest
      rw [← hsource, hsize, (hrec d hd).indent, lastLine_append_of_mem _ hnewline] at hbefore
      rw [if_pos (hparted.2 hnewline), lastLine_append_of_mem _ hnewline]
      exact hbefore.symm
    · rw [if_neg (mt hparted.1 hnewline), Comment.takeWhile_lastLine_build
        (Synthesis.synthesize_ne_nil htags) (hrec d hd).isIndent_indent _ _ hnewline]

end Rewriting

/-- In the result of annotating a text along a well-formed outline, a declaration that had
    documentation keeps its indentation exactly if the two are parted.  If they are not, its line is
    indented by one blank more. -/
theorem annotateOutline_lineIndent_iff (source : Text) (outline : Outline) (out : Text)
    (hwf : WellFormed source outline) (h : annotateOutline source outline = .ok out) :
    ∃ r : Rewriting source (declarations source outline) out,
      ∀ d ∈ declarations source outline, ∀ doc, d.doc = some doc →
        (out.lineIndent? (moved r.edits d.start) = some d.indent ↔
          Parted source (declarations source outline) d doc) ∧
        (¬ Parted source (declarations source outline) d doc →
          out.lineIndent? (moved r.edits d.start) = some (d.indent ++ [' '])) := by
  have hrec : ∀ d ∈ declarations source outline, Recorded source d :=
    fun d hd => recorded_of_mem_declarations hwf.fits hd
  obtain ⟨r⟩ := Rewriting.of_annotateDeclarations (fun d hd => (hrec d hd).spanFits) h
  refine ⟨r, fun d hd doc hdoc => ?_⟩
  rw [r.lineIndent_of_some hrec hd hdoc (doc_stop_le_start hwf hd hdoc)
    fun d' hd' => clear_between hwf hd hdoc hd']
  split
  case isTrue hparted => exact ⟨iff_of_true rfl hparted, fun hnot => absurd hparted hnot⟩
  case isFalse hnot => exact ⟨iff_of_false (by simp) hnot, fun _ => rfl⟩

/-! ## A class on the line of its comment -/

/-- Two classes with documentation, the second on the line of its comment. -/
def seamSource : Text :=
  "/** A. */\nclass A \x7b\x7d\n/** B. */class B \x7b\x7d".toList

/-- A class whose node starts at an offset. -/
def seamClass (start : Nat) : Outline :=
  ⟨⟨.classDecl, none⟩, ⟨start, start + 10⟩, [
    ⟨⟨.typeIdent, some .name⟩, ⟨start + 6, start + 7⟩, []⟩,
    ⟨⟨.classBody, none⟩, ⟨start + 8, start + 10⟩, []⟩]⟩

/-- The outline of `seamSource`. -/
def seamOutline : Outline :=
  ⟨⟨.program, none⟩, ⟨0, 40⟩, [
    ⟨⟨.comment, none⟩, ⟨0, 9⟩, []⟩, seamClass 10,
    ⟨⟨.comment, none⟩, ⟨21, 30⟩, []⟩, seamClass 30]⟩

def seamParted : Declaration :=
  ⟨"A".toList, .classLike, 2, 10, [], false, some ⟨0, 9⟩⟩

def seamJoined : Declaration :=
  ⟨"B".toList, .classLike, 3, 30, [], true, some ⟨21, 30⟩⟩

/-- The edits of the classes. -/
def seamEdits : List Edit := [
  ⟨⟨0, 9⟩, "/**\n * A.\n * @lineNumber 2\n */".toList⟩,
  ⟨⟨21, 30⟩, "/**\n * B.\n * @lineNumber 3\n */".toList⟩]

def seamResult : Text :=
  ("/**\n * A.\n * @lineNumber 2\n */\nclass A \x7b\x7d\n" ++
    "/**\n * B.\n * @lineNumber 3\n */class B \x7b\x7d").toList

theorem wellFormed_seam : WellFormed seamSource seamOutline where
  fits := by decide +kernel
  nested := by decide +kernel
  ordered := by decide +kernel
  leaves := by decide +kernel
  wrappers := by decide +kernel

theorem declarations_seam : declarations seamSource seamOutline = [seamParted, seamJoined] := by
  decide +kernel

theorem annotateOutline_seam : annotateOutline seamSource seamOutline = .ok seamResult := by
  have hlastFirst : lastFirst [seamParted, seamJoined] = [seamJoined, seamParted] := by
    simp [lastFirst, seamParted, seamJoined, List.mergeSort]
  have hcomments : commentEdits seamSource [seamJoined, seamParted] = .ok seamEdits.reverse := by
    decide +kernel
  have hsort : seamEdits.reverse.mergeSort Edit.le = seamEdits := by
    simp [seamEdits, List.mergeSort, Edit.le]
  have happly : Edit.apply seamSource seamEdits.reverse = .ok seamResult := by
    rw [Edit.apply, hsort]
    decide +kernel
  rw [annotateOutline, declarations_seam, annotateDeclarations, hlastFirst, hcomments]
  simp only [happly]

theorem annotateOutline_lineIndent_iff_seam :
    WellFormed seamSource seamOutline ∧ annotateOutline seamSource seamOutline = .ok seamResult ∧
      ∃ r : Rewriting seamSource (declarations seamSource seamOutline) seamResult,
        seamResult.lineIndent? (moved r.edits seamParted.start) = some [] ∧
          seamResult.lineIndent? (moved r.edits seamJoined.start) = some [' '] := by
  obtain ⟨r, hr⟩ := annotateOutline_lineIndent_iff seamSource seamOutline seamResult
    wellFormed_seam annotateOutline_seam
  have hparted := (hr seamParted (by rw [declarations_seam]; simp) ⟨0, 9⟩ rfl).1.2
    (by rw [declarations_seam]; decide +kernel)
  have hjoined := (hr seamJoined (by rw [declarations_seam]; simp) ⟨21, 30⟩ rfl).2
    (by rw [declarations_seam]; decide +kernel)
  exact ⟨wellFormed_seam, annotateOutline_seam, r, hparted, hjoined⟩

/-- The rewriting of `seamSource`. -/
def seamRewriting : Rewriting seamSource (declarations seamSource seamOutline) seamResult where
  pieces := [(seamParted, ⟨[], "/** A. */".toList, "/**\n * A.\n * @lineNumber 2\n */".toList⟩),
    (seamJoined, ⟨"\nclass A \x7b\x7d\n".toList, "/** B. */".toList,
      "/**\n * B.\n * @lineNumber 3\n */".toList⟩)]
  tail := "class B \x7b\x7d".toList
  perm := by
    rw [declarations_seam]
    exact List.Perm.refl _
  source_eq := by decide +kernel
  out_eq := by decide +kernel
  edits_eq := by decide +kernel

/-- A class on the line of its comment is indented by one blank more than before. -/
theorem not_forall_lineIndent :
    ¬ ∀ (source : Text) (outline : Outline) (out : Text), WellFormed source outline →
      annotateOutline source outline = .ok out →
        ∀ r : Rewriting source (declarations source outline) out,
          ∀ d ∈ declarations source outline, ∀ doc, d.doc = some doc →
            out.lineIndent? (moved r.edits d.start) = some d.indent := by
  intro h
  have hkept := h seamSource seamOutline seamResult wellFormed_seam annotateOutline_seam
    seamRewriting seamJoined (by rw [declarations_seam]; simp) ⟨21, 30⟩ rfl
  revert hkept
  decide +kernel

end Annotate

end TypedDocs
