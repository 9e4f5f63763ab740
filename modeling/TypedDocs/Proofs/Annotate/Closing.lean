/-
  An emitted comment closes once.

  The tags that synthesis writes are made of old tags, of names and types of
  the declaration and of digits.  If none of these holds a `*/`, the new comment
  holds it at its end only, and what an edit puts around the comment is white
  space.
-/

import TypedDocs.Proofs.Annotate.Frame
import TypedDocs.Proofs.Comment.Closing
import TypedDocs.Proofs.Synthesis.Result

namespace TypedDocs.Annotate

open Text Comment Synthesis

/-! ## Synthesized tags -/

/-- Braces are no part of the mark. -/
theorem noClose_braced {kind : DeclarationKind} (h : ∀ name ∈ kind.names, NoClose name)
    {ty : TypeName} (hty : ty ∈ kind.types) : NoClose ty.braced := by
  have htext : NoClose ty.text := DeclarationKind.text_of_mem_types (P := NoClose) (by decide) h hty
  have hbrace : NoClose (ty.text ++ ['}']) :=
    (noClose_append_cons (by decide) (by decide)).2 ⟨htext, by decide⟩
  exact hbrace.cons (by decide)

theorem noClose_prefixType {tag : Tag} {ty : TypeName} (htag : NoClose tag.value)
    (hty : NoClose ty.braced) : NoClose (tag.prefixType ty).value := by
  unfold Tag.prefixType
  dsimp only
  split
  · exact hty
  · exact (noClose_append_cons (by decide) (by decide)).2 ⟨hty, htag⟩

theorem noClose_lineTag (line : Nat) : NoClose (lineTag line).value := by
  refine noClose_of_not_mem fun hmem => ?_
  have hdigit := Nat.isDigit_of_mem_toDigits (by decide) (by decide) hmem
  cases hdigit

theorem noClose_of_mem_addedNames : ∀ name ∈ addedNames, NoClose name := by
  decide

theorem noClose_of_written {kind : DeclarationKind} (h : ∀ name ∈ kind.names, NoClose name)
    {tag : Tag} (htag : Written kind tag) : NoClose tag.name ∧ NoClose tag.value := by
  refine ⟨noClose_of_mem_addedNames _ htag.name_mem, ?_⟩
  obtain ⟨ty, hty, hvalue | ⟨name, hname, hvalue⟩⟩ := htag.value_eq
  · rw [hvalue]
    exact noClose_braced h hty
  · rw [hvalue, noClose_append_cons (by decide) (by decide)]
    exact ⟨noClose_braced h hty, h name hname⟩

/-- Synthesis brings no star and slash together. -/
theorem noClose_synthesize {decl : Declaration} {old new : List Tag}
    (hnames : ∀ name ∈ decl.kind.names, NoClose name)
    (hold : ∀ tag ∈ old, NoClose tag.name ∧ NoClose tag.value)
    (h : synthesize decl old = .ok new) :
    ∀ tag ∈ new, NoClose tag.name ∧ NoClose tag.value := by
  refine forall_mem_synthesize hold ?_ ?_ (fun _ => noClose_of_written hnames) h
  · rintro tag ⟨hname, hvalue⟩ ty hty
    exact ⟨hname, noClose_prefixType hvalue (noClose_braced hnames hty)⟩
  · exact ⟨noClose_of_mem_addedNames _ (List.mem_cons_self ..), noClose_lineTag decl.line⟩

/-! ## Edits -/

/-- The tags of a declaration's old comment hold no mark. -/
theorem noClose_oldTags {source : Text} {decl : Declaration}
    (hdoc : ∀ span, decl.doc = some span → IsDocBlock (source.sliceOf span)) :
    ∀ tag ∈ oldTags source decl, NoClose tag.name ∧ NoClose tag.value := by
  intro tag htag
  unfold oldTags at htag
  split at htag
  case h_1 span hspan => exact (hdoc span hspan).noClose_parse htag
  case h_2 => cases htag

/-- A comment is put between white space. -/
theorem placed_eq {decl : Declaration} (hindent : decl.indent.all isIndent = true) (block : Text) :
    ∃ lead trail, placed decl block = lead ++ block ++ trail ∧
      ∀ c ∈ lead ++ trail, isBlank c = true := by
  have hblank : ∀ c ∈ '\n' :: decl.indent, isBlank c = true := by
    intro c hc
    rcases List.mem_cons.1 hc with rfl | hc
    · decide
    · exact isBlank_of_isIndent (List.all_eq_true.1 hindent c hc)
  unfold placed
  split
  · exact ⟨[], [], by simp, by simp⟩
  · exact ⟨[], '\n' :: decl.indent, by simp, by simpa using hblank⟩
  · refine ⟨'\n' :: decl.indent, '\n' :: decl.indent, by simp, fun c hc => ?_⟩
    rcases List.mem_append.1 hc with hc | hc <;> exact hblank c hc

/-- The text of an edit is one documentation comment between white space, and the comment
    closes at its end only. -/
theorem commentEdit_closesOnce (source : Text) (decl : Declaration) (edit : Edit)
    (hindent : decl.indent.all isIndent = true)
    (hnames : ∀ name ∈ decl.kind.names, NoClose name)
    (hdoc : ∀ span, decl.doc = some span → IsDocBlock (source.sliceOf span))
    (h : commentEdit source decl = .ok edit) :
    ∃ lead block trail, edit.text = lead ++ block ++ trail ∧
      (∀ c ∈ lead ++ trail, isBlank c = true) ∧ IsDocBlock block ∧
      ∀ (text : Text) (node : Outline), node.kind = .comment → node.text text = block →
        node.isDocComment text = true := by
  obtain ⟨tags, hsynth, rfl⟩ := exists_tags_of_commentEdit h
  have htags := noClose_synthesize hnames (noClose_oldTags hdoc) hsynth
  have hblock := isDocBlock_build (synthesize_ne_nil hsynth) hindent htags
  obtain ⟨lead, trail, hplaced, hblank⟩ := placed_eq hindent (build tags decl.indent)
  refine ⟨lead, build tags decl.indent, trail, hplaced, hblank, hblock, ?_⟩
  intro text node hkind htext
  have hopens := List.isPrefixOf_iff_prefix.2 hblock.opens
  have hfilled := hblock.filled
  simp only [Outline.isDocComment, hkind, htext, hopens]
  simpa using hfilled

/-- A comment in which stars end lines and slashes begin them. -/
def starredSource : Text :=
  "/** /a *\n /b\n * @param * c/ *\n */g".toList

/-- A function whose parameter and types have stars and slashes in their names. -/
def starredDeclaration : Declaration where
  name := "g".toList
  kind := .function ⟨[⟨"/c".toList, .named "T*".toList⟩], some (.named "*".toList)⟩
  line := 4
  start := 33
  indent := "\t ".toList
  inline := false
  doc := some ⟨0, 33⟩

def starredEdit : Edit where
  span := ⟨0, 33⟩
  text := ("/**\n\t  * /a *\n\t  * /b\n\t  * @param \x7bT*\x7d * c/ *\n" ++
    "\t  * @lineNumber 4\n\t  * @return \x7b*\x7d\n\t  */").toList

theorem commentEdit_closesOnce_starred :
    commentEdit starredSource starredDeclaration = .ok starredEdit ∧
    ∃ lead block trail, starredEdit.text = lead ++ block ++ trail ∧
      (∀ c ∈ lead ++ trail, isBlank c = true) ∧ IsDocBlock block ∧
      ∀ (text : Text) (node : Outline), node.kind = .comment → node.text text = block →
        node.isDocComment text = true := by
  have hedit : commentEdit starredSource starredDeclaration = .ok starredEdit := by
    decide +kernel
  refine ⟨hedit, commentEdit_closesOnce starredSource starredDeclaration starredEdit (by decide)
    (by decide) ?_ hedit⟩
  rintro span ⟨⟩
  decide +kernel

end TypedDocs.Annotate
