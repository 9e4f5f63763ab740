/-
  One pass after another.

  A declaration is annotated again and again: each pass writes the tags of the
  pass before it as a comment, reads the comment and synthesizes anew, for a
  declaration that may have moved to another line and another indentation.
  Once the tags of a pass are read back, every later pass keeps them and only
  renews the line number, which then stays at the end.

  Two facts carry the induction over the passes.  Synthesis leaves tags
  settled, so a later one adds and types nothing.  And the tags that synthesis
  adds take one line each, so the line number can move behind them without
  getting into a fence.
-/

import TypedDocs.Proofs.Synthesis.ReadBack
import TypedDocs.Proofs.Synthesis.Settled

namespace TypedDocs.Comment

open Text

/-! ## Tags that are read back -/

/-- Tags that the comment format can hold. -/
structure ReadsBack (tags : List Tag) : Prop where
  names : ∀ tag ∈ tags, IsTagName tag.name
  values : ∀ tag ∈ tags, Tidy tag.value
  head : tags.head? ≠ some ⟨Tag.descName, []⟩
  legible : Legible false (writtenLines tags)

instance (tags : List Tag) : Decidable (ReadsBack tags) :=
  decidable_of_iff ((∀ tag ∈ tags, IsTagName tag.name) ∧ (∀ tag ∈ tags, Tidy tag.value) ∧
      tags.head? ≠ some ⟨Tag.descName, []⟩ ∧ Legible false (writtenLines tags))
    ⟨fun h => ⟨h.1, h.2.1, h.2.2.1, h.2.2.2⟩, fun h => ⟨h.names, h.values, h.head, h.legible⟩⟩

theorem ReadsBack.parse_build {tags : List Tag} (h : ReadsBack tags) {indent : Text}
    (hindent : indent.all isIndent = true) : parse (build tags indent) = tags := by
  by_cases hne : tags = []
  · rw [hne, parse_build_nil]
  · have hform : ∀ tag ∈ tags, IsTagName tag.name ∧ Tidy tag.value :=
      fun tag htag => ⟨h.names tag htag, h.values tag htag⟩
    rw [Comment.parse_build hne hindent hform]
    exact readTags_of_legible hne hform h.head h.legible

/-- Tags of one line that are no descriptions are read back behind other tags if these are read
    back and leave no fence open; in which order they stand does not matter. -/
theorem readsBack_append_iff {tags rest : List Tag} (hne : rest ≠ [])
    (hnames : ∀ tag ∈ rest, tag.name ≠ Tag.descName) (hlines : ∀ tag ∈ rest, '\n' ∉ tag.value) :
    ReadsBack (tags ++ rest) ↔ (∀ tag ∈ tags ++ rest, IsTagName tag.name ∧ Tidy tag.value) ∧
      tags.head? ≠ some ⟨Tag.descName, []⟩ ∧ Legible false (writtenLines tags) ∧
        fencedAfter false (writtenLines tags) = false := by
  obtain ⟨first, others, rfl⟩ := List.exists_cons_of_ne_nil hne
  have hfirst := hnames first (List.mem_cons_self ..)
  have hhead : (tags ++ first :: others).head? = some ⟨Tag.descName, []⟩ ↔
      tags.head? = some ⟨Tag.descName, []⟩ := by
    cases tags with
    | nil =>
      rw [List.nil_append, List.head?_cons, Option.some.injEq]
      exact ⟨fun h => absurd (by rw [h]) hfirst, fun h => by cases h⟩
    | cons tag tags => rfl
  have hlegible : Legible false (writtenLines (tags ++ first :: others)) ↔
      Legible false (writtenLines tags) ∧ fencedAfter false (writtenLines tags) = false := by
    rw [writtenLines_append _ hfirst, legible_append, legible_flatMap_written hne hlines]
  constructor
  · intro h
    exact ⟨fun tag htag => ⟨h.names tag htag, h.values tag htag⟩, mt hhead.2 h.head,
      hlegible.1 h.legible⟩
  · rintro ⟨hform, hsilent, hlines⟩
    exact ⟨fun tag htag => (hform tag htag).1, fun tag htag => (hform tag htag).2,
      mt hhead.1 hsilent, hlegible.2 hlines⟩

end TypedDocs.Comment

namespace TypedDocs.Synthesis

open Text Comment

/-! ## The line number moves to the end -/

/-- What synthesis adds takes one line and is no description. -/
theorem form_of_mem_added {kind : DeclarationKind} (hnames : ∀ name ∈ kind.names, '\n' ∉ name)
    {tags : List Tag} {tag : Tag} (h : tag ∈ added kind tags) :
    tag.name ≠ Tag.descName ∧ '\n' ∉ tag.value := by
  refine ⟨fun hname => ?_, newline_not_mem_of_written hnames (written_of_mem_added h)⟩
  have htyped := isTyped_of_mem_added h
  rw [hname] at htyped
  cases htyped

/-- Synthesized tags that are read back are read back with another line number, at the end. -/
theorem readsBack_numbered {decl : Declaration} {tags r : List Tag}
    (hnames : ∀ name ∈ decl.kind.names, '\n' ∉ name) (h : synthesize decl tags = .ok r)
    (hread : ReadsBack r) (line : Nat) : ReadsBack (numbered line r) := by
  have hadded := fun tag (htag : tag ∈ added decl.kind (kept tags)) =>
    form_of_mem_added hnames htag
  have hline : ∀ n, ∀ tag ∈ [lineTag n], tag.name ≠ Tag.descName ∧ '\n' ∉ tag.value := by
    intro n tag htag
    rw [List.mem_singleton.1 htag]
    exact (form_lineTag n).2
  -- Before and after, tags of one line stand behind the same typed tags.
  have hold : ∀ tag ∈ [lineTag decl.line] ++ added decl.kind (kept tags),
      tag.name ≠ Tag.descName ∧ '\n' ∉ tag.value :=
    List.forall_mem_append.2 ⟨hline decl.line, hadded⟩
  have hnew : ∀ tag ∈ added decl.kind (kept tags) ++ [lineTag line],
      tag.name ≠ Tag.descName ∧ '\n' ∉ tag.value :=
    List.forall_mem_append.2 ⟨hadded, hline line⟩
  have hr : r = retype decl.kind (kept tags) ++
      ([lineTag decl.line] ++ added decl.kind (kept tags)) := synthesize_eq_of_ok h
  rw [hr, readsBack_append_iff (by simp) (fun t ht => (hold t ht).1) fun t ht => (hold t ht).2,
    ← hr] at hread
  rw [numbered_eq, kept_of_synthesize h, List.append_assoc,
    readsBack_append_iff (by simp) (fun t ht => (hnew t ht).1) fun t ht => (hnew t ht).2]
  refine ⟨?_, hread.2⟩
  rw [← List.append_assoc, ← kept_of_synthesize h, List.forall_mem_append]
  refine ⟨fun tag htag => hread.1 tag (List.mem_of_mem_filter htag), fun tag htag => ?_⟩
  rw [List.mem_singleton.1 htag]
  exact (form_lineTag line).1

/-! ## Passes -/

/-- What can change between two passes: the indentation of the comment that is read, and the line
    of the declaration. -/
structure Pass where
  indent : Text
  line : Nat
  deriving DecidableEq, Repr

/-- One more pass over a declaration: the tags are written, read and synthesized anew. -/
def pass (decl : Declaration) (tags : List Tag) (p : Pass) : Except TagMismatch (List Tag) :=
  synthesize { decl with line := p.line } (parse (build tags p.indent))

/-- A pass over settled tags that are read back renews the line number. -/
theorem pass_of_settled {decl : Declaration} {tags : List Tag} (hread : ReadsBack tags)
    (hsettled : Settled decl.kind (kept tags)) {p : Pass}
    (hindent : p.indent.all isIndent = true) : pass decl tags p = .ok (numbered p.line tags) := by
  unfold pass
  rw [hread.parse_build hindent]
  exact synthesize_of_settled hsettled

/-- Any number of passes over settled tags succeeds; what they leave is read back and has the same
    tags but for the line number. -/
theorem passes_of_settled {decl : Declaration} {tags : List Tag} (hread : ReadsBack tags)
    (hnumbered : ∀ line, ReadsBack (numbered line tags)) (hsettled : Settled decl.kind (kept tags))
    (ps : List Pass) (hindents : ∀ p ∈ ps, p.indent.all isIndent = true) :
    ∃ r, ps.foldlM (pass decl) tags = .ok r ∧ ReadsBack r ∧ kept r = kept tags := by
  induction ps generalizing tags with
  | nil => exact ⟨tags, rfl, hread, rfl⟩
  | cons p ps ih =>
    obtain ⟨hindent, hindents⟩ := List.forall_mem_cons.1 hindents
    have hagain : ∀ line, ReadsBack (numbered line (numbered p.line tags)) := by
      intro line
      rw [numbered_numbered]
      exact hnumbered line
    obtain ⟨r, hr, hback, hkept⟩ := ih (hnumbered p.line) hagain (by rwa [kept_numbered]) hindents
    refine ⟨r, ?_, hback, hkept.trans (kept_numbered ..)⟩
    rw [List.foldlM_cons, pass_of_settled hread hsettled hindent]
    exact hr

/-- If the tags of a first pass are read back, every further pass succeeds and keeps them, with its
    own line number at the end. -/
theorem passes_eq_numbered (decl : Declaration) (comment : Text) (tags : List Tag)
    (hnames : ∀ name ∈ decl.kind.names, '\n' ∉ name)
    (hfirst : synthesize decl (parse comment) = .ok tags) (hread : ReadsBack tags)
    (ps : List Pass) (last : Pass) (hindents : ∀ p ∈ ps ++ [last], p.indent.all isIndent = true) :
    (ps ++ [last]).foldlM (pass decl) tags = .ok (numbered last.line tags) := by
  have hsettled := settled_kept_of_synthesize hfirst
  obtain ⟨hps, hlast⟩ := List.forall_mem_append.1 hindents
  obtain ⟨r, hr, hback, hkept⟩ := passes_of_settled hread
    (readsBack_numbered hnames hfirst hread) hsettled ps hps
  have hend : pass decl r last = .ok (numbered last.line tags) := by
    rw [pass_of_settled hback (by rwa [hkept]) (hlast last (List.mem_singleton.2 rfl)),
      numbered_eq, hkept, numbered_eq]
  rw [List.foldlM_append, hr]
  exact (bind_pure _).trans hend

def scaleDeclaration : Declaration where
  name := "scale".toList
  kind := .method ⟨[⟨"by".toList, .number⟩, ⟨"origin".toList, .named "Point".toList⟩],
    some (.named "Shape".toList)⟩
  line := 4
  start := 90
  indent := "  ".toList
  inline := false
  doc := none

def scaleComment : Text :=
  ("/**\n * Scales.\n * ```\n * @see scale\n * ```\n * @param factor\n * @lineNumber 2\n" ++
    " * @param {Point} centre\n */").toList

def scaleTags : List Tag :=
  [⟨Tag.descName, "Scales.\n```\n@see scale\n```".toList⟩,
    ⟨Tag.paramName, "{number} factor".toList⟩, ⟨Tag.paramName, "{Point} centre".toList⟩,
    ⟨Tag.lineNumberName, "4".toList⟩, ⟨Tag.returnName, "{Shape}".toList⟩]

/-- Three passes over a method that moves down the file and is indented anew. -/
theorem passes_eq_numbered_scale :
    synthesize scaleDeclaration (parse scaleComment) = .ok scaleTags ∧
      [⟨"  ".toList, 9⟩, ⟨"\t".toList, 9⟩, ⟨[], 12⟩].foldlM (pass scaleDeclaration) scaleTags =
        .ok (numbered 12 scaleTags) := by
  have hfirst : synthesize scaleDeclaration (parse scaleComment) = .ok scaleTags := by
    decide +kernel
  exact ⟨hfirst, passes_eq_numbered scaleDeclaration scaleComment scaleTags (by decide) hfirst
    (by decide +kernel) [⟨"  ".toList, 9⟩, ⟨"\t".toList, 9⟩] ⟨[], 12⟩ (by decide)⟩

end TypedDocs.Synthesis
