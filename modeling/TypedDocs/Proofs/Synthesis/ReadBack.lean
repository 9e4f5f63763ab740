/-
  Reading synthesized tags back.

  Synthesis keeps the tags that were read and adds tags of one line behind
  them, so all of the result is read back if the kept tags are legible and
  leave no fence open.  This is not always so.  A fence that opens a value moves
  up to the line of the tag name, where it is not seen as a fence, and then the
  line that closed it opens one around everything that follows.  A tag that
  comes first only because a line number before it was dropped can be a
  description, whose name is not written.
-/

import TypedDocs.Proofs.Comment.Format
import TypedDocs.Proofs.Synthesis.Result

namespace TypedDocs.Comment

open Text

/-! ## Lines in the same roles -/

/-- Lines in the same role; the text of a line that opens a tag does not matter. -/
def WrittenLine.Alike (a b : WrittenLine) : Prop :=
  a = b ∨ (a.opens = true ∧ b.opens = true)

theorem WrittenLine.Alike.fits_iff {a b : WrittenLine} (h : a.Alike b) (fenced : Bool) :
    a.Fits fenced ↔ b.Fits fenced := by
  rcases h with rfl | ⟨ha, hb⟩
  · exact Iff.rfl
  · rw [Fits, Fits, if_pos ha, if_pos hb]

theorem WrittenLine.Alike.fencedAfter_eq {a b : WrittenLine} (h : a.Alike b) (fenced : Bool) :
    a.fencedAfter fenced = b.fencedAfter fenced := by
  rcases h with rfl | ⟨ha, hb⟩
  · rfl
  · rw [WrittenLine.fencedAfter, WrittenLine.fencedAfter, if_pos ha, if_pos hb]

theorem forall₂_alike_refl (ls : List WrittenLine) :
    List.Forall₂ WrittenLine.Alike ls ls :=
  List.forall₂_same.2 fun _ _ => Or.inl rfl

theorem legible_congr {a b : List WrittenLine} (h : List.Forall₂ WrittenLine.Alike a b)
    (fenced : Bool) : Legible fenced a ↔ Legible fenced b := by
  induction h generalizing fenced with
  | nil => exact Iff.rfl
  | cons hhead _ ih => rw [Legible, Legible, hhead.fits_iff, hhead.fencedAfter_eq, ih]

theorem fencedAfter_congr {a b : List WrittenLine} (h : List.Forall₂ WrittenLine.Alike a b)
    (fenced : Bool) : fencedAfter fenced a = fencedAfter fenced b := by
  induction h generalizing fenced with
  | nil => rfl
  | cons hhead _ ih =>
    unfold fencedAfter at ih ⊢
    rw [List.foldl_cons, List.foldl_cons, hhead.fencedAfter_eq, ih]

/-! ## Tags behind other tags -/

theorem writtenLines_append (tags : List Tag) {tag : Tag} (htag : tag.name ≠ Tag.descName)
    (rest : List Tag) :
    writtenLines (tags ++ tag :: rest) =
      writtenLines tags ++ (tag :: rest).flatMap (written false) := by
  cases tags with
  | nil =>
    have hbare : (tag.name == Tag.descName) = false := by simpa using htag
    have hnil : writtenLines [] = [] := rfl
    rw [List.nil_append, hnil, List.nil_append, writtenLines, hbare, List.flatMap_cons]
  | cons first tags =>
    rw [List.cons_append, writtenLines, writtenLines, List.flatMap_append, List.append_assoc]

/-- Tags of one line are legible outside of fences. -/
theorem legible_flatMap_written {tags : List Tag} (hne : tags ≠ [])
    (h : ∀ tag ∈ tags, '\n' ∉ tag.value) {fenced : Bool} :
    Legible fenced (tags.flatMap (written false)) ↔ fenced = false := by
  induction tags with
  | nil => exact absurd rfl hne
  | cons tag tags ih =>
    have hline := written_eq false (lines_of_not_mem (h tag (List.mem_cons_self ..)))
    rw [List.flatMap_cons, hline, List.map_nil, List.singleton_append, Bool.not_false,
      legible_opening]
    by_cases hnil : tags = []
    · rw [hnil]
      exact and_iff_left trivial
    · rw [ih hnil fun t ht => h t (List.mem_cons_of_mem _ ht), and_self]

/-! ## Tidy values -/

theorem newline_not_mem_of_not_blank {s : Text} (h : ∀ c ∈ s, isBlank c = false) : '\n' ∉ s := by
  intro hmem
  have hnl := h _ hmem
  cases hnl

theorem tidy_of_not_blank {s : Text} (h : ∀ c ∈ s, isBlank c = false) : Tidy s where
  start c hc := h c (List.mem_of_mem_head? hc)
  stop c hc := h c (List.mem_of_getLast? hc)
  lines _ hl c hc := h c ((infix_of_mem_lines hl).subset (List.mem_of_getLast? hc))

/-- A word, a space and a tidy value make a tidy value. -/
theorem tidy_append_cons {a b : Text} (hne : a ≠ []) (ha : ∀ c ∈ a, isBlank c = false)
    (hb : Tidy b) (hb' : b ≠ []) : Tidy (a ++ ' ' :: b) := by
  obtain ⟨first, rest, hlines⟩ := exists_lines_eq_cons b
  have hjoined : lines (a ++ ' ' :: b) = (a ++ ' ' :: first) :: rest :=
    lines_append_of_not_mem (newline_not_mem_of_not_blank ha) (lines_cons (by decide) hlines)
  -- The first line of `b` is not empty, or `b` would begin with a newline.
  have hfirst : first ≠ [] := by
    obtain ⟨c, b, rfl⟩ := List.exists_cons_of_ne_nil hb'
    have hc : c ≠ '\n' := by
      rintro rfl
      have hnl := startsTidy_cons.1 hb.start
      cases hnl
    obtain ⟨l, ls, hl⟩ := exists_lines_eq_cons b
    rw [lines_cons hc hl, List.cons.injEq] at hlines
    rw [← hlines.1]
    simp
  refine ⟨?_, ?_, ?_⟩
  · obtain ⟨c, a, rfl⟩ := List.exists_cons_of_ne_nil hne
    exact startsTidy_cons.2 (ha c (List.mem_cons_self ..))
  · rw [List.append_cons, endsTidy_append hb']
    exact hb.stop
  · have hbl := hb.lines
    unfold LinesTidy at hbl ⊢
    rw [hlines, List.forall_mem_cons] at hbl
    rw [hjoined, List.forall_mem_cons, List.append_cons, endsTidy_append hfirst]
    exact hbl

end TypedDocs.Comment

namespace TypedDocs.Synthesis

open Text Comment

/-! ## The form of synthesized tags -/

/-- A name that can stand in a tag: not empty, and without white space. -/
def IsPlainName (name : Text) : Prop :=
  name ≠ [] ∧ ∀ c ∈ name, isBlank c = false

instance (name : Text) : Decidable (IsPlainName name) :=
  decidable_of_iff (name ≠ [] ∧ name.all (!isBlank ·) = true) (by simp [IsPlainName])

theorem not_blank_braced {kind : DeclarationKind} (hnames : ∀ name ∈ kind.names, IsPlainName name)
    {ty : TypeName} (hty : ty ∈ kind.types) : ∀ c ∈ ty.braced, isBlank c = false := by
  have htext := (DeclarationKind.text_of_mem_types (P := IsPlainName) (by decide) hnames hty).2
  intro c hc
  simp only [TypeName.braced, List.cons_append, List.mem_cons, List.mem_append, List.not_mem_nil,
    or_false] at hc
  rcases hc with rfl | hc | rfl
  · decide
  · exact htext c hc
  · decide

theorem braced_ne_nil (ty : TypeName) : ty.braced ≠ [] := by
  simp [TypeName.braced]

/-- A type in front of a tidy value leaves it tidy. -/
theorem tidy_prefixType {tag : Tag} {ty : TypeName} (htag : Tidy tag.value)
    (hty : ∀ c ∈ ty.braced, isBlank c = false) : Tidy (tag.prefixType ty).value := by
  unfold Tag.prefixType
  dsimp only
  split
  case isTrue => exact tidy_of_not_blank hty
  case isFalse h => exact tidy_append_cons (braced_ne_nil ty) hty htag (by simpa using h)

theorem not_blank_of_mem_toDigits {n : Nat} {c : Char} (h : c ∈ Nat.toDigits 10 n) :
    isBlank c = false := by
  have hdigit := Nat.isDigit_of_mem_toDigits (by decide) (by decide) h
  cases hblank : isBlank c with
  | false => rfl
  | true =>
    have hcodes : ∀ n ∈ blankCodes, (Char.ofNat n).isDigit = false := by decide
    have hcode := hcodes c.toNat (toNat_mem_blankCodes hblank)
    rw [Char.ofNat_toNat, hdigit] at hcode
    cases hcode

theorem isTagName_of_mem_addedNames : ∀ name ∈ addedNames, IsTagName name := by
  decide +kernel

theorem form_of_written {kind : DeclarationKind} (hnames : ∀ name ∈ kind.names, IsPlainName name)
    {tag : Tag} (h : Written kind tag) : IsTagName tag.name ∧ Tidy tag.value := by
  refine ⟨isTagName_of_mem_addedNames _ h.name_mem, ?_⟩
  obtain ⟨ty, hty, hvalue | ⟨name, hname, hvalue⟩⟩ := h.value_eq
  · rw [hvalue]
    exact tidy_of_not_blank (not_blank_braced hnames hty)
  · obtain ⟨hne, hplain⟩ := hnames name hname
    rw [hvalue]
    exact tidy_append_cons (braced_ne_nil _) (not_blank_braced hnames hty)
      (tidy_of_not_blank hplain) hne

theorem newline_not_mem_braced {kind : DeclarationKind} (hnames : ∀ name ∈ kind.names, '\n' ∉ name)
    {ty : TypeName} (hty : ty ∈ kind.types) : '\n' ∉ ty.braced := by
  have htext := DeclarationKind.text_of_mem_types (P := ('\n' ∉ ·)) (by decide) hnames hty
  simpa [TypeName.braced] using htext

/-- A tag that synthesis adds takes one line. -/
theorem newline_not_mem_of_written {kind : DeclarationKind}
    (hnames : ∀ name ∈ kind.names, '\n' ∉ name) {tag : Tag} (h : Written kind tag) :
    '\n' ∉ tag.value := by
  obtain ⟨ty, hty, hvalue | ⟨name, hname, hvalue⟩⟩ := h.value_eq
  · rw [hvalue]
    exact newline_not_mem_braced hnames hty
  · rw [hvalue]
    simpa using ⟨newline_not_mem_braced hnames hty, hnames name hname⟩

/-- The line number takes one line and is no description. -/
theorem form_lineTag (line : Nat) :
    (IsTagName (lineTag line).name ∧ Tidy (lineTag line).value) ∧
      (lineTag line).name ≠ Tag.descName ∧ '\n' ∉ (lineTag line).value := by
  have hdigits : ∀ c ∈ (lineTag line).value, isBlank c = false :=
    fun _ => not_blank_of_mem_toDigits
  have hne : Tag.lineNumberName ≠ Tag.descName := by decide
  exact ⟨⟨isTagName_of_mem_addedNames _ (List.mem_cons_self ..), tidy_of_not_blank hdigits⟩, hne,
    newline_not_mem_of_not_blank hdigits⟩

/-- Synthesis keeps the form of tags that were read. -/
theorem form_of_mem_synthesize {decl : Declaration} {old new : List Tag}
    (hnames : ∀ name ∈ decl.kind.names, IsPlainName name)
    (hold : ∀ tag ∈ old, IsTagName tag.name ∧ Tidy tag.value)
    (h : synthesize decl old = .ok new) :
    ∀ tag ∈ new, IsTagName tag.name ∧ Tidy tag.value := by
  refine forall_mem_synthesize hold ?_ ?_ (fun _ => form_of_written hnames) h
  · rintro tag ⟨hname, hvalue⟩ ty hty
    exact ⟨hname, tidy_prefixType hvalue (not_blank_braced hnames hty)⟩
  · exact (form_lineTag decl.line).1

/-! ## The lines of synthesized tags -/

/-- A type changes the first line of a value and no other. -/
theorem alike_prefixType {ty : TypeName} (hty : '\n' ∉ ty.braced) (tag : Tag) :
    List.Forall₂ WrittenLine.Alike (written false tag) (written false (tag.prefixType ty)) := by
  obtain ⟨first, rest, hlines⟩ := exists_lines_eq_cons tag.value
  obtain ⟨first', hlines'⟩ : ∃ first', lines (tag.prefixType ty).value = first' :: rest := by
    unfold Tag.prefixType
    dsimp only
    split
    case isTrue h =>
      rw [List.isEmpty_iff.1 h, lines_nil, List.cons.injEq] at hlines
      exact ⟨ty.braced, by rw [lines_of_not_mem hty, hlines.2]⟩
    case isFalse =>
      exact ⟨_, lines_append_of_not_mem hty (lines_cons (by decide) hlines)⟩
  rw [written_eq false hlines, written_eq false hlines']
  exact List.Forall₂.cons (Or.inr ⟨rfl, rfl⟩) (forall₂_alike_refl _)

theorem alike_written {types : List TypeName} (htypes : ∀ ty ∈ types, '\n' ∉ ty.braced)
    {old new : Tag} (h : Retyped isTyped types old new) :
    List.Forall₂ WrittenLine.Alike (written false old) (written false new) := by
  rcases h with rfl | ⟨-, ty, hty, rfl⟩
  · exact forall₂_alike_refl _
  · exact alike_prefixType (htypes ty hty) old

/-- A description is given no type. -/
theorem eq_of_retyped_desc {types : List TypeName} {old new : Tag}
    (h : Retyped isTyped types old new) (hdesc : old.name = Tag.descName) : new = old := by
  rcases h with rfl | ⟨htyped, -⟩
  · rfl
  · rw [hdesc] at htyped
    cases htyped

theorem alike_writtenLines {types : List TypeName} (htypes : ∀ ty ∈ types, '\n' ∉ ty.braced)
    {old new : List Tag} (h : List.Forall₂ (Retyped isTyped types) old new) :
    List.Forall₂ WrittenLine.Alike (writtenLines old) (writtenLines new) := by
  have hrest : ∀ {old new : List Tag}, List.Forall₂ (Retyped isTyped types) old new →
      List.Forall₂ WrittenLine.Alike (old.flatMap (written false))
        (new.flatMap (written false)) := by
    intro old new h
    exact List.rel_flatMap h fun _ _ => alike_written htypes
  cases h with
  | nil => exact List.Forall₂.nil
  | @cons tag tag' tags tags' hhead htail =>
    -- Only a description can be bare, and a description is given no type.
    refine List.rel_append ?_ (hrest htail)
    by_cases hdesc : tag.name = Tag.descName
    · rw [eq_of_retyped_desc hhead hdesc]
      exact forall₂_alike_refl _
    · have hbare : (tag.name == Tag.descName) = false := by simpa using hdesc
      rw [hhead.name_eq, hbare]
      exact alike_written htypes hhead

/-- Only a silent description in first place stays one. -/
theorem head_synthesize {decl : Declaration} {tags r : List Tag}
    (h : synthesize decl tags = .ok r) :
    r.head? = some ⟨Tag.descName, []⟩ ↔ (kept tags).head? = some ⟨Tag.descName, []⟩ := by
  rw [synthesize_eq_of_ok h]
  have hall := forall₂_retype decl.kind (kept tags)
  generalize retype decl.kind (kept tags) = new at hall ⊢
  generalize kept tags = old at hall ⊢
  cases hall with
  | nil =>
    have hname : Tag.lineNumberName ≠ Tag.descName := by decide
    simp [lineTag, hname]
  | @cons tag tag' _ _ hhead _ =>
    rw [List.cons_append, List.head?_cons, List.head?_cons, Option.some.injEq, Option.some.injEq]
    constructor
    · intro htag
      have hdesc : tag.name = Tag.descName := by rw [← hhead.name_eq, htag]
      rw [← htag, eq_of_retyped_desc hhead hdesc]
    · intro htag
      rw [eq_of_retyped_desc hhead (by rw [htag]), htag]

/-- The result is legible if the kept tags are and leave no fence open. -/
theorem legible_synthesize_iff {decl : Declaration} {tags r : List Tag}
    (hnames : ∀ name ∈ decl.kind.names, IsPlainName name) (h : synthesize decl tags = .ok r) :
    Legible false (writtenLines r) ↔ Legible false (writtenLines (kept tags)) ∧
      fencedAfter false (writtenLines (kept tags)) = false := by
  have hplain : ∀ name ∈ decl.kind.names, '\n' ∉ name :=
    fun name hname => newline_not_mem_of_not_blank (hnames name hname).2
  have halike := alike_writtenLines (fun _ => newline_not_mem_braced hplain)
    (forall₂_retype decl.kind (kept tags))
  obtain ⟨hline, hvalue⟩ := (form_lineTag decl.line).2
  have hsingle : ∀ tag ∈ lineTag decl.line :: added decl.kind (kept tags), '\n' ∉ tag.value := by
    intro tag htag
    rcases List.mem_cons.1 htag with rfl | htag
    · exact hvalue
    · exact newline_not_mem_of_written hplain (written_of_mem_added htag)
  -- The kept tags come first; what is added needs the flag behind them to be closed.
  rw [synthesize_eq_of_ok h, writtenLines_append _ hline, legible_append,
    legible_flatMap_written (by simp) hsingle, ← legible_congr halike, ← fencedAfter_congr halike]

/-- Synthesized tags are read back exactly if the tags that were kept do not begin with a silent
    description, are legible and leave no fence open. -/
theorem parse_build_synthesize_iff (comment : Text) (decl : Declaration) (indent : Text)
    (tags : List Tag) (hindent : indent.all isIndent = true)
    (hnames : ∀ name ∈ decl.kind.names, IsPlainName name)
    (h : synthesize decl (parse comment) = .ok tags) :
    parse (build tags indent) = tags ↔
      (kept (parse comment)).head? ≠ some ⟨Tag.descName, []⟩ ∧
        Legible false (writtenLines (kept (parse comment))) ∧
        fencedAfter false (writtenLines (kept (parse comment))) = false := by
  have hne : tags ≠ [] := synthesize_ne_nil h
  have hform := form_of_mem_synthesize hnames (fun _ htag => parse_form htag) h
  rw [parse_build hne hindent hform, ← legible_synthesize_iff hnames h, ne_eq,
    ← head_synthesize h]
  constructor
  · intro hread
    refine ⟨?_, legible_of_readTags hne (fun t ht => (hform t ht).1) hread⟩
    rw [← hread]
    exact readTags_head _
  · rintro ⟨hhead, hlegible⟩
    exact readTags_of_legible hne hform hhead hlegible

def halfDeclaration : Declaration where
  name := "half".toList
  kind := .function ⟨[⟨"n".toList, .number⟩], some (.named "Ratio".toList)⟩
  line := 7
  start := 64
  indent := []
  inline := false
  doc := none

def halfComment : Text :=
  ("/**\n * Halves.\n * ```\n * @see half\n * ```\n" ++
    " * @lineNumber 3\n * @param of what\n */").toList

def halfTags : List Tag :=
  [⟨Tag.descName, "Halves.\n```\n@see half\n```".toList⟩,
    ⟨Tag.paramName, "{number} of what".toList⟩, ⟨Tag.lineNumberName, "7".toList⟩,
    ⟨Tag.returnName, "{Ratio}".toList⟩]

/-- A fence that is closed in the description hides its lines and nothing behind it. -/
theorem parse_build_synthesize_half :
    synthesize halfDeclaration (parse halfComment) = .ok halfTags ∧
      parse (build halfTags "\t".toList) = halfTags := by
  have hsynth : synthesize halfDeclaration (parse halfComment) = .ok halfTags := by
    decide +kernel
  have hread := parse_build_synthesize_iff halfComment halfDeclaration "\t".toList halfTags
    (by decide) (by decide) hsynth
  exact ⟨hsynth, hread.2 (by decide +kernel)⟩

def exampleDeclaration : Declaration where
  name := "A".toList
  kind := .classLike
  line := 1
  start := 0
  indent := []
  inline := false
  doc := none

def exampleComment : Text :=
  "/**\n * @example\n * ```\n * f()\n * ```\n */".toList

/-- The fence of an example moves up to its tag name, and the line number behind it is read
    as code. -/
theorem not_forall_parse_build_synthesize :
    ¬ ∀ (comment : Text) (decl : Declaration) (indent : Text) (tags : List Tag),
      indent.all isIndent = true → (∀ name ∈ decl.kind.names, IsPlainName name) →
        synthesize decl (parse comment) = .ok tags → parse (build tags indent) = tags := by
  intro h
  have hread := h exampleComment exampleDeclaration []
    [⟨"@example".toList, "```\nf()\n```".toList⟩, ⟨Tag.lineNumberName, "1".toList⟩]
    (by decide) (by decide) (by decide +kernel)
  have hcode : parse (build [⟨"@example".toList, "```\nf()\n```".toList⟩,
      ⟨Tag.lineNumberName, "1".toList⟩] []) =
        [⟨"@example".toList, "```\nf()\n```\n@lineNumber 1".toList⟩] := by
    decide +kernel
  rw [hcode] at hread
  revert hread
  decide

end TypedDocs.Synthesis
