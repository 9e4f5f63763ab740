/-
  The domain of the comment format.

  Writing tags and reading the comment back gives the same tags exactly when
  names and values have the form that reading produces and the written lines
  are legible: read in order, with a flag for fences of code, every line that
  carries a tag name stands outside of fences and no other line outside of
  fences looks like one that does.

  Both directions follow the lines.  Legible lines are read into the blocks
  they were written from (`blocks_written`).  For the converse, reading keeps
  ink: a line that is read in another role than it was written in would move
  ink from one tag to another (`legible_of_blocks`).
-/

import TypedDocs.Proofs.Comment.Reading

namespace TypedDocs.Comment

open Text

/-! ## Written lines -/

/-- A line of a written comment, and whether it carries the name of a tag. -/
structure WrittenLine where
  opens : Bool
  text : Text
  deriving DecidableEq, Repr

namespace WrittenLine

/-- A line that continues a value. -/
def continuing (text : Text) : WrittenLine :=
  ⟨false, text⟩

/-- The fence flag behind a line; a line that carries a tag name leaves it alone. -/
def fencedAfter (fenced : Bool) (line : WrittenLine) : Bool :=
  if line.opens then fenced else fenced != isFence line.text

/-- Whether a line is read in the role it was written in. -/
def Fits (fenced : Bool) (line : WrittenLine) : Prop :=
  if line.opens then fenced = false else fenced = false → ¬ IsTagLine line.text

instance (fenced : Bool) (line : WrittenLine) : Decidable (line.Fits fenced) :=
  inferInstanceAs (Decidable (if line.opens then _ else _))

end WrittenLine

/-- The lines of one tag; `bare` leaves its name out. -/
def written (bare : Bool) (tag : Tag) : List WrittenLine :=
  match lines tag.value with
  | [] => [⟨!bare, headLine bare tag.name []⟩]
  | first :: rest => ⟨!bare, headLine bare tag.name first⟩ :: rest.map WrittenLine.continuing

/-- The lines of a tag list; a description in first place is bare. -/
def writtenLines : List Tag → List WrittenLine
  | [] => []
  | tag :: tags => written (tag.name == Tag.descName) tag ++ tags.flatMap (written false)

/-- The fence flag behind some lines. -/
def fencedAfter (fenced : Bool) (ls : List WrittenLine) : Bool :=
  ls.foldl WrittenLine.fencedAfter fenced

/-- Every line is read in the role it was written in; `fenced` is the flag before the first. -/
def Legible (fenced : Bool) : List WrittenLine → Prop
  | [] => True
  | line :: rest => line.Fits fenced ∧ Legible (line.fencedAfter fenced) rest

instance decidableLegible (fenced : Bool) : (ls : List WrittenLine) → Decidable (Legible fenced ls)
  | [] => isTrue trivial
  | line :: rest =>
    have := decidableLegible (line.fencedAfter fenced) rest
    inferInstanceAs (Decidable (_ ∧ _))

/-- A line that continues a value must not look like one that opens a tag, outside of fences. -/
theorem legible_continuing {fenced : Bool} {c : Text} {rest : List WrittenLine} :
    Legible fenced (WrittenLine.continuing c :: rest) ↔
      (fenced = false → ¬ IsTagLine c) ∧ Legible (fenced != isFence c) rest := Iff.rfl

/-- A line that opens a tag must stand outside of fences. -/
theorem legible_opening {fenced : Bool} {text : Text} {rest : List WrittenLine} :
    Legible fenced (⟨true, text⟩ :: rest) ↔ fenced = false ∧ Legible fenced rest := Iff.rfl

theorem legible_append {fenced : Bool} {a b : List WrittenLine} :
    Legible fenced (a ++ b) ↔ Legible fenced a ∧ Legible (fencedAfter fenced a) b := by
  induction a generalizing fenced with
  | nil => simp [Legible, fencedAfter]
  | cons l a ih =>
    rw [List.cons_append, Legible, ih, Legible, and_assoc]
    rfl

theorem written_eq {tag : Tag} {first : Text} {rest : List Text} (bare : Bool)
    (h : lines tag.value = first :: rest) :
    written bare tag =
      ⟨!bare, headLine bare tag.name first⟩ :: rest.map WrittenLine.continuing := by
  rw [written, h]

theorem tagLines_eq {tag : Tag} {first : Text} {rest : List Text} (bare : Bool)
    (h : lines tag.value = first :: rest) :
    tagLines bare tag = headLine bare tag.name first :: rest := by
  rw [tagLines, h]

/-- A bare tag is written as the lines of its value. -/
theorem tagLines_bare (tag : Tag) : tagLines true tag = lines tag.value := by
  obtain ⟨first, rest, h⟩ := exists_lines_eq_cons tag.value
  rw [tagLines_eq true h, h]
  rfl

theorem written_bare (tag : Tag) :
    written true tag = (lines tag.value).map WrittenLine.continuing := by
  obtain ⟨first, rest, h⟩ := exists_lines_eq_cons tag.value
  rw [written_eq true h, h]
  rfl

/-- The written lines are the lines of the comment, each with its role. -/
theorem map_text_writtenLines (tags : List Tag) :
    (writtenLines tags).map WrittenLine.text = contentLines tags := by
  have htag : ∀ (bare : Bool) (tag : Tag),
      (written bare tag).map WrittenLine.text = tagLines bare tag := by
    intro bare tag
    obtain ⟨first, rest, h⟩ := exists_lines_eq_cons tag.value
    rw [written_eq bare h, tagLines_eq bare h, List.map_cons, List.map_map]
    exact congrArg _ (List.map_id rest)
  cases tags with
  | nil => rfl
  | cons tag tags =>
    rw [writtenLines, contentLines, List.map_append, htag, List.map_flatMap]
    exact congrArg _ (List.flatMap_congr fun t _ => htag false t)

/-! ## Form of the written lines -/

theorem tagLine?_headLine {name : Text} (h : IsTagName name) (first : Text) :
    tagLine? (headLine false name first) = some (name, first) := by
  cases first with
  | nil => exact tagLine?_name h
  | cons c first => exact tagLine?_append h rfl (c :: first)

theorem IsTagName.endsTidy {name : Text} (h : IsTagName name) : EndsTidy name := by
  obtain ⟨word, rfl, hne, hword⟩ := h
  have hend : EndsTidy word := fun c hc => isBlank_of_isWord (hword c (List.mem_of_getLast? hc))
  exact (endsTidy_append (a := ['@']) hne).2 hend

theorem IsTagName.newline_not_mem {name : Text} (h : IsTagName name) : '\n' ∉ name := by
  obtain ⟨word, rfl, -, hword⟩ := h
  intro hmem
  rcases List.mem_cons.1 hmem with hmem | hmem
  · cases hmem
  · have hnl := hword _ hmem
    rw [isWord_of_isBlank (by decide)] at hnl
    cases hnl

/-- The lines of tags of the read form are tidy. -/
theorem tidy_of_mem_contentLines {tags : List Tag}
    (hform : ∀ tag ∈ tags, IsTagName tag.name ∧ Tidy tag.value) :
    ∀ l ∈ contentLines tags, EndsTidy l ∧ '\n' ∉ l := by
  refine forall_mem_contentLines fun tag htag => ?_
  obtain ⟨hname, hvalue⟩ := hform tag htag
  refine forall_mem_tagLines (fun l hl => ⟨hvalue.lines l hl, not_mem_of_mem_lines hl⟩)
    ⟨hname.endsTidy, hname.newline_not_mem⟩ ?_
  rintro l hne ⟨hend, hnl⟩
  rw [List.append_cons, endsTidy_append hne]
  refine ⟨hend, ?_⟩
  simp only [List.mem_append, List.mem_singleton, not_or]
  exact ⟨⟨hname.newline_not_mem, by decide⟩, hnl⟩

/-- Reading a written comment is reading the lines of its tags. -/
theorem parse_build {tags : List Tag} {indent : Text} (hne : tags ≠ [])
    (hindent : indent.all isIndent = true)
    (hform : ∀ tag ∈ tags, IsTagName tag.name ∧ Tidy tag.value) :
    parse (build tags indent) = readTags ([] :: contentLines tags ++ [[]]) := by
  have htidy := tidy_of_mem_contentLines hform
  have htrim : (contentLines tags).map trimEnd = contentLines tags := by
    have hid : (contentLines tags).map trimEnd = (contentLines tags).map id :=
      List.map_congr_left fun l hl => trimEnd_of_endsTidy (htidy l hl).1
    rw [hid, List.map_id]
  rw [parse_eq, readLines_build hne hindent fun l hl => (htidy l hl).2, htrim]

/-! ## Legible lines are read as they were written -/

/-- An empty line at the end adds nothing to a value. -/
theorem tag_append_nil (name : Text) (ls : List Text) :
    (Block.tag ⟨name, ls ++ [[]]⟩) = Block.tag ⟨name, ls⟩ :=
  congrArg (Tag.mk name) (trim_unlines_append_nil ls)

/-- The lines of a tidy value give the value back. -/
theorem tag_lines {tag : Tag} (h : Tidy tag.value) :
    Block.tag ⟨tag.name, lines tag.value⟩ = tag := by
  rw [Block.tag, unlines_lines, h.trim]

/-- So they do behind an empty line. -/
theorem tag_nil_lines {tag : Tag} (h : Tidy tag.value) :
    Block.tag ⟨tag.name, [] :: lines tag.value⟩ = tag := by
  rw [Block.tag, unlines_cons _ (lines_ne_nil _), List.nil_append, trim_blank_cons (by decide),
    unlines_lines, h.trim]

/-- Legible continuing lines all join the open block. -/
theorem blocks_continuing {fenced : Bool} {current : Block} (cs rest : List Text)
    (h : Legible fenced (cs.map WrittenLine.continuing)) :
    blocks fenced current (cs ++ rest) =
      blocks (fencedAfter fenced (cs.map WrittenLine.continuing))
        ⟨current.name, current.lines ++ cs⟩ rest := by
  induction cs generalizing fenced current with
  | nil => simp [fencedAfter]
  | cons c cs ih =>
    obtain ⟨hfits, hrest⟩ := legible_continuing.1 h
    rw [List.cons_append, blocks_cons_of_not_tagLine fun hf => tagLine?_eq_none (hfits hf),
      ih hrest, List.append_assoc, List.singleton_append]
    rfl

/-- Legible tags are read back, behind the block that was open before them. -/
theorem blocks_written {fenced : Bool} (current : Block) (tags : List Tag)
    (hform : ∀ tag ∈ tags, IsTagName tag.name ∧ Tidy tag.value)
    (h : Legible fenced (tags.flatMap (written false))) :
    (blocks fenced current (tags.flatMap (tagLines false) ++ [[]])).map Block.tag =
      current.tag :: tags := by
  induction tags generalizing fenced current with
  | nil =>
    rw [List.flatMap_nil, List.nil_append, blocks_cons_of_not_tagLine fun _ => rfl, blocks_nil,
      List.map_singleton, tag_append_nil]
  | cons tag tags ih =>
    obtain ⟨hname, hvalue⟩ := hform tag (List.mem_cons_self ..)
    obtain ⟨first, rest, hlines⟩ := exists_lines_eq_cons tag.value
    rw [List.flatMap_cons, written_eq false hlines, List.cons_append, Bool.not_false,
      legible_opening, legible_append] at h
    obtain ⟨rfl, hcont, htags⟩ := h
    -- The name opens a block, its value's other lines join it, and the tags behind come next.
    have hblocks := ih ⟨tag.name, [first] ++ rest⟩
      (fun t ht => hform t (List.mem_cons_of_mem _ ht)) htags
    rw [List.flatMap_cons, tagLines_eq false hlines, List.cons_append, List.cons_append,
      blocks_cons_of_tagLine (tagLine?_headLine hname first), List.append_assoc,
      blocks_continuing _ _ hcont, List.map_cons, hblocks, List.singleton_append, ← hlines,
      tag_lines hvalue]

/-- Tags with legible lines are read back. -/
theorem readTags_of_legible {tags : List Tag} (hne : tags ≠ [])
    (hform : ∀ tag ∈ tags, IsTagName tag.name ∧ Tidy tag.value)
    (hhead : tags.head? ≠ some ⟨Tag.descName, []⟩) (h : Legible false (writtenLines tags)) :
    readTags ([] :: contentLines tags ++ [[]]) = tags := by
  obtain ⟨tag, tags, rfl⟩ := List.exists_cons_of_ne_nil hne
  have hspeaks : isSilent tag = false := by
    rw [← Bool.not_eq_true, isSilent_iff]
    exact fun hsilent => hhead (by rw [hsilent]; rfl)
  have hopen : blocks false ⟨Tag.descName, []⟩ ([] :: contentLines (tag :: tags) ++ [[]]) =
      blocks false ⟨Tag.descName, [[]]⟩ (contentLines (tag :: tags) ++ [[]]) :=
    blocks_cons_of_not_tagLine fun _ => rfl
  rw [readTags, hopen]
  by_cases hdesc : tag.name = Tag.descName
  · -- The description joins the block that is open from the start.
    have hvalue := (hform tag (List.mem_cons_self ..)).2
    rw [writtenLines, hdesc, beq_self_eq_true, written_bare, legible_append] at h
    obtain ⟨hcont, htags⟩ := h
    rw [contentLines, hdesc, beq_self_eq_true, tagLines_bare, List.append_assoc,
      blocks_continuing _ _ hcont, blocks_written _ tags
        (fun t ht => hform t (List.mem_cons_of_mem _ ht)) htags]
    rw [List.singleton_append, ← hdesc, tag_nil_lines hvalue,
      List.dropWhile_cons_of_neg (by simp [hspeaks])]
  · -- The block that is open from the start stays empty.
    have hbare : (tag.name == Tag.descName) = false := by simpa using hdesc
    rw [writtenLines, hbare, ← List.flatMap_cons] at h
    rw [contentLines, hbare, ← List.flatMap_cons, blocks_written _ (tag :: tags) hform h]
    rw [List.dropWhile_cons_of_pos (by rfl), List.dropWhile_cons_of_neg (by simp [hspeaks])]

/-! ## Tags that are read back were legible -/

theorem IsTagLine.ink_ne_nil {line : Text} (h : IsTagLine line) : ink line ≠ [] := by
  obtain ⟨name, rest, rfl, hname, -⟩ := h
  rw [ink_append]
  exact List.append_ne_nil_of_left_ne_nil hname.ink_ne_nil _

theorem isTagLine_headLine {name : Text} (h : IsTagName name) (first : Text) :
    IsTagLine (headLine false name first) := by
  rw [← tagLine?_isSome, tagLine?_headLine h]
  rfl

/-- If the block that is open gets the value that the lines `cs` complete, all of `cs`
    joined it: closed at one of them, it would lack that line's ink. -/
theorem legible_continuing_of_blocks {fenced : Bool} (current : Block) {v : Text}
    {rest : List Text} {others : List Tag} (cs : List Text)
    (hink : ink v = (current.lines ++ cs).flatMap ink)
    (h : (blocks fenced current (cs ++ rest)).map Block.tag = ⟨current.name, v⟩ :: others) :
    Legible fenced (cs.map WrittenLine.continuing) := by
  induction cs generalizing fenced current with
  | nil => trivial
  | cons c cs ih =>
    rw [List.cons_append] at h
    rcases blocks_cons_cases fenced current c (cs ++ rest) with
      ⟨name, value, -, htag, heq⟩ | ⟨hnot, heq⟩
    · -- Read as a tag line, `c` closes the block, which then lacks the ink of `c`.
      exfalso
      rw [heq, List.map_cons, List.cons.injEq] at h
      have hvalue := congrArg (fun t : Tag => (ink t.value).length) h.1
      simp only [ink_tag, hink, List.flatMap_append, List.flatMap_cons,
        List.length_append] at hvalue
      have hline : IsTagLine c := tagLine?_isSome.1 (by rw [htag]; rfl)
      have hpos := List.length_pos_iff.2 hline.ink_ne_nil
      omega
    · rw [heq] at h
      rw [List.map_cons, legible_continuing]
      refine ⟨fun hf => ?_, ih _ (by rw [hink]; simp) h⟩
      rw [← tagLine?_isSome, hnot hf]
      simp

/-- If tags are read back behind a block that is complete, their lines were legible: in a
    fence, the first tag name would join the open block, and its ink with it. -/
theorem legible_of_blocks {fenced : Bool} {current : Block} {v : Text} (tags : List Tag)
    (hnames : ∀ tag ∈ tags, IsTagName tag.name) (hink : ink v = current.lines.flatMap ink)
    (h : (blocks fenced current (tags.flatMap (tagLines false) ++ [[]])).map Block.tag =
      ⟨current.name, v⟩ :: tags) :
    Legible fenced (tags.flatMap (written false)) := by
  induction tags generalizing fenced current v with
  | nil => trivial
  | cons tag tags ih =>
    have hname : IsTagName tag.name := hnames tag (List.mem_cons_self ..)
    obtain ⟨first, rest, hlines⟩ := exists_lines_eq_cons tag.value
    rw [List.flatMap_cons, tagLines_eq false hlines, List.cons_append, List.cons_append,
      List.append_assoc] at h
    rw [List.flatMap_cons, written_eq false hlines, List.cons_append, Bool.not_false,
      legible_opening, legible_append]
    cases fenced with
    | false =>
      -- The name closes the block; the next one has to get the rest of the value's lines.
      rw [blocks_cons_of_tagLine (tagLine?_headLine hname first), List.map_cons,
        List.cons.injEq] at h
      have hvalue : ink tag.value = ([first] ++ rest).flatMap ink := by
        rw [List.singleton_append, ← hlines, flatMap_ink_lines]
      have hcont := legible_continuing_of_blocks ⟨tag.name, [first]⟩ rest hvalue h.2
      have htags := h.2
      rw [blocks_continuing _ _ hcont] at htags
      exact ⟨rfl, hcont, ih (fun t ht => hnames t (List.mem_cons_of_mem _ ht)) hvalue htags⟩
    | true =>
      -- Inside a fence the block takes the line of the name, and has too much ink.
      exfalso
      rw [blocks_cons_of_not_tagLine fun hf => by cases hf] at h
      obtain ⟨more, others, hmore⟩ := exists_blocks_eq_cons
        (true != isFence (headLine false tag.name first))
        ⟨current.name, current.lines ++ [headLine false tag.name first]⟩
        (rest ++ (tags.flatMap (tagLines false) ++ [[]]))
      rw [hmore, List.map_cons, List.cons.injEq] at h
      have hvalue := congrArg (fun t : Tag => (ink t.value).length) h.1
      simp only [ink_tag, hink, List.flatMap_append, List.flatMap_singleton,
        List.length_append] at hvalue
      have hpos := List.length_pos_iff.2 (isTagLine_headLine hname first).ink_ne_nil
      omega

/-! ## The first tag -/

/-- How much ink some tags have, names included. -/
def inkSize : List Tag → Nat
  | [] => 0
  | tag :: tags => (ink tag.name).length + (ink tag.value).length + inkSize tags

@[simp] theorem inkSize_cons (tag : Tag) (tags : List Tag) :
    inkSize (tag :: tags) = (ink tag.name).length + (ink tag.value).length + inkSize tags := rfl

/-- Leaving out tags leaves out ink. -/
theorem inkSize_dropWhile_le (p : Tag → Bool) (tags : List Tag) :
    inkSize (tags.dropWhile p) ≤ inkSize tags := by
  induction tags with
  | nil => exact Nat.le_refl _
  | cons tag tags ih =>
    rw [List.dropWhile_cons]
    split
    · rw [inkSize_cons]
      omega
    · exact Nat.le_refl _

theorem length_flatMap_ink_tagLines (tag : Tag) :
    ((tagLines false tag).flatMap ink).length = (ink tag.name).length + (ink tag.value).length := by
  obtain ⟨first, rest, hlines⟩ := exists_lines_eq_cons tag.value
  have hvalue : ink tag.value = ink first ++ rest.flatMap ink := by
    rw [← List.flatMap_cons, ← hlines, flatMap_ink_lines]
  have hhead : ink (headLine false tag.name first) = ink tag.name ++ ink first := by
    cases first with
    | nil => simp [headLine]
    | cons c first =>
      rw [headLine, if_neg (by simp), if_neg (by simp), ink_append,
        ink_cons_of_isBlank (by decide)]
  rw [tagLines_eq false hlines, List.flatMap_cons, hhead, hvalue]
  simp only [List.length_append]
  omega

/-- The ink of written lines is the ink of the tags. -/
theorem length_flatMap_ink (tags : List Tag) :
    ((tags.flatMap (tagLines false)).flatMap ink).length = inkSize tags := by
  induction tags with
  | nil => rfl
  | cons tag tags ih =>
    rw [List.flatMap_cons, List.flatMap_append, List.length_append, ih,
      length_flatMap_ink_tagLines, inkSize_cons]

/-- The ink of blocks is the ink of their tags. -/
theorem inkSize_map_tag (bs : List Block) :
    inkSize (bs.map Block.tag) =
      (bs.flatMap fun b => ink b.name ++ b.lines.flatMap ink).length := by
  induction bs with
  | nil => rfl
  | cons b bs ih =>
    rw [List.map_cons, inkSize_cons, ih, ink_tag, List.flatMap_cons, List.length_append,
      List.length_append]
    rfl

/-- A description in first place that is read back was read without a name: read with one,
    it would have ink that the comment does not have. -/
theorem readTags_desc_eq {v : Text} {tags : List Tag}
    (h : ((blocks false ⟨Tag.descName, [[]]⟩
      (lines v ++ (tags.flatMap (tagLines false) ++ [[]]))).map Block.tag).dropWhile isSilent =
        ⟨Tag.descName, v⟩ :: tags) :
    (blocks false ⟨Tag.descName, [[]]⟩
      (lines v ++ (tags.flatMap (tagLines false) ++ [[]]))).map Block.tag =
        ⟨Tag.descName, v⟩ :: tags := by
  have htotal := inkSize_map_tag (blocks false ⟨Tag.descName, [[]]⟩
    (lines v ++ (tags.flatMap (tagLines false) ++ [[]])))
  rw [ink_blocks] at htotal
  simp only [List.flatMap_append, flatMap_ink_lines, List.length_append, length_flatMap_ink,
    List.flatMap_singleton, ink_nil, List.length_nil] at htotal
  obtain ⟨more, others, hblocks⟩ : ∃ more others, blocks false ⟨Tag.descName, [[]]⟩
      (lines v ++ (tags.flatMap (tagLines false) ++ [[]])) =
        ⟨Tag.descName, [[]] ++ more⟩ :: others := exists_blocks_eq_cons ..
  rw [hblocks, List.map_cons] at h htotal ⊢
  cases hsilent : isSilent (Block.tag ⟨Tag.descName, [[]] ++ more⟩) with
  | false => rwa [List.dropWhile_cons_of_neg (by rw [hsilent]; decide)] at h
  | true =>
    -- All tags were read from the blocks behind the first, which lack the ink of the name.
    exfalso
    rw [List.dropWhile_cons_of_pos hsilent] at h
    have hle : (ink Tag.descName).length + (ink v).length + inkSize tags ≤
        inkSize (others.map Block.tag) := by
      have hdrop := inkSize_dropWhile_le isSilent (others.map Block.tag)
      rw [h] at hdrop
      exact hdrop
    rw [inkSize_cons, isSilent_iff.1 hsilent] at htotal
    have hname := List.length_pos_iff.2 isTagName_descName.ink_ne_nil
    simp only [ink_nil, List.length_nil] at htotal
    omega

/-- Tags that are read back from their lines have legible lines. -/
theorem legible_of_readTags {tags : List Tag} (hne : tags ≠ [])
    (hnames : ∀ tag ∈ tags, IsTagName tag.name)
    (h : readTags ([] :: contentLines tags ++ [[]]) = tags) :
    Legible false (writtenLines tags) := by
  obtain ⟨tag, tags, rfl⟩ := List.exists_cons_of_ne_nil hne
  have hopen : blocks false ⟨Tag.descName, []⟩ ([] :: contentLines (tag :: tags) ++ [[]]) =
      blocks false ⟨Tag.descName, [[]]⟩ (contentLines (tag :: tags) ++ [[]]) :=
    blocks_cons_of_not_tagLine fun _ => rfl
  rw [readTags, hopen] at h
  by_cases hdesc : tag.name = Tag.descName
  · obtain ⟨name, value⟩ := tag
    obtain rfl : name = Tag.descName := hdesc
    rw [contentLines, beq_self_eq_true, tagLines_bare, List.append_assoc] at h
    have hread := readTags_desc_eq h
    have hink : ink value = ([[]] ++ lines value).flatMap ink := by
      rw [List.flatMap_append, flatMap_ink_lines]
      rfl
    have hcont := legible_continuing_of_blocks _ (lines value) hink hread
    rw [blocks_continuing _ _ hcont] at hread
    rw [writtenLines, beq_self_eq_true, written_bare, legible_append]
    exact ⟨hcont, legible_of_blocks tags (fun t ht => hnames t (List.mem_cons_of_mem _ ht))
      hink hread⟩
  · have hbare : (tag.name == Tag.descName) = false := by simpa using hdesc
    have hname : IsTagName tag.name := hnames tag (List.mem_cons_self ..)
    obtain ⟨first, rest, hlines⟩ := exists_lines_eq_cons tag.value
    -- The name closes the block that is open from the start, which says nothing.
    have hclose : (blocks false ⟨Tag.descName, [[]]⟩
        ((tag :: tags).flatMap (tagLines false) ++ [[]])).map Block.tag =
          ⟨Tag.descName, []⟩ :: tag :: tags := by
      rw [contentLines, hbare, ← List.flatMap_cons] at h
      rw [List.flatMap_cons, tagLines_eq false hlines, List.cons_append, List.cons_append,
        blocks_cons_of_tagLine (tagLine?_headLine hname first), List.map_cons] at h ⊢
      rw [List.dropWhile_cons_of_pos (by rfl)] at h
      obtain ⟨more, others, hblocks⟩ := exists_blocks_eq_cons false ⟨tag.name, [first]⟩
        (rest ++ tags.flatMap (tagLines false) ++ [[]])
      rw [hblocks, List.map_cons] at h ⊢
      rw [List.dropWhile_cons_of_neg (by simp [isSilent, Block.tag, hdesc])] at h
      rw [h]
      rfl
    rw [writtenLines, hbare, ← List.flatMap_cons]
    exact legible_of_blocks (tag :: tags) hnames rfl hclose

/-! ## Writing and reading -/

theorem parse_build_nil (indent : Text) : parse (build [] indent) = [] := by
  have hbuild : build [] indent = "/** */".toList := rfl
  rw [hbuild]
  decide +kernel

/-- Tags are read back exactly if their names and values have the form of read ones,
    the first says something, and their written lines are legible. -/
theorem parse_build_eq_iff (tags : List Tag) (indent : Text)
    (hindent : indent.all isIndent = true) :
    parse (build tags indent) = tags ↔
      (∀ tag ∈ tags, IsTagName tag.name) ∧ (∀ tag ∈ tags, Tidy tag.value) ∧
        tags.head? ≠ some ⟨Tag.descName, []⟩ ∧ Legible false (writtenLines tags) := by
  by_cases hne : tags = []
  · subst hne
    simp [parse_build_nil, writtenLines, Legible]
  constructor
  · intro h
    have hform : ∀ tag ∈ tags, IsTagName tag.name ∧ Tidy tag.value := by
      intro tag htag
      rw [← h] at htag
      exact parse_form htag
    refine ⟨fun t ht => (hform t ht).1, fun t ht => (hform t ht).2, ?_, ?_⟩
    · rw [← h, parse_eq]
      exact readTags_head _
    · rw [parse_build hne hindent hform] at h
      exact legible_of_readTags hne (fun t ht => (hform t ht).1) h
  · rintro ⟨hnames, hvalues, hhead, hlegible⟩
    have hform : ∀ tag ∈ tags, IsTagName tag.name ∧ Tidy tag.value :=
      fun t ht => ⟨hnames t ht, hvalues t ht⟩
    rw [parse_build hne hindent hform]
    exact readTags_of_legible hne hform hhead hlegible

/-- A description with a closed fence around a tag line is read back, and so are tags of several
    lines and of none. -/
theorem parse_build_fencedDescription :
    "\t ".toList.all isIndent = true ∧
      parse (build [⟨Tag.descName, "Adds.\n\n```\n@param x\n```".toList⟩,
          ⟨Tag.paramName, "{number} a first\n  @second line".toList⟩, ⟨"@ignore".toList, []⟩]
        "\t ".toList) =
      [⟨Tag.descName, "Adds.\n\n```\n@param x\n```".toList⟩,
        ⟨Tag.paramName, "{number} a first\n  @second line".toList⟩, ⟨"@ignore".toList, []⟩] :=
  ⟨by decide, (parse_build_eq_iff _ _ (by decide)).2 (by decide +kernel)⟩

end TypedDocs.Comment
