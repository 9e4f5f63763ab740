/-
  The closing mark of a comment.

  A text that holds no `*/` stays so when pieces are cut out of it and when such
  texts are joined by a character that is no part of the mark.  Reading only
  cuts and writing only joins in this way: every written line stands behind a
  blank and before a newline.  So tags that are read from a comment hold no
  mark, and a comment written from such tags holds it at its end only.
-/

import TypedDocs.Proofs.Comment.Reading

namespace TypedDocs.Comment

open Text

/-! ## Texts without the mark -/

/-- No `*/` stands in a text. -/
def NoClose (s : Text) : Prop :=
  ¬ "*/".toList <:+: s

theorem NoClose.piece {a b : Text} (h : NoClose b) (hab : a <:+: b) : NoClose a :=
  fun hmark => h (hmark.trans hab)

theorem noClose_of_not_mem {s : Text} (h : '*' ∉ s) : NoClose s :=
  fun hmark => h (hmark.subset (by decide))

theorem noClose_cons {c : Char} {s : Text} :
    NoClose (c :: s) ↔ ¬ (c = '*' ∧ s.head? = some '/') ∧ NoClose s := by
  have hfront : "*/".toList <+: c :: s ↔ c = '*' ∧ s.head? = some '/' := by
    cases s with
    | nil => simp
    | cons d s => simp [eq_comm]
  unfold NoClose
  rw [List.infix_cons_iff, hfront, not_or]

instance decidableNoClose : (s : Text) → Decidable (NoClose s)
  | [] => isTrue (noClose_of_not_mem (by simp))
  | c :: s =>
    have := decidableNoClose s
    decidable_of_iff (¬ (c = '*' ∧ s.head? = some '/') ∧ NoClose s) noClose_cons.symm

/-- A character that is no part of the mark keeps two texts apart. -/
theorem noClose_append_cons {c : Char} (hstar : c ≠ '*') (hslash : c ≠ '/') {a b : Text} :
    NoClose (a ++ c :: b) ↔ NoClose a ∧ NoClose b := by
  induction a with
  | nil =>
    have hnil : NoClose [] := by decide
    rw [List.nil_append, noClose_cons]
    simp [hstar, hnil]
  | cons d a ih =>
    have hhead : (a ++ c :: b).head? = some '/' ↔ a.head? = some '/' := by
      cases a with
      | nil => simp [hslash]
      | cons e a => simp
    rw [List.cons_append, noClose_cons, noClose_cons, hhead, ih, and_assoc]

theorem NoClose.cons {c : Char} {s : Text} (h : NoClose s) (hstar : c ≠ '*') : NoClose (c :: s) :=
  noClose_cons.2 ⟨fun hc => hstar hc.1, h⟩

/-- Lines without the mark have none when they are joined. -/
theorem noClose_unlines {ls : List Text} (h : ∀ l ∈ ls, NoClose l) : NoClose (unlines ls) := by
  induction ls with
  | nil => decide
  | cons l ls ih =>
    have hl : NoClose l := h l (List.mem_cons_self ..)
    have hls := ih fun m hm => h m (List.mem_cons_of_mem _ hm)
    by_cases hnil : ls = []
    · rw [hnil, unlines_singleton]
      exact hl
    · rw [unlines_cons l hnil, noClose_append_cons (by decide) (by decide)]
      exact ⟨hl, hls⟩

theorem noClose_of_isIndent {indent : Text} (h : indent.all isIndent = true) : NoClose indent := by
  refine noClose_of_not_mem fun hmem => ?_
  have hstar := List.all_eq_true.1 h _ hmem
  cases hstar

/-! ## Documentation blocks -/

/-- A documentation comment that closes where it ends and nowhere before. -/
structure IsDocBlock (s : Text) : Prop where
  opens : "/**".toList <+: s
  filled : s ≠ "/**/".toList
  closes : "*/".toList <:+ s
  once : NoClose s.dropLast

instance (s : Text) : Decidable (IsDocBlock s) :=
  decidable_of_iff ("/**".toList <+: s ∧ s ≠ "/**/".toList ∧ "*/".toList <:+ s ∧
      NoClose s.dropLast)
    ⟨fun h => ⟨h.1, h.2.1, h.2.2.1, h.2.2.2⟩, fun h => ⟨h.opens, h.filled, h.closes, h.once⟩⟩

/-- The marks of a documentation comment do not overlap. -/
theorem IsDocBlock.eq_append {s : Text} (h : IsDocBlock s) :
    s = "/**".toList ++ (inner s ++ "*/".toList) := by
  obtain ⟨rest, hrest⟩ := h.opens
  have hsuffix : "*/".toList <:+ rest := by
    have hcloses : "*/".toList <:+ "/**".toList ++ rest := hrest ▸ h.closes
    have hlen : "*/".toList.length ≤ rest.length := by
      -- A shorter rest makes the comment `/**` or `/**c`, and then `c` is the slash.
      cases rest with
      | nil => exact absurd hcloses (by decide)
      | cons c rest =>
        cases rest with
        | nil =>
          refine absurd ?_ h.filled
          obtain ⟨front, hfront⟩ := hcloses
          have hlast := congrArg List.getLast? hfront
          have hc : c = '/' := by simpa using hlast.symm
          rw [← hrest, hc]
          rfl
        | cons d rest => simp
    exact List.suffix_of_suffix_length_le hcloses (List.suffix_append ..) hlen
  obtain ⟨middle, hmiddle⟩ := hsuffix
  have hs : s = "/**".toList ++ (middle ++ "*/".toList) := by rw [hmiddle, hrest]
  have hinner : inner s = middle := by
    simp only [inner, hs, stripPrefix?_append, Option.getD_some, stripSuffix?_append]
  rw [hinner]
  exact hs

theorem IsDocBlock.noClose_inner {s : Text} (h : IsDocBlock s) : NoClose (inner s) := by
  refine h.once.piece ?_
  have hdrop : s.dropLast = "/**".toList ++ (inner s ++ ['*']) := by
    conv_lhs => rw [h.eq_append, ← List.append_assoc]
    rw [List.dropLast_append_of_ne_nil (by simp)]
    simp
  rw [hdrop]
  exact List.infix_append' ..

/-- The tags of a documentation comment hold no mark. -/
theorem IsDocBlock.noClose_parse {s : Text} (h : IsDocBlock s) {tag : Tag} (htag : tag ∈ parse s) :
    NoClose tag.name ∧ NoClose tag.value := by
  rw [parse_eq] at htag
  obtain ⟨b, hb, rfl⟩ := exists_block_of_mem_readTags htag
  have hopen : ∀ line name value, NoClose line → tagLine? line = some (name, value) →
      NoClose name ∧ NoClose value := by
    intro line name value hline hopens
    exact ⟨hline.piece (prefix_of_tagLine? hopens).isInfix,
      hline.piece (suffix_of_tagLine? hopens).isInfix⟩
  have hread : ∀ l ∈ readLines s, NoClose l :=
    fun l hl => h.noClose_inner.piece (infix_of_mem_readLines hl)
  obtain ⟨hname, hlines⟩ := blocks_forall hopen false ⟨Tag.descName, []⟩ (readLines s)
    (by decide) (by simp) hread b hb
  exact ⟨hname, (noClose_unlines hlines).piece (infix_trim _)⟩

/-! ## Writing -/

theorem noClose_of_mem_contentLines {tags : List Tag}
    (h : ∀ tag ∈ tags, NoClose tag.name ∧ NoClose tag.value) :
    ∀ l ∈ contentLines tags, NoClose l := by
  refine forall_mem_contentLines fun tag htag => ?_
  obtain ⟨hname, hvalue⟩ := h tag htag
  refine forall_mem_tagLines (fun l hl => hvalue.piece (infix_of_mem_lines hl)) hname ?_
  intro l _ hl
  exact (noClose_append_cons (by decide) (by decide)).2 ⟨hname, hl⟩

/-- The star of a border stands before a blank or a newline, never before a line's own text. -/
theorem noClose_bordered {indent l : Text} (hindent : NoClose indent) (hl : NoClose l) :
    NoClose (bordered indent l) := by
  unfold bordered
  split
  · exact (noClose_append_cons (by decide) (by decide)).2 ⟨hindent, by decide⟩
  · have hstar : NoClose ('*' :: ' ' :: l) := by
      rw [noClose_cons]
      exact ⟨by simp, hl.cons (by decide)⟩
    exact (noClose_append_cons (by decide) (by decide)).2 ⟨hindent, hstar⟩

/-- A comment written from tags without the mark closes at its end only. -/
theorem isDocBlock_build {tags : List Tag} {indent : Text} (hne : tags ≠ [])
    (hindent : indent.all isIndent = true)
    (h : ∀ tag ∈ tags, NoClose tag.name ∧ NoClose tag.value) : IsDocBlock (build tags indent) := by
  have hclear : NoClose indent := noClose_of_isIndent hindent
  have hlines : ∀ l ∈ (contentLines tags).map (bordered indent) ++ [indent ++ " *".toList],
      NoClose l := by
    intro l hl
    rcases List.mem_append.1 hl with hl | hl
    · obtain ⟨m, hm, rfl⟩ := List.mem_map.1 hl
      exact noClose_bordered hclear (noClose_of_mem_contentLines h m hm)
    · rw [List.mem_singleton.1 hl]
      exact (noClose_append_cons (by decide) (by decide)).2 ⟨hclear, by decide⟩
  have hbuild : build tags indent = ("/**".toList ++ '\n' ::
      unlines ((contentLines tags).map (bordered indent) ++ [indent ++ " *".toList])) ++ ['/'] := by
    have hlast : indent ++ " */".toList = indent ++ " *".toList ++ ['/'] := by simp
    rw [build_eq hne, hlast, unlines_append_last]
    simp
  -- The last line ends in the mark; without its slash no line holds one.
  refine ⟨?_, ?_, ?_, ?_⟩
  · rw [build_eq hne]
    exact List.prefix_append ..
  · rw [build_eq hne]
    simp
  · have hmark : " */".toList = [' '] ++ "*/".toList := rfl
    rw [build_eq hne, hmark, ← List.append_assoc, unlines_append_last, ← List.cons_append,
      ← List.append_assoc]
    exact List.suffix_append ..
  · rw [hbuild, List.dropLast_concat, noClose_append_cons (by decide) (by decide)]
    exact ⟨by decide, noClose_unlines hlines⟩

end TypedDocs.Comment
