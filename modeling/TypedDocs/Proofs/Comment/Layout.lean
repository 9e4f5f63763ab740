/-
  The layout of a written comment, and what the reader sees of it.

  A comment is written as lines between a border.  Reading takes the border off
  again, whatever the indentation: `readLines` is what is left of a comment's
  lines, and `readLines_build` gives it for a written comment.
-/

import TypedDocs.Comment.Build
import TypedDocs.Comment.Parse
import TypedDocs.Proofs.Text.Trim

namespace TypedDocs.Text

/-! ## Affixes -/

theorem stripPrefix?_append (p s : Text) : stripPrefix? p (p ++ s) = some s := by
  induction p with
  | nil => cases s <;> rfl
  | cons c p ih => rw [List.cons_append, stripPrefix?, if_pos rfl, ih]

theorem stripSuffix?_append (p s : Text) : stripSuffix? p (s ++ p) = some s := by
  rw [stripSuffix?, List.reverse_append, stripPrefix?_append, Option.map_some, List.reverse_reverse]

end TypedDocs.Text

namespace TypedDocs.Comment

open Text

/-! ## Taking the border off -/

/-- A text without a star in front. -/
def dropStar : Text → Text
  | '*' :: rest => rest
  | rest => rest

/-- A text without one space or tab in front. -/
def dropBlank : Text → Text
  | c :: rest => if isIndent c then rest else c :: rest
  | [] => []

theorem undecorate_eq (l : Text) : undecorate l = dropBlank (dropStar (l.dropWhile isIndent)) := rfl

theorem dropStar_suffix (l : Text) : dropStar l <:+ l := by
  unfold dropStar
  split
  · exact List.suffix_cons ..
  · exact List.suffix_rfl

theorem dropBlank_suffix (l : Text) : dropBlank l <:+ l := by
  unfold dropBlank
  split
  · split
    · exact List.suffix_cons ..
    · exact List.suffix_rfl
  · exact List.suffix_rfl

theorem dropStar_append_return (l : Text) : dropStar (l ++ ['\r']) = dropStar l ++ ['\r'] := by
  cases l with
  | nil => rfl
  | cons c l =>
    by_cases hc : c = '*'
    · subst hc
      rfl
    · simp [dropStar, hc]

theorem dropBlank_append_return (l : Text) : dropBlank (l ++ ['\r']) = dropBlank l ++ ['\r'] := by
  cases l with
  | nil => rfl
  | cons c l => by_cases hc : isIndent c <;> simp [dropBlank, hc]

/-- Indentation in front does not matter. -/
theorem undecorate_append_indent {a : Text} (ha : a.all isIndent = true) (l : Text) :
    undecorate (a ++ l) = undecorate l := by
  have hdrop : (a ++ l).dropWhile isIndent = l.dropWhile isIndent :=
    List.dropWhile_append_of_pos (List.all_eq_true.1 ha)
  rw [undecorate_eq, hdrop, undecorate_eq]

/-- What is taken off stands in front. -/
theorem undecorate_suffix (l : Text) : undecorate l <:+ l := by
  rw [undecorate_eq]
  exact (dropBlank_suffix _).trans ((dropStar_suffix _).trans (List.dropWhile_suffix _))

/-- A carriage return at the end stays there. -/
theorem undecorate_append_return (l : Text) : undecorate (l ++ ['\r']) = undecorate l ++ ['\r'] := by
  have hdrop : (l ++ ['\r']).dropWhile isIndent = l.dropWhile isIndent ++ ['\r'] := by
    rw [List.dropWhile_append]
    split
    case isTrue h =>
      rw [List.isEmpty_iff.1 h]
      rfl
    case isFalse => rfl
  rw [undecorate_eq, hdrop, dropStar_append_return, dropBlank_append_return, undecorate_eq]

/-! ## Clean lines -/

theorem endsTidy_cleanLine (l : Text) : EndsTidy (cleanLine l) :=
  endsTidy_trimEnd _

theorem infix_cleanLine (l : Text) : cleanLine l <:+: l :=
  (prefix_trimEnd _).isInfix.trans (undecorate_suffix l).isInfix

theorem cleanLine_append_return (l : Text) : cleanLine (l ++ ['\r']) = cleanLine l := by
  rw [cleanLine, undecorate_append_return, trimEnd_append_blank (by decide), cleanLine]

theorem cleanLine_indent {a : Text} (ha : a.all isIndent = true) : cleanLine a = [] := by
  have h := undecorate_append_indent ha []
  rw [List.append_nil] at h
  rw [cleanLine, h]
  rfl

/-- The text between the marks of a comment. -/
def inner (comment : Text) : Text :=
  let inside := (stripPrefix? "/**".toList comment).getD comment
  (stripSuffix? "*/".toList inside).getD inside

theorem body_eq (comment : Text) : body comment = unixLines (inner comment) := rfl

/-- The lines of a comment without border and without white space at their ends. -/
def readLines (comment : Text) : List Text :=
  (lines (inner comment)).map cleanLine

/-- Line endings do not matter. -/
theorem map_cleanLine_lines_body (comment : Text) :
    (lines (body comment)).map cleanLine = readLines comment := by
  have hlines := forall₂_lines_unixLines (inner comment)
  rw [body_eq, readLines]
  -- A line differs at most by a carriage return at its end, which cleaning takes off.
  generalize lines (unixLines (inner comment)) = ls, lines (inner comment) = raws at hlines
  induction hlines with
  | nil => rfl
  | cons hhead _ ih =>
    rw [List.map_cons, List.map_cons, ih]
    rcases hhead with rfl | rfl
    · rfl
    · rw [cleanLine_append_return]

theorem endsTidy_of_mem_readLines {comment l : Text} (h : l ∈ readLines comment) : EndsTidy l := by
  obtain ⟨raw, -, rfl⟩ := List.mem_map.1 h
  exact endsTidy_cleanLine raw

/-- Every line that is read is a piece of the comment. -/
theorem infix_of_mem_readLines {comment l : Text} (h : l ∈ readLines comment) :
    l <:+: inner comment := by
  obtain ⟨raw, hraw, rfl⟩ := List.mem_map.1 h
  exact (infix_cleanLine raw).trans (infix_of_mem_lines hraw)

theorem newline_not_mem_of_mem_readLines {comment l : Text} (h : l ∈ readLines comment) :
    '\n' ∉ l := by
  obtain ⟨raw, hraw, rfl⟩ := List.mem_map.1 h
  exact fun hmem => not_mem_of_mem_lines hraw ((infix_cleanLine raw).subset hmem)

/-! ## Written comments -/

/-- What holds of the lines of a value, of its name, and of the name before a line that is not
    empty holds of the lines of a tag. -/
theorem forall_mem_tagLines {L : Text → Prop} {tag : Tag} (hlines : ∀ l ∈ lines tag.value, L l)
    (hname : L tag.name) (hhead : ∀ l, l ≠ [] → L l → L (tag.name ++ ' ' :: l)) (bare : Bool) :
    ∀ l ∈ tagLines bare tag, L l := by
  obtain ⟨first, rest, heq⟩ := exists_lines_eq_cons tag.value
  rw [heq, List.forall_mem_cons] at hlines
  obtain ⟨hfirst, hrest⟩ := hlines
  rw [tagLines, heq, List.forall_mem_cons]
  refine ⟨?_, hrest⟩
  unfold headLine
  split
  · exact hfirst
  · split
    case isTrue => exact hname
    case isFalse hne => exact hhead first (by simpa using hne) hfirst

theorem forall_mem_contentLines {L : Text → Prop} {tags : List Tag}
    (h : ∀ tag ∈ tags, ∀ (bare : Bool), ∀ l ∈ tagLines bare tag, L l) :
    ∀ l ∈ contentLines tags, L l := by
  intro l hl
  cases tags with
  | nil => cases hl
  | cons tag tags =>
    rcases List.mem_append.1 hl with hl | hl
    · exact h tag (List.mem_cons_self ..) _ l hl
    · obtain ⟨t, ht, hl⟩ := List.mem_flatMap.1 hl
      exact h t (List.mem_cons_of_mem _ ht) _ l hl

/-- A line between the borders, without its newline. -/
def bordered (indent line : Text) : Text :=
  indent ++ if line.isEmpty then " *".toList else " * ".toList ++ line

theorem decorate_eq (indent line : Text) : decorate indent line = bordered indent line ++ ['\n'] :=
  rfl

/-- Reading a bordered line gives the line back. -/
theorem cleanLine_bordered {indent : Text} (hindent : indent.all isIndent = true) (l : Text) :
    cleanLine (bordered indent l) = trimEnd l := by
  unfold cleanLine bordered
  rw [undecorate_append_indent hindent]
  cases l with
  | nil => rfl
  | cons c l => rfl

theorem flatMap_decorate_append (indent : Text) (ls : List Text) (last : Text) :
    ls.flatMap (decorate indent) ++ last = unlines (ls.map (bordered indent) ++ [last]) := by
  induction ls with
  | nil => rfl
  | cons l ls ih =>
    rw [List.flatMap_cons, List.append_assoc, ih, decorate_eq, List.map_cons, List.cons_append,
      unlines_cons _ (by simp), List.append_assoc, List.singleton_append]

/-- A written comment is its opening, its bordered lines and its closing. -/
theorem build_eq {tags : List Tag} (h : tags ≠ []) (indent : Text) :
    build tags indent = "/**".toList ++ '\n' ::
      unlines ((contentLines tags).map (bordered indent) ++ [indent ++ " */".toList]) := by
  rw [build, if_neg (by simpa using h), ← flatMap_decorate_append]
  simp

theorem unlines_append_last (ls : List Text) (a b : Text) :
    unlines (ls ++ [a ++ b]) = unlines (ls ++ [a]) ++ b := by
  induction ls with
  | nil => rfl
  | cons l ls ih =>
    rw [List.cons_append, List.cons_append, unlines_cons _ (by simp), unlines_cons _ (by simp), ih]
    simp

/-- Between its marks, a written comment holds an empty line, the bordered lines and indentation. -/
theorem inner_build {tags : List Tag} (h : tags ≠ []) (indent : Text) :
    inner (build tags indent) =
      unlines ([] :: (contentLines tags).map (bordered indent) ++ [indent ++ [' ']]) := by
  have hbuild : build tags indent = "/**".toList ++
      (unlines ([] :: (contentLines tags).map (bordered indent) ++ [indent ++ [' ']]) ++
        "*/".toList) := by
    rw [build_eq h, List.cons_append, unlines_cons _ (by simp), List.nil_append, List.cons_append,
      ← unlines_append_last]
    simp
  simp only [inner, hbuild, stripPrefix?_append, Option.getD_some, stripSuffix?_append]

/-- The lines of a bordered text, cleaned: its indentation stands before the first of them. -/
theorem map_cleanLine_lines_bordered {indent : Text} (hindent : indent.all isIndent = true)
    (l : Text) :
    (lines (bordered indent l)).map cleanLine = (lines (bordered [] l)).map cleanLine := by
  obtain ⟨first, rest, hlines⟩ := exists_lines_eq_cons (bordered [] l)
  have hborder : bordered indent l = indent ++ bordered [] l := rfl
  rw [hborder, lines_append_of_not_mem (newline_not_mem_of_isIndent hindent) hlines, hlines,
    List.map_cons, List.map_cons, cleanLine, undecorate_append_indent hindent, cleanLine]

/-- A written comment reads as if it were not indented.  A newline inside a name or a value starts a
    line without a border. -/
theorem readLines_build_eq_flatMap {tags : List Tag} {indent : Text} (hne : tags ≠ [])
    (hindent : indent.all isIndent = true) :
    readLines (build tags indent) =
      [] :: (contentLines tags).flatMap (fun l => (lines (bordered [] l)).map cleanLine) ++ [[]] := by
  have hlast : (indent ++ [' ']).all isIndent = true := by
    rw [List.all_append, hindent]
    rfl
  have hsingle : lines (indent ++ [' ']) = [indent ++ [' ']] :=
    lines_of_not_mem (newline_not_mem_of_isIndent hlast)
  have hcontent : (contentLines tags).flatMap (fun l => (lines (bordered indent l)).map cleanLine) =
      (contentLines tags).flatMap fun l => (lines (bordered [] l)).map cleanLine := by
    simp only [map_cleanLine_lines_bordered hindent]
  rw [readLines, inner_build hne, lines_unlines_flatMap (by simp), List.flatMap_append,
    List.flatMap_cons, List.flatMap_singleton, hsingle, List.flatMap_map, List.map_append,
    List.map_append, List.map_flatMap, List.map_singleton, cleanLine_indent hlast, hcontent]
  rfl

/-- What is read of a written comment: its lines, between two empty ones. -/
theorem readLines_build {tags : List Tag} {indent : Text} (hne : tags ≠ [])
    (hindent : indent.all isIndent = true) (hlines : ∀ l ∈ contentLines tags, '\n' ∉ l) :
    readLines (build tags indent) = [] :: (contentLines tags).map trimEnd ++ [[]] := by
  have hcontent : ∀ l ∈ contentLines tags, (lines (bordered [] l)).map cleanLine = [trimEnd l] := by
    intro l hl
    have hnewline : '\n' ∉ bordered [] l := by
      unfold bordered
      split
      · simp
      · simpa using hlines l hl
    rw [lines_of_not_mem hnewline, List.map_singleton, cleanLine_bordered rfl]
  rw [readLines_build_eq_flatMap hne hindent, List.flatMap_congr hcontent, List.map_eq_flatMap]

end TypedDocs.Comment
