/-
  Layouts of a comment that read alike.

  Neither the way in which lines end nor the indentation of a written comment
  shows in the tags.  A carriage return that is put before a newline is the one
  that reading takes off again, so line endings of both kinds give one text
  (`unixLines_returnLines`), also where carriage returns stand already.  The
  indentation stands in front of the lines of a written comment, where reading
  drops spaces and tabs of any number; a newline inside a name or a value starts
  a line that was never indented (`readLines_build_eq_flatMap`).
-/

import TypedDocs.Proofs.Comment.Reading

namespace TypedDocs.Text

/-! ## Line endings -/

/-- A character as it is written where lines end in a carriage return and a newline. -/
def returned (c : Char) : Text :=
  if c = '\n' then ['\r', '\n'] else [c]

/-- Every newline with a carriage return before it. -/
def returnLines (s : Text) : Text :=
  s.flatMap returned

@[simp] theorem returnLines_nil : returnLines [] = [] := rfl

@[simp] theorem returnLines_newline (s : Text) :
    returnLines ('\n' :: s) = '\r' :: '\n' :: returnLines s := rfl

theorem returnLines_cons {c : Char} (hc : c ≠ '\n') (s : Text) :
    returnLines (c :: s) = c :: returnLines s := by
  rw [returnLines, List.flatMap_cons, returned, if_neg hc]
  rfl

/-- No text begins with a newline any more. -/
theorem head?_returnLines (s : Text) : (returnLines s).head? ≠ some '\n' := by
  cases s with
  | nil => simp
  | cons c s =>
    by_cases hc : c = '\n'
    · subst hc
      simp
    · rw [returnLines_cons hc]
      simpa using hc

/-- A character joins what follows it, unless both make a line ending. -/
theorem unixLines_cons {c : Char} {s : Text} (h : c = '\r' → s.head? ≠ some '\n') :
    unixLines (c :: s) = c :: unixLines s := by
  rw [unixLines]
  rintro t rfl rfl
  exact h rfl rfl

/-- Reading takes off the carriage returns that were put in, and no others. -/
theorem unixLines_returnLines (s : Text) : unixLines (returnLines s) = s := by
  induction s with
  | nil => rfl
  | cons c s ih =>
    by_cases hc : c = '\n'
    · subst hc
      rw [returnLines_newline, unixLines, ih]
    · rw [returnLines_cons hc, unixLines_cons fun _ => head?_returnLines s, ih]

/-! ## Affixes of a text with other line endings -/

/-- Characters that are no part of a prefix may be spelled in another way, as long as no spelling
    begins like the prefix. -/
theorem stripPrefix?_flatMap {f : Char → Text} {p : Text}
    (h : ∀ c, f c = [c] ∨ (c ∉ p ∧ ∃ d rest, f c = d :: rest ∧ d ∉ p)) (s : Text) :
    stripPrefix? p (s.flatMap f) = (stripPrefix? p s).map (List.flatMap f) := by
  induction p generalizing s with
  | nil =>
    rw [stripPrefix?, stripPrefix?]
    rfl
  | cons a p ih =>
    have hp : ∀ c, f c = [c] ∨ (c ∉ p ∧ ∃ d rest, f c = d :: rest ∧ d ∉ p) := by
      intro c
      rcases h c with hkeep | ⟨hc, d, rest, hf, hd⟩
      · exact Or.inl hkeep
      · exact Or.inr ⟨fun hmem => hc (List.mem_cons_of_mem _ hmem), d, rest, hf,
          fun hmem => hd (List.mem_cons_of_mem _ hmem)⟩
    cases s with
    | nil => rfl
    | cons c s =>
      rw [List.flatMap_cons]
      rcases h c with hkeep | ⟨hc, d, rest, hf, hd⟩
      · rw [hkeep, List.singleton_append, stripPrefix?, stripPrefix?]
        split
        case isTrue => exact ih hp s
        case isFalse => rfl
      · -- Neither the character nor its spelling begins like the prefix.
        have hac : a ≠ c := fun heq => hc (heq ▸ List.mem_cons_self ..)
        have had : a ≠ d := fun heq => hd (heq ▸ List.mem_cons_self ..)
        rw [hf, List.cons_append, stripPrefix?, stripPrefix?, if_neg hac, if_neg had]
        rfl

/-- A text without line endings begins a text or not, however that text's lines end. -/
theorem stripPrefix?_returnLines {p : Text} (hnewline : '\n' ∉ p) (hreturn : '\r' ∉ p) (s : Text) :
    stripPrefix? p (returnLines s) = (stripPrefix? p s).map returnLines := by
  refine stripPrefix?_flatMap (fun c => ?_) s
  unfold returned
  split
  case isTrue hc => exact Or.inr ⟨hc ▸ hnewline, '\r', ['\n'], rfl, hreturn⟩
  case isFalse => exact Or.inl rfl

theorem stripSuffix?_returnLines {p : Text} (hnewline : '\n' ∉ p) (s : Text) :
    stripSuffix? p (returnLines s) = (stripSuffix? p s).map returnLines := by
  have hrev : (returnLines s).reverse = s.reverse.flatMap (List.reverse ∘ returned) := by
    rw [returnLines, List.reverse_flatMap]
  have hstrip : stripPrefix? p.reverse (s.reverse.flatMap (List.reverse ∘ returned)) =
      (stripPrefix? p.reverse s.reverse).map (List.flatMap (List.reverse ∘ returned)) := by
    refine stripPrefix?_flatMap (fun c => ?_) s.reverse
    rw [Function.comp_apply, returned]
    split
    case isTrue hc =>
      have hmem : '\n' ∉ p.reverse := fun h => hnewline (List.mem_reverse.1 h)
      exact Or.inr ⟨hc ▸ hmem, '\n', ['\r'], rfl, hmem⟩
    case isFalse => exact Or.inl rfl
  rw [stripSuffix?, stripSuffix?, hrev, hstrip, Option.map_map, Option.map_map]
  congr 1
  funext rest
  rw [Function.comp_apply, Function.comp_apply, List.reverse_flatMap, returnLines]
  congr 1
  funext c
  rw [Function.comp_apply, Function.comp_apply, List.reverse_reverse]

end TypedDocs.Text

namespace TypedDocs.Comment

open Text

/-- The marks of a comment are no line endings. -/
theorem inner_returnLines (comment : Text) :
    inner (returnLines comment) = returnLines (inner comment) := by
  have hopen : (stripPrefix? "/**".toList (returnLines comment)).getD (returnLines comment) =
      returnLines ((stripPrefix? "/**".toList comment).getD comment) := by
    rw [stripPrefix?_returnLines (by decide) (by decide), Option.getD_map]
  unfold inner
  dsimp only
  rw [hopen, stripSuffix?_returnLines (by decide), Option.getD_map]

theorem readLines_returnLines (comment : Text) :
    readLines (returnLines comment) = readLines comment := by
  rw [← map_cleanLine_lines_body, body_eq, inner_returnLines, unixLines_returnLines, readLines]

/-! ## Indentation -/

theorem parse_build_indent (tags : List Tag) {indent indent' : Text}
    (hindent : indent.all isIndent = true) (hindent' : indent'.all isIndent = true) :
    parse (build tags indent) = parse (build tags indent') := by
  by_cases hne : tags = []
  · rw [hne]
    rfl
  · rw [parse_eq, parse_eq, readLines_build_eq_flatMap hne hindent,
      readLines_build_eq_flatMap hne hindent']

/-- Reading a comment depends neither on how its lines end nor, for a written comment, on its
    indentation. -/
theorem parse_layout :
    (∀ comment : Text, parse (returnLines comment) = parse comment) ∧
      ∀ (tags : List Tag) (indent indent' : Text), indent.all isIndent = true →
        indent'.all isIndent = true → parse (build tags indent) = parse (build tags indent') :=
  ⟨fun comment => by rw [parse_eq, parse_eq, readLines_returnLines],
    fun tags _ _ hindent hindent' => parse_build_indent tags hindent hindent'⟩

/-- A comment whose lines end in all ways: with and without a carriage return, and with two. -/
def mixedComment : Text :=
  "/**\r\n * Adds.\r\r\n\t* @see f\rg\n */".toList

/-- A tag with a newline in its name, and in its value a line that opens a tag. -/
def foldedTags : List Tag :=
  [⟨"@a\nb".toList, "x\r\n@see y\r".toList⟩]

theorem parse_layout_folded :
    "\t ".toList.all isIndent = true ∧ "".toList.all isIndent = true ∧
      parse (returnLines mixedComment) = parse mixedComment ∧
      parse (build foldedTags "\t ".toList) = parse (build foldedTags "".toList) :=
  ⟨by decide, by decide, parse_layout.1 mixedComment,
    parse_layout.2 foldedTags "\t ".toList "".toList (by decide) (by decide)⟩

example : parse mixedComment =
    [⟨"@desc".toList, "Adds.".toList⟩, ⟨"@see".toList, "f\rg".toList⟩] ∧
      parse (build foldedTags "\t ".toList) =
        [⟨"@a".toList, "b x".toList⟩, ⟨"@see".toList, "y".toList⟩] := by
  decide +kernel

end TypedDocs.Comment
