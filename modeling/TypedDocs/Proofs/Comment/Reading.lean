/-
  Reading the lines of a comment.

  A line either opens a tag or continues the block above it.  Reading moves
  lines into blocks and loses nothing but white space: the ink of the blocks,
  names included, is the ink of the lines (`ink_blocks`).  What comes out is
  always of the same form: names are an `@` and a word, values are tidy, and
  the first tag says something (`parse_form`).
-/

import TypedDocs.Proofs.Comment.Layout

namespace TypedDocs.Comment

open Text

/-! ## Lines that open a tag -/

/-- An `@` followed by word characters, at least one. -/
def IsTagName (name : Text) : Prop :=
  ∃ word, name = '@' :: word ∧ word ≠ [] ∧ ∀ c ∈ word, isWord c = true

/-- A tag name alone on its line, or followed by a space or a tab. -/
def IsTagLine (line : Text) : Prop :=
  ∃ name rest, line = name ++ rest ∧ IsTagName name ∧ ∀ c, rest.head? = some c → isIndent c = true

theorem isWord_of_isIndent {c : Char} (h : isIndent c = true) : isWord c = false :=
  isWord_of_isBlank (isBlank_of_isIndent h)

/-- A name that is alone on its line opens a tag without text. -/
theorem tagLine?_name {name : Text} (h : IsTagName name) : tagLine? name = some (name, []) := by
  obtain ⟨word, rfl, hne, hword⟩ := h
  have htake : word.takeWhile isWord = word := List.takeWhile_eq_self_iff.2 hword
  have hdrop : word.dropWhile isWord = [] := List.dropWhile_eq_nil_iff.2 hword
  simp only [tagLine?, htake, hdrop]
  rw [if_neg (by simpa using hne)]

/-- A name and a space or a tab open a tag; its text is what follows. -/
theorem tagLine?_append {name : Text} (h : IsTagName name) {c : Char} (hc : isIndent c = true)
    (value : Text) : tagLine? (name ++ c :: value) = some (name, value) := by
  obtain ⟨word, rfl, hne, hword⟩ := h
  have hnot : ¬ isWord c = true := by simp [isWord_of_isIndent hc]
  have htake : (word ++ c :: value).takeWhile isWord = word := by
    rw [List.takeWhile_append_of_pos hword, List.takeWhile_cons_of_neg hnot, List.append_nil]
  have hdrop : (word ++ c :: value).dropWhile isWord = c :: value := by
    rw [List.dropWhile_append_of_pos hword, List.dropWhile_cons_of_neg hnot]
  simp only [List.cons_append, tagLine?, htake, hdrop]
  rw [if_neg (by simpa using hne), if_pos hc]

/-- A line opens a tag in these two ways only. -/
theorem tagLine?_cases {line name value : Text} (h : tagLine? line = some (name, value)) :
    IsTagName name ∧ ((line = name ∧ value = []) ∨
      ∃ c, isIndent c = true ∧ line = name ++ c :: value) := by
  unfold tagLine? at h
  split at h
  case h_2 => cases h
  case h_1 rest =>
    -- The word is the longest one, so what follows it cannot begin with a word character.
    have hsplit : rest.takeWhile isWord ++ rest.dropWhile isWord = rest :=
      List.takeWhile_append_dropWhile
    have hword : ∀ c ∈ rest.takeWhile isWord, isWord c = true :=
      fun c hc => List.mem_takeWhile_imp hc
    simp only at h
    split at h
    case isTrue => cases h
    case isFalse hne =>
      have hname : IsTagName ('@' :: rest.takeWhile isWord) :=
        ⟨_, rfl, by simpa using hne, hword⟩
      split at h
      case h_1 hdrop =>
        obtain ⟨rfl, rfl⟩ := Prod.mk.inj (Option.some.inj h)
        rw [hdrop, List.append_nil] at hsplit
        refine ⟨hname, Or.inl ⟨?_, rfl⟩⟩
        rw [hsplit]
      case h_2 c tail hdrop =>
        split at h
        case isFalse => cases h
        case isTrue hc =>
          obtain ⟨rfl, rfl⟩ := Prod.mk.inj (Option.some.inj h)
          rw [hdrop] at hsplit
          refine ⟨hname, Or.inr ⟨c, hc, ?_⟩⟩
          rw [List.cons_append, hsplit]

theorem tagLine?_isSome {line : Text} : (tagLine? line).isSome ↔ IsTagLine line := by
  constructor
  · intro h
    obtain ⟨⟨name, value⟩, h⟩ := Option.isSome_iff_exists.1 h
    obtain ⟨hname, ⟨rfl, -⟩ | ⟨c, hc, rfl⟩⟩ := tagLine?_cases h
    · exact ⟨line, [], by simp, hname, by simp⟩
    · exact ⟨name, c :: value, rfl, hname, by simpa using hc⟩
  · rintro ⟨name, rest, rfl, hname, hrest⟩
    cases rest with
    | nil => rw [List.append_nil, tagLine?_name hname]; rfl
    | cons c rest => rw [tagLine?_append hname (hrest c rfl)]; rfl

theorem tagLine?_eq_none {line : Text} (h : ¬ IsTagLine line) : tagLine? line = none := by
  rw [← Option.not_isSome_iff_eq_none, tagLine?_isSome]
  exact h

instance (line : Text) : Decidable (IsTagLine line) :=
  decidable_of_iff _ tagLine?_isSome

theorem tagLine?_eq_name_iff {name : Text} : tagLine? name = some (name, []) ↔ IsTagName name :=
  ⟨fun h => (tagLine?_cases h).1, tagLine?_name⟩

instance (name : Text) : Decidable (IsTagName name) :=
  decidable_of_iff _ tagLine?_eq_name_iff

theorem prefix_of_tagLine? {line name value : Text} (h : tagLine? line = some (name, value)) :
    name <+: line := by
  obtain ⟨-, ⟨rfl, -⟩ | ⟨c, -, rfl⟩⟩ := tagLine?_cases h
  · exact List.prefix_rfl
  · exact List.prefix_append ..

theorem suffix_of_tagLine? {line name value : Text} (h : tagLine? line = some (name, value)) :
    value <:+ line := by
  obtain ⟨-, ⟨rfl, rfl⟩ | ⟨c, -, rfl⟩⟩ := tagLine?_cases h
  · exact List.nil_suffix
  · exact (List.suffix_cons c value).trans (List.suffix_append ..)

theorem ink_of_tagLine? {line name value : Text} (h : tagLine? line = some (name, value)) :
    ink line = ink name ++ ink value := by
  obtain ⟨-, ⟨rfl, rfl⟩ | ⟨c, hc, rfl⟩⟩ := tagLine?_cases h
  · rw [ink_nil, List.append_nil]
  · rw [ink_append, ink_cons_of_isBlank (isBlank_of_isIndent hc)]

/-- A tag name has ink: its `@`. -/
theorem IsTagName.ink_ne_nil {name : Text} (h : IsTagName name) : ink name ≠ [] := by
  obtain ⟨word, rfl, -, -⟩ := h
  rw [ink_cons_of_not_isBlank (by decide)]
  simp

/-! ## Blocks -/

@[simp] theorem blocks_nil (fenced : Bool) (current : Block) :
    blocks fenced current [] = [current] := rfl

theorem blocks_cons_of_tagLine {current : Block} {line name value : Text} {rest : List Text}
    (h : tagLine? line = some (name, value)) :
    blocks false current (line :: rest) = current :: blocks false ⟨name, [value]⟩ rest := by
  rw [blocks]
  simp [h]

theorem blocks_cons_of_not_tagLine {fenced : Bool} {current : Block} {line : Text}
    {rest : List Text} (h : fenced = false → tagLine? line = none) :
    blocks fenced current (line :: rest) =
      blocks (fenced != isFence line) ⟨current.name, current.lines ++ [line]⟩ rest := by
  rw [blocks]
  cases fenced with
  | true => simp
  | false => simp [h rfl]

/-- Where reading stands after a line: either the line opens a tag outside of fences, or the
    line joins the open block. -/
theorem blocks_cons_cases (fenced : Bool) (current : Block) (line : Text) (rest : List Text) :
    (∃ name value, fenced = false ∧ tagLine? line = some (name, value) ∧
        blocks fenced current (line :: rest) = current :: blocks false ⟨name, [value]⟩ rest) ∨
      ((fenced = false → tagLine? line = none) ∧ blocks fenced current (line :: rest) =
        blocks (fenced != isFence line) ⟨current.name, current.lines ++ [line]⟩ rest) := by
  cases fenced with
  | true =>
    have hnot : true = false → tagLine? line = none := fun h => by cases h
    exact Or.inr ⟨hnot, blocks_cons_of_not_tagLine hnot⟩
  | false =>
    cases h : tagLine? line with
    | none => exact Or.inr ⟨fun _ => rfl, blocks_cons_of_not_tagLine fun _ => h⟩
    | some nv => exact Or.inl ⟨nv.1, nv.2, rfl, rfl, blocks_cons_of_tagLine h⟩

/-- The open block comes first and can only grow. -/
theorem exists_blocks_eq_cons (fenced : Bool) (current : Block) (ls : List Text) :
    ∃ more rest, blocks fenced current ls = ⟨current.name, current.lines ++ more⟩ :: rest := by
  induction ls generalizing fenced current with
  | nil => exact ⟨[], [], by simp⟩
  | cons l ls ih =>
    rcases blocks_cons_cases fenced current l ls with ⟨name, value, -, -, heq⟩ | ⟨-, heq⟩
    · exact ⟨[], _, by rw [heq, List.append_nil]⟩
    · obtain ⟨more, rest, h⟩ := ih (fenced != isFence l) ⟨current.name, current.lines ++ [l]⟩
      exact ⟨l :: more, rest, by rw [heq, h, List.append_assoc, List.singleton_append]⟩

/-- What holds of the names and the lines going in holds of those coming out, if a line
    that opens a tag passes it on to its name and its text. -/
theorem blocks_forall {N L : Text → Prop}
    (hopen : ∀ line name value, L line → tagLine? line = some (name, value) → N name ∧ L value)
    (fenced : Bool) (current : Block) (ls : List Text) (hname : N current.name)
    (hcurrent : ∀ l ∈ current.lines, L l) (hls : ∀ l ∈ ls, L l) :
    ∀ b ∈ blocks fenced current ls, N b.name ∧ ∀ l ∈ b.lines, L l := by
  induction ls generalizing fenced current with
  | nil =>
    intro b hb
    obtain rfl : b = current := by simpa using hb
    exact ⟨hname, hcurrent⟩
  | cons l ls ih =>
    have hl : L l := hls l (List.mem_cons_self ..)
    have hrest : ∀ m ∈ ls, L m := fun m hm => hls m (List.mem_cons_of_mem _ hm)
    rcases blocks_cons_cases fenced current l ls with ⟨name, value, -, htag, heq⟩ | ⟨-, heq⟩
    · obtain ⟨hN, hL⟩ := hopen l name value hl htag
      rw [heq]
      intro b hb
      rcases List.mem_cons.1 hb with rfl | hb
      · exact ⟨hname, hcurrent⟩
      · exact ih false ⟨name, [value]⟩ hN (by simpa using hL) hrest b hb
    · rw [heq]
      refine ih _ _ hname ?_ hrest
      intro m hm
      rcases List.mem_append.1 hm with hm | hm
      · exact hcurrent m hm
      · rw [List.mem_singleton.1 hm]
        exact hl

/-- Reading keeps all ink in order: of the open block, then of the lines. -/
theorem ink_blocks (fenced : Bool) (current : Block) (ls : List Text) :
    (blocks fenced current ls).flatMap (fun b => ink b.name ++ b.lines.flatMap ink) =
      ink current.name ++ current.lines.flatMap ink ++ ls.flatMap ink := by
  induction ls generalizing fenced current with
  | nil => simp
  | cons l ls ih =>
    rcases blocks_cons_cases fenced current l ls with ⟨name, value, -, htag, heq⟩ | ⟨-, heq⟩
    · rw [heq, List.flatMap_cons, ih, List.flatMap_singleton, List.flatMap_cons,
        ink_of_tagLine? htag]
    · rw [heq, ih, List.flatMap_append, List.flatMap_singleton, List.flatMap_cons,
        List.append_assoc, List.append_assoc, List.append_assoc]

theorem ink_tag (b : Block) : ink b.tag.value = b.lines.flatMap ink := by
  rw [Block.tag, ink_trim, ink_unlines]

/-! ## Values -/

/-- A value as it is read: no white space at its ends and none at the end of a line. -/
structure Tidy (value : Text) : Prop where
  start : StartsTidy value
  stop : EndsTidy value
  lines : LinesTidy value

instance (value : Text) : Decidable (Tidy value) :=
  decidable_of_iff (StartsTidy value ∧ EndsTidy value ∧ LinesTidy value)
    ⟨fun h => ⟨h.1, h.2.1, h.2.2⟩, fun h => ⟨h.start, h.stop, h.lines⟩⟩

theorem Tidy.trim {value : Text} (h : Tidy value) : trim value = value :=
  trim_of_tidy h.start h.stop

/-- The value of a block of tidy lines is tidy. -/
theorem tidy_tag {b : Block} (h : ∀ l ∈ b.lines, EndsTidy l ∧ '\n' ∉ l) : Tidy b.tag.value where
  start := startsTidy_trim _
  stop := endsTidy_trim _
  lines := by
    refine LinesTidy.trim ?_
    cases hb : b.lines with
    | nil =>
      intro l hl
      rw [List.mem_singleton.1 hl]
      exact endsTidy_nil
    | cons m ms =>
      intro l hl
      rw [← hb, lines_unlines (by simp [hb]) fun l hl => (h l hl).2] at hl
      exact (h l hl).1

/-! ## The tags that are read -/

/-- The tags of lines that are read. -/
def readTags (ls : List Text) : List Tag :=
  ((blocks false ⟨Tag.descName, []⟩ ls).map Block.tag).dropWhile isSilent

theorem parse_eq (comment : Text) : parse comment = readTags (readLines comment) := by
  rw [readTags, ← map_cleanLine_lines_body]
  rfl

theorem isSilent_iff {tag : Tag} : isSilent tag = true ↔ tag = ⟨Tag.descName, []⟩ := by
  obtain ⟨name, value⟩ := tag
  simp [isSilent]

theorem isTagName_descName : IsTagName Tag.descName := by
  decide +kernel

/-- A tag that is read comes from a block. -/
theorem exists_block_of_mem_readTags {ls : List Text} {tag : Tag} (h : tag ∈ readTags ls) :
    ∃ b ∈ blocks false ⟨Tag.descName, []⟩ ls, b.tag = tag :=
  List.mem_map.1 ((List.dropWhile_sublist _).subset h)

/-- The first tag that is read says something. -/
theorem readTags_head (ls : List Text) : (readTags ls).head? ≠ some ⟨Tag.descName, []⟩ := by
  intro h
  have hhead := List.head?_dropWhile_not isSilent
    ((blocks false ⟨Tag.descName, []⟩ ls).map Block.tag)
  rw [readTags] at h
  rw [h] at hhead
  have hsilent : isSilent ⟨Tag.descName, []⟩ = false := hhead
  rw [isSilent_iff.2 rfl] at hsilent
  cases hsilent

/-- What every read tag is like. -/
theorem parse_form {comment : Text} {tag : Tag} (h : tag ∈ parse comment) :
    IsTagName tag.name ∧ Tidy tag.value := by
  rw [parse_eq] at h
  obtain ⟨b, hb, rfl⟩ := exists_block_of_mem_readTags h
  have hopen : ∀ line name value, (EndsTidy line ∧ '\n' ∉ line) →
      tagLine? line = some (name, value) → IsTagName name ∧ EndsTidy value ∧ '\n' ∉ value := by
    intro line name value hline htag
    have hsuffix := suffix_of_tagLine? htag
    exact ⟨(tagLine?_cases htag).1, hline.1.of_suffix hsuffix,
      fun hmem => hline.2 (hsuffix.subset hmem)⟩
  obtain ⟨hname, hlines⟩ := blocks_forall hopen false _ (readLines comment) isTagName_descName
    (by simp) (fun l hl => ⟨endsTidy_of_mem_readLines hl, newline_not_mem_of_mem_readLines hl⟩) b hb
  exact ⟨hname, tidy_tag hlines⟩

end TypedDocs.Comment
