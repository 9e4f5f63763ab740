/-
  The grammar of a comment.

  Reading goes over the lines of a comment once and keeps track of the open tag
  and of fences.  The grammar says what the tags are without going over the
  lines: whether a line is a head can be told from the line and from the number
  of fences before it, and a segment reaches from its head to the next one.
  `blocks_eq_segments` is the invariant of the pass: what has been read so far
  counts only through its number of lines, the parity of its fences and the
  block that is open.
-/

import TypedDocs.Proofs.Comment.Border
import TypedDocs.Proofs.Comment.Rewriting
import Mathlib.Algebra.Group.Nat.Even

namespace TypedDocs.Comment

open Text

/-! ## Fences and heads -/

/-- Three backticks, with nothing but white space in front. -/
def IsFenceLine (line : Text) : Prop :=
  ∃ white rest, line = white ++ "```".toList ++ rest ∧ ∀ c ∈ white, isBlank c = true

theorem isFence_iff {line : Text} : isFence line = true ↔ IsFenceLine line := by
  have htick : ¬ isBlank '`' = true := by decide
  unfold isFence
  rw [List.isPrefixOf_iff_prefix]
  constructor
  · rintro ⟨rest, hrest⟩
    refine ⟨line.takeWhile isBlank, rest, ?_, fun c hc => List.mem_takeWhile_imp hc⟩
    rw [List.append_assoc, hrest, trimStart, List.takeWhile_append_dropWhile]
  · rintro ⟨white, rest, rfl, hwhite⟩
    refine ⟨rest, ?_⟩
    rw [trimStart, List.append_assoc, List.dropWhile_append_of_pos hwhite]
    exact (List.dropWhile_cons_of_neg htick).symm

instance (line : Text) : Decidable (IsFenceLine line) :=
  decidable_of_iff _ isFence_iff

/-- How many of some lines are fences. -/
def fenceCount (ls : List Text) : Nat :=
  ls.countP fun l => IsFenceLine l

/-- A line with its number opens a tag: it has the form of a tag line, and the fences before it
    come in pairs. -/
def IsHead (ls : List Text) (line : Text × Nat) : Prop :=
  IsTagLine line.1 ∧ Even (fenceCount (ls.take line.2))

instance (ls : List Text) (line : Text × Nat) : Decidable (IsHead ls line) :=
  inferInstanceAs (Decidable (_ ∧ _))

/-- The name on a head: what stands before the first space or tab. -/
def headName (line : Text) : Text :=
  line.takeWhile fun c => !isIndent c

/-- The text on a head: what stands behind the first space or tab. -/
def headText (line : Text) : Text :=
  (line.dropWhile fun c => !isIndent c).tail

/-! ## Segments -/

/-- The lines from a number on, each with its number. -/
def linesFrom (ls : List Text) (number : Nat) : List (Text × Nat) :=
  (ls.drop number).zipIdx number

/-- The lines from a number on, up to the next head. -/
def upToHead (ls : List Text) (number : Nat) : List Text :=
  ((linesFrom ls number).takeWhile fun line => ¬ IsHead ls line).map Prod.fst

/-- The segments of the heads from a number on: the text on the head and the lines up to the next
    head. -/
def headSegments (ls : List Text) (number : Nat) : List Block :=
  ((linesFrom ls number).filter fun line => IsHead ls line).map fun line =>
    ⟨headName line.1, headText line.1 :: upToHead ls (line.2 + 1)⟩

/-- All segments: the description up to the first head, and one segment for each head. -/
def segments (ls : List Text) : List Block :=
  ⟨Tag.descName, upToHead ls 0⟩ :: headSegments ls 0

theorem headName_headText_of_tagLine? {line name value : Text}
    (h : tagLine? line = some (name, value)) : headName line = name ∧ headText line = value := by
  obtain ⟨⟨word, rfl, -, hword⟩, hline⟩ := tagLine?_cases h
  have hname : ∀ c ∈ '@' :: word, (!isIndent c) = true := by
    refine List.forall_mem_cons.2 ⟨by decide, fun c hc => ?_⟩
    cases hindent : isIndent c with
    | false => rfl
    | true =>
      have hblank := hword c hc
      rw [isWord_of_isIndent hindent] at hblank
      cases hblank
  unfold headName headText
  rcases hline with ⟨rfl, rfl⟩ | ⟨c, hc, rfl⟩
  · rw [List.takeWhile_eq_self_iff.2 hname, List.dropWhile_eq_nil_iff.2 hname]
    exact ⟨rfl, rfl⟩
  · have hstop : ¬ (!isIndent c) = true := by simp [hc]
    rw [List.takeWhile_append_of_pos hname,
      List.takeWhile_cons_of_neg (p := fun c => !isIndent c) hstop, List.append_nil,
      List.dropWhile_append_of_pos hname,
      List.dropWhile_cons_of_neg (p := fun c => !isIndent c) hstop]
    exact ⟨rfl, rfl⟩

/-! ## One line at a time -/

section Step

variable (before : List Text) (line : Text) (rest : List Text)

/-- One line, then the lines from the next number on. -/
theorem linesFrom_append :
    linesFrom (before ++ line :: rest) before.length =
      (line, before.length) :: linesFrom (before ++ line :: rest) (before.length + 1) := by
  have hdrop : (before ++ line :: rest).drop (before.length + 1) = rest := by
    rw [List.drop_append]
    simp
  rw [linesFrom, List.drop_left, List.zipIdx_cons, linesFrom, hdrop]

/-- Whether the line behind some lines is a head depends on them through their fences only. -/
theorem isHead_append_iff :
    IsHead (before ++ line :: rest) (line, before.length) ↔
      IsTagLine line ∧ Even (fenceCount before) := by
  unfold IsHead
  rw [List.take_left]

variable {before line rest}

theorem upToHead_of_isHead (h : IsHead (before ++ line :: rest) (line, before.length)) :
    upToHead (before ++ line :: rest) before.length = [] := by
  rw [upToHead, linesFrom_append, List.takeWhile_cons_of_neg (by simpa using h)]
  rfl

theorem upToHead_of_not_isHead (h : ¬ IsHead (before ++ line :: rest) (line, before.length)) :
    upToHead (before ++ line :: rest) before.length =
      line :: upToHead (before ++ line :: rest) (before.length + 1) := by
  rw [upToHead, linesFrom_append, List.takeWhile_cons_of_pos (by simpa using h)]
  rfl

theorem headSegments_of_isHead (h : IsHead (before ++ line :: rest) (line, before.length)) :
    headSegments (before ++ line :: rest) before.length =
      ⟨headName line, headText line :: upToHead (before ++ line :: rest) (before.length + 1)⟩ ::
        headSegments (before ++ line :: rest) (before.length + 1) := by
  rw [headSegments, linesFrom_append, List.filter_cons_of_pos (by simpa using h)]
  rfl

theorem headSegments_of_not_isHead (h : ¬ IsHead (before ++ line :: rest) (line, before.length)) :
    headSegments (before ++ line :: rest) before.length =
      headSegments (before ++ line :: rest) (before.length + 1) := by
  rw [headSegments, linesFrom_append, List.filter_cons_of_neg (by simpa using h)]
  rfl

end Step

/-- Whether an odd number of fences stands in some lines: the flag that reading keeps. -/
def isFenced (ls : List Text) : Bool :=
  ¬ Even (fenceCount ls)

/-- A fence flips the flag, and no other line does. -/
theorem isFenced_concat (ls : List Text) (line : Text) :
    isFenced (ls ++ [line]) = (isFenced ls != isFence line) := by
  unfold isFenced fenceCount
  rw [List.countP_append, List.countP_singleton]
  by_cases hfence : IsFenceLine line
  · rw [isFence_iff.2 hfence]
    by_cases heven : Even (ls.countP fun l => IsFenceLine l) <;>
      simp [hfence, heven, Nat.even_add_one]
  · rw [Bool.eq_false_iff.2 (mt isFence_iff.1 hfence)]
    simp [hfence]

theorem isFenced_concat_of_isTagLine {ls : List Text} {line : Text} (h : IsTagLine line) :
    isFenced (ls ++ [line]) = isFenced ls := by
  have hfence : isFence line = false :=
    Bool.eq_false_iff.2 fun hfence => not_isTagLine_of_isFence hfence h
  rw [isFenced_concat, hfence, Bool.bne_false]

/-- The pass over the lines `rest`, when the lines `before` have been read. -/
theorem blocks_eq_segments (before rest : List Text) (current : Block) :
    blocks (isFenced before) current rest =
      ⟨current.name, current.lines ++ upToHead (before ++ rest) before.length⟩ ::
        headSegments (before ++ rest) before.length := by
  -- Each line moves from `rest` to `before`; the numbers of lines count from the first one, so
  -- what the grammar says of later lines stays as it is.
  induction rest generalizing before current with
  | nil =>
    have hnone : linesFrom before before.length = [] := by
      rw [linesFrom, List.drop_length]
      rfl
    rw [List.append_nil, upToHead, headSegments, hnone]
    simp
  | cons line rest ih =>
    have hnext : before ++ line :: rest = (before ++ [line]) ++ rest := by simp
    have hlength : (before ++ [line]).length = before.length + 1 := by simp
    by_cases hhead : IsHead (before ++ line :: rest) (line, before.length)
    · -- The head ends the open block and starts its own; it is no fence.
      obtain ⟨htag, heven⟩ := (isHead_append_iff before line rest).1 hhead
      obtain ⟨⟨name, value⟩, htag?⟩ := Option.isSome_iff_exists.1 (tagLine?_isSome.2 htag)
      obtain ⟨hname, hvalue⟩ := headName_headText_of_tagLine? htag?
      have hopen : isFenced before = false := by simpa [isFenced] using heven
      have ih' := ih (before ++ [line]) ⟨headName line, [headText line]⟩
      rw [isFenced_concat_of_isTagLine htag, hopen, ← hnext, hlength] at ih'
      rw [hopen, blocks_cons_of_tagLine htag?, upToHead_of_isHead hhead,
        headSegments_of_isHead hhead, List.append_nil, ← hname, ← hvalue, ih',
        List.singleton_append]
    · -- The line joins the open block: it has no form of a head, or the flag keeps it from being one.
      have hplain : isFenced before = false → tagLine? line = none := by
        intro hopen
        refine tagLine?_eq_none fun htag => hhead ?_
        refine (isHead_append_iff before line rest).2 ⟨htag, ?_⟩
        simpa [isFenced] using hopen
      have ih' := ih (before ++ [line]) ⟨current.name, current.lines ++ [line]⟩
      rw [isFenced_concat, ← hnext, hlength] at ih'
      rw [blocks_cons_of_not_tagLine hplain, ih', upToHead_of_not_isHead hhead,
        headSegments_of_not_isHead hhead]
      simp

/-- Reading distributes lines over the segments of the grammar. -/
theorem blocks_eq (ls : List Text) :
    blocks false ⟨Tag.descName, []⟩ ls = segments ls :=
  blocks_eq_segments [] ls ⟨Tag.descName, []⟩

/-! ## The whole comment -/

/-- A description without text. -/
def Block.IsMute (segment : Block) : Prop :=
  segment.name = Tag.descName ∧ trim (unlines segment.lines) = []

theorem isSilent_tag_iff {segment : Block} : isSilent segment.tag = true ↔ segment.IsMute := by
  rw [isSilent_iff, Block.tag, Tag.mk.injEq, Block.IsMute]

/-- The lines of a comment, its segments and its tags. -/
theorem parse_eq_segments (comment : Text) :
    parse comment = (((segments ((lines (unixLines (unframed comment))).map cleanLine)).dropWhile
      fun segment => isSilent segment.tag).map Block.tag) := by
  rw [parse, body_eq, inner_eq_unframed, blocks_eq, List.dropWhile_map]
  rfl

/-- Comments are read by their grammar.  The lines are those between the marks of the comment,
    cleaned; heads divide them into segments; each segment gives a tag with its lines, joined and
    trimmed, for its value, except for the mute descriptions at the front.  All ink of the lines is
    ink of the segments, in order, and all ink of a segment is ink of its value. -/
theorem parse_grammar (comment : Text) :
    ∃ ls : List Text,
      (∀ clean, List.Forall₂ Cleans (lines (unixLines (unframed comment))) clean ↔ clean = ls) ∧
      (∃ mute kept, segments ls = mute ++ kept ∧ (∀ s ∈ mute, s.IsMute) ∧
        (∀ s, kept.head? = some s → ¬ s.IsMute) ∧
        parse comment = kept.map fun s => ⟨s.name, trim (unlines s.lines)⟩) ∧
      (segments ls).flatMap (fun s => ink s.name ++ s.lines.flatMap ink) =
        ink Tag.descName ++ ls.flatMap ink ∧
      ∀ s ∈ segments ls, ink (trim (unlines s.lines)) = s.lines.flatMap ink := by
  refine ⟨(lines (unixLines (unframed comment))).map cleanLine, fun _ => forall₂_cleans_iff,
    ?_, ?_, ?_⟩
  · generalize hls : (lines (unixLines (unframed comment))).map cleanLine = ls
    have hparse := parse_eq_segments comment
    rw [hls] at hparse
    refine ⟨(segments ls).takeWhile fun s => isSilent s.tag,
      (segments ls).dropWhile fun s => isSilent s.tag,
      List.takeWhile_append_dropWhile.symm, ?_, ?_, hparse⟩
    · intro s hs
      have hsilent := List.mem_takeWhile_imp hs
      exact isSilent_tag_iff.1 hsilent
    · intro s hs hmute
      have hhead := List.head?_dropWhile_not (fun s => isSilent s.tag) (segments ls)
      rw [hs] at hhead
      have hsilent : isSilent s.tag = false := hhead
      rw [isSilent_tag_iff.2 hmute] at hsilent
      cases hsilent
  · rw [← blocks_eq, ink_blocks]
    simp
  · intro s _
    rw [ink_trim, ink_unlines]

/-- A fence keeps the tag in it from being a head, and an empty description gives no tag. -/
example : parse "/**\n * @desc\n * @see x\n * ```\n * @not a tag\n * ```\n * @abstract */".toList =
    [⟨"@see".toList, "x\n```\n@not a tag\n```".toList⟩, ⟨"@abstract".toList, []⟩] := by
  decide +kernel

end TypedDocs.Comment
