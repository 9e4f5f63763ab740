/-
  Writing the tags of a comment again.

  The tags that are read from a comment need not be read back from the comment
  that is written for them.  Writing moves the text of a tag up to the line of
  its name, and it leaves out the name of a description in first place.  A line
  of backticks counts as a fence only if it has a line of its own, so one that
  opens a text can begin or cease to count, and then every line behind it is
  read on the wrong side of a fence.  And a description without its name must
  not begin like a tag.

  `Stable` says this of the blocks of the comment as it stands, and it is exact:
  the tags are read back if and only if the comment is stable.
-/

import TypedDocs.Proofs.Comment.Format
import TypedDocs.Proofs.Text.Spoken

namespace TypedDocs.Comment

open Text WrittenLine

/-! ## Lines on either side of a fence -/

theorem not_isTagLine_nil : ¬ IsTagLine [] := by
  decide

/-- A line that opens a fence does not open a tag. -/
theorem not_isTagLine_of_isFence {l : Text} (h : isFence l = true) : ¬ IsTagLine l := by
  rintro ⟨name, rest, rfl, ⟨word, rfl, -, -⟩, -⟩
  have hat : isBlank '@' = false := by decide
  simp [isFence, trimStart, hat] at h

theorem isFence_trimStart (l : Text) : isFence (trimStart l) = isFence l := by
  unfold isFence
  rw [trimStart_of_startsTidy (startsTidy_trimStart l)]

theorem fencedAfter_append (fenced : Bool) (a b : List WrittenLine) :
    fencedAfter fenced (a ++ b) = fencedAfter (fencedAfter fenced a) b :=
  List.foldl_append

/-- Empty lines are read alike on either side of a fence. -/
theorem legible_replicate (fenced : Bool) (n : Nat) (rest : List WrittenLine) :
    (Legible fenced ((List.replicate n []).map continuing ++ rest) ↔ Legible fenced rest) ∧
      fencedAfter fenced ((List.replicate n []).map continuing ++ rest) =
        fencedAfter fenced rest := by
  induction n with
  | zero => exact ⟨Iff.rfl, rfl⟩
  | succ n ih =>
    have hflag : (fenced != isFence []) = fenced := by cases fenced <;> rfl
    refine ⟨?_, ?_⟩
    · rw [List.replicate_succ, List.map_cons, List.cons_append, legible_continuing, hflag, ih.1]
      exact and_iff_right fun _ => not_isTagLine_nil
    · rw [← ih.2, List.replicate_succ, List.map_cons, List.cons_append]
      exact congrArg (List.foldl _ · _) hflag

/-- On the other side of a fence, the flag behind some lines is the other one. -/
theorem fencedAfter_not (fenced : Bool) (ls : List Text) :
    fencedAfter (!fenced) (ls.map continuing) = !fencedAfter fenced (ls.map continuing) := by
  induction ls generalizing fenced with
  | nil => rfl
  | cons l ls ih =>
    have hflag : ((!fenced) != isFence l) = !(fenced != isFence l) := by
      cases fenced <;> cases isFence l <;> rfl
    exact (congrArg (List.foldl _ · _) hflag).trans (ih _)

/-- Lines that are legible on one side of a fence are legible on the other only if none of them
    looks like a line that opens a tag. -/
theorem legible_not_iff {fenced : Bool} {ls : List Text}
    (h : Legible fenced (ls.map continuing)) :
    Legible (!fenced) (ls.map continuing) ↔ ∀ l ∈ ls, ¬ IsTagLine l := by
  induction ls generalizing fenced with
  | nil => simp [Legible]
  | cons l ls ih =>
    obtain ⟨hfits, hrest⟩ := legible_continuing.1 h
    have hflag : ((!fenced) != isFence l) = !(fenced != isFence l) := by
      cases fenced <;> cases isFence l <;> rfl
    rw [List.map_cons, legible_continuing, hflag, ih hrest, List.forall_mem_cons]
    refine and_congr_left fun _ => ?_
    cases fenced with
    | false => exact ⟨fun _ => hfits rfl, fun hl _ => hl⟩
    | true => exact ⟨fun hl => hl rfl, fun hl _ => hl⟩

/-! ## Blocks as they are read -/

/-- The text on the line of a block's name; the block in front has a line without one. -/
def Block.onName (b : Block) : Text :=
  b.lines.headD []

/-- The lines of a block behind the line of its name. -/
def Block.below (b : Block) : List Text :=
  b.lines.tail

/-- What reading ensures of a list of blocks: the lines below a name are read in their role, and
    every fence is closed before the next name. -/
def IsRead : List Block → Prop
  | [] => True
  | b :: bs => (b.lines ≠ [] ∧ Legible false (b.below.map continuing) ∧
      (bs ≠ [] → fencedAfter false (b.below.map continuing) = false)) ∧ IsRead bs

theorem isRead_blocks {fenced : Bool} (name first : Text) (below ls : List Text)
    (h : Legible false (below.map continuing))
    (hflag : fencedAfter false (below.map continuing) = fenced) :
    IsRead (blocks fenced ⟨name, first :: below⟩ ls) := by
  induction ls generalizing fenced name first below with
  | nil => exact ⟨⟨by simp, h, fun hne => absurd rfl hne⟩, trivial⟩
  | cons l ls ih =>
    rcases blocks_cons_cases fenced ⟨name, first :: below⟩ l ls with
      ⟨name', value, rfl, -, heq⟩ | ⟨hnot, heq⟩
    · rw [heq]
      exact ⟨⟨by simp, h, fun _ => hflag⟩, ih name' value [] trivial rfl⟩
    · rw [heq]
      refine ih name first (below ++ [l]) ?_ ?_
      · rw [List.map_append, legible_append, hflag]
        have hline : fenced = false → ¬ IsTagLine l := by
          intro hf
          rw [← tagLine?_isSome, hnot hf]
          simp
        exact ⟨h, hline, trivial⟩
      · rw [List.map_append, fencedAfter_append, hflag]
        rfl

theorem IsRead.dropWhile {bs : List Block} (h : IsRead bs) (p : Block → Bool) :
    IsRead (bs.dropWhile p) := by
  induction bs with
  | nil => exact h
  | cons b bs ih =>
    rw [List.dropWhile_cons]
    split
    · exact ih h.2
    · exact h

/-- The blocks of a comment that make up its tags.  The block in front, which no name opens, begins
    with an empty line in the place of one. -/
def readBlocks (comment : Text) : List Block :=
  (blocks false ⟨Tag.descName, [[]]⟩ (readLines comment)).dropWhile fun b => isSilent b.tag

theorem tag_nil_cons (name : Text) (ls : List Text) :
    Block.tag ⟨name, [] :: ls⟩ = Block.tag ⟨name, ls⟩ := by
  rw [Block.tag, Block.tag, ← trim_unlines_spoken, spoken_nil_cons, trim_unlines_spoken]

theorem map_tag_blocks_nil_cons (fenced : Bool) (name : Text) (current ls : List Text) :
    (blocks fenced ⟨name, [] :: current⟩ ls).map Block.tag =
      (blocks fenced ⟨name, current⟩ ls).map Block.tag := by
  induction ls generalizing fenced current with
  | nil => rw [blocks_nil, blocks_nil, List.map_singleton, List.map_singleton, tag_nil_cons]
  | cons l ls ih =>
    rw [blocks, blocks]
    split
    · rw [List.map_cons, List.map_cons, tag_nil_cons]
    · exact ih _ (current ++ [l])

theorem map_tag_readBlocks (comment : Text) : (readBlocks comment).map Block.tag = parse comment := by
  rw [parse_eq, readTags, ← map_tag_blocks_nil_cons, List.dropWhile_map]
  rfl

theorem isRead_readBlocks (comment : Text) : IsRead (readBlocks comment) :=
  (isRead_blocks Tag.descName [] [] (readLines comment) trivial rfl).dropWhile _

theorem tidy_of_mem_readBlocks {comment : Text} {b : Block} (hb : b ∈ readBlocks comment) :
    ∀ l ∈ b.lines, EndsTidy l ∧ '\n' ∉ l := by
  have hopen : ∀ line name value, (EndsTidy line ∧ '\n' ∉ line) →
      tagLine? line = some (name, value) → True ∧ EndsTidy value ∧ '\n' ∉ value := by
    intro line name value hline htag
    have hsuffix := suffix_of_tagLine? htag
    exact ⟨trivial, hline.1.of_suffix hsuffix, fun hmem => hline.2 (hsuffix.subset hmem)⟩
  have hread : ∀ l ∈ readLines comment, EndsTidy l ∧ '\n' ∉ l :=
    fun l hl => ⟨endsTidy_of_mem_readLines hl, newline_not_mem_of_mem_readLines hl⟩
  have hfirst : ∀ l ∈ [([] : Text)], EndsTidy l ∧ '\n' ∉ l := by
    simp [endsTidy_nil]
  exact (blocks_forall (N := fun _ => True) hopen false _ _ trivial hfirst hread b
    ((List.dropWhile_sublist _).subset hb)).2

/-! ## What writing does to a block -/

/-- The first line of a block that says something. -/
def Block.lead (b : Block) : Text :=
  (spoken b.lines).headD []

/-- Whether the text of a block begins with a fence that had a line of its own and is written
    behind the name, or the other way round.  `bare` says that the name is left out. -/
def Block.movesFence (bare : Bool) (b : Block) : Bool :=
  isFence b.lead && (bare == !b.onName.isEmpty)

/-- The fence flag behind the first line that says something, as it was read. -/
def Block.readFlag (b : Block) : Bool :=
  b.onName.isEmpty && isFence b.lead

/-- The fence flag behind this line, as it is written. -/
def Block.writtenFlag (bare : Bool) (b : Block) : Bool :=
  bare && isFence b.lead

theorem writtenFlag_eq (bare : Bool) (b : Block) :
    b.writtenFlag bare = (b.readFlag != b.movesFence bare) := by
  unfold Block.writtenFlag Block.readFlag Block.movesFence
  cases bare <;> cases isFence b.lead <;> cases b.onName.isEmpty <;> rfl

/-- How the lines behind the first one that says something were read. -/
theorem read_spoken {b : Block} (hne : b.lines ≠ []) {l : Text} {rest : List Text}
    (h : spoken b.lines = l :: rest) :
    (Legible false (b.below.map continuing) → Legible b.readFlag (rest.map continuing)) ∧
      fencedAfter false (b.below.map continuing) = fencedAfter b.readFlag (rest.map continuing) := by
  obtain ⟨name, lines⟩ := b
  obtain ⟨first, below, rfl⟩ := List.exists_cons_of_ne_nil hne
  have hlead : Block.lead ⟨name, first :: below⟩ = l := by rw [Block.lead, h]; rfl
  have hbelow : Block.below ⟨name, first :: below⟩ = below := rfl
  by_cases hfirst : first = []
  · -- The text begins below the name, behind empty lines.
    subst hfirst
    have hflag : Block.readFlag ⟨name, [] :: below⟩ = (false != isFence l) := by
      rw [Block.readFlag, hlead, Bool.false_bne]
      rfl
    have hspoken : spoken below = l :: rest := h
    obtain ⟨-, n, hlines⟩ := spoken_eq_cons hspoken
    have hblank := legible_replicate false n ((l :: rest).map continuing)
    rw [hflag, hbelow, hlines, List.map_append, hblank.1, hblank.2]
    exact ⟨fun hread => (legible_continuing.1 hread).2, rfl⟩
  · -- The text begins behind the name, where it does not count as a fence.
    have hflag : Block.readFlag ⟨name, first :: below⟩ = false := by
      have hempty : first.isEmpty = false := by simpa using hfirst
      rw [Block.readFlag, Block.onName, List.headD_cons, hempty, Bool.false_and]
    rw [spoken_cons hfirst, List.cons.injEq] at h
    rw [hbelow, hflag, h.2]
    exact ⟨id, rfl⟩

/-- How these lines are legible when they are written again. -/
theorem written_spoken (bare : Bool) {b : Block} (htidy : ∀ l ∈ b.lines, EndsTidy l ∧ '\n' ∉ l)
    {l : Text} {rest : List Text} (h : spoken b.lines = l :: rest) :
    (Legible false (written bare b.tag) ↔ (bare = true → ¬ IsTagLine (trimStart l)) ∧
        Legible (b.writtenFlag bare) (rest.map continuing)) ∧
      fencedAfter false (written bare b.tag) =
        fencedAfter (b.writtenFlag bare) (rest.map continuing) := by
  obtain ⟨said, n, rfl, hlines⟩ := lines_trim_unlines htidy h
  have hvalue : lines b.tag.value = trimStart l :: said := hlines
  have hflag : b.writtenFlag bare = (bare && isFence l) := by
    rw [Block.writtenFlag, Block.lead, h]
    rfl
  -- Empty lines at the end are not written, and make no difference.
  have hend : ∀ flag, (Legible flag ((said ++ List.replicate n []).map continuing) ↔
        Legible flag (said.map continuing)) ∧
      fencedAfter flag ((said ++ List.replicate n []).map continuing) =
        fencedAfter flag (said.map continuing) := by
    intro flag
    have hblank := legible_replicate (fencedAfter flag (said.map continuing)) n []
    rw [List.append_nil] at hblank
    rw [List.map_append, legible_append, hblank.1, fencedAfter_append, hblank.2]
    exact ⟨and_iff_left trivial, rfl⟩
  rw [written_eq bare hvalue, (hend _).1, (hend _).2, hflag]
  cases bare with
  | false =>
    rw [Bool.not_false, legible_opening, Bool.false_and]
    exact ⟨by simp, rfl⟩
  | true =>
    have hfence : (false != isFence (trimStart l)) = (true && isFence l) := by
      rw [isFence_trimStart, Bool.false_bne, Bool.true_and]
    have hbare : (⟨!true, headLine true b.tag.name (trimStart l)⟩ : WrittenLine) =
        continuing (trimStart l) := rfl
    rw [hbare, legible_continuing, hfence]
    exact ⟨by simp, congrArg (List.foldl _ · _) hfence⟩

/-- A block that says nothing is written as a line that is legible. -/
theorem written_silent (bare : Bool) {b : Block} (h : spoken b.lines = []) :
    Legible false (written bare b.tag) ∧ fencedAfter false (written bare b.tag) = false := by
  have hvalue : b.tag.value = [] := by
    rw [Block.tag, ← trim_unlines_spoken, h]
    rfl
  have hlines : lines b.tag.value = [[]] := by rw [hvalue, lines_nil]
  rw [written_eq bare hlines]
  cases bare with
  | false => exact ⟨⟨rfl, trivial⟩, rfl⟩
  | true => exact ⟨⟨fun _ => not_isTagLine_nil, trivial⟩, rfl⟩

/-- A block is legible when it is written again, unless it is bare and begins like a tag, or its
    fence moves and leaves a line that looks like one that opens a tag outside. -/
theorem legible_written_iff (bare : Bool) {b : Block} (hne : b.lines ≠ [])
    (htidy : ∀ l ∈ b.lines, EndsTidy l ∧ '\n' ∉ l)
    (hread : Legible false (b.below.map continuing)) :
    Legible false (written bare b.tag) ↔ (bare = true → ¬ IsTagLine (trimStart b.lead)) ∧
      (b.movesFence bare = true → ∀ l ∈ b.lines, ¬ IsTagLine l) := by
  cases hspoken : spoken b.lines with
  | nil =>
    have hlead : b.lead = [] := by rw [Block.lead, hspoken]; rfl
    have hmoves : b.movesFence bare = false := by rw [Block.movesFence, hlead]; rfl
    rw [hlead, hmoves]
    exact iff_of_true (written_silent bare hspoken).1 ⟨fun _ => not_isTagLine_nil, by simp⟩
  | cons l rest =>
    have hlead : b.lead = l := by rw [Block.lead, hspoken]; rfl
    have hrest := (read_spoken hne hspoken).1 hread
    rw [(written_spoken bare htidy hspoken).1, writtenFlag_eq, hlead]
    refine and_congr_right fun _ => ?_
    cases hmoves : b.movesFence bare with
    | false =>
      rw [Bool.bne_false]
      exact iff_of_true hrest (by simp)
    | true =>
      -- Behind the fence that moved, every line is on the other side of a fence.
      have hfence : isFence l = true := by
        rw [Block.movesFence, hlead, Bool.and_eq_true] at hmoves
        exact hmoves.1
      obtain ⟨-, n, hlines⟩ := spoken_eq_cons hspoken
      rw [Bool.bne_true, legible_not_iff hrest, hlines, List.forall_mem_append,
        List.forall_mem_cons]
      have hempty : ∀ m ∈ List.replicate n ([] : Text), ¬ IsTagLine m := by
        intro m hm
        rw [List.eq_of_mem_replicate hm]
        exact not_isTagLine_nil
      exact ⟨fun hall _ => ⟨hempty, not_isTagLine_of_isFence hfence, hall⟩,
        fun hall => (hall rfl).2.2⟩

/-- A fence that moves turns the flag behind the block around. -/
theorem fencedAfter_written (bare : Bool) {b : Block} (hne : b.lines ≠ [])
    (htidy : ∀ l ∈ b.lines, EndsTidy l ∧ '\n' ∉ l) :
    fencedAfter false (written bare b.tag) =
      (fencedAfter false (b.below.map continuing) != b.movesFence bare) := by
  cases hspoken : spoken b.lines with
  | nil =>
    have hlead : b.lead = [] := by rw [Block.lead, hspoken]; rfl
    have hmoves : b.movesFence bare = false := by rw [Block.movesFence, hlead]; rfl
    have hbelow : b.below = List.replicate b.below.length [] := by
      have hall := spoken_eq_nil hspoken
      rw [Block.below, hall, List.tail_replicate, List.length_replicate]
    have hblank := (legible_replicate false b.below.length []).2
    rw [List.append_nil, ← hbelow] at hblank
    rw [(written_silent bare hspoken).2, hmoves, hblank]
    rfl
  | cons l rest =>
    rw [(written_spoken bare htidy hspoken).2, (read_spoken hne hspoken).2, writtenFlag_eq]
    cases b.movesFence bare with
    | false => rw [Bool.bne_false, Bool.bne_false]
    | true => rw [Bool.bne_true, Bool.bne_true, fencedAfter_not]

/-! ## Stable comments -/

/-- The fence that a block begins with, if there is one and it moves, moves harmlessly: no tag
    comes behind it, and no line of the block looks like one. -/
def Block.Keeps (bare : Bool) (b : Block) (rest : List Block) : Prop :=
  b.movesFence bare = true → rest = [] ∧ ∀ l ∈ b.lines, ¬ IsTagLine l

instance (bare : Bool) (b : Block) (rest : List Block) : Decidable (b.Keeps bare rest) :=
  inferInstanceAs (Decidable (_ → _))

/-- No block moves a fence to harm. -/
def KeepsFences : List Block → Prop
  | [] => True
  | b :: bs => b.Keeps false bs ∧ KeepsFences bs

instance decidableKeepsFences : (bs : List Block) → Decidable (KeepsFences bs)
  | [] => isTrue trivial
  | _ :: bs =>
    have := decidableKeepsFences bs
    inferInstanceAs (Decidable (_ ∧ _))

/-- Writing the blocks again changes nothing: no fence moves to harm, and a description in first
    place, whose name is left out, does not begin like a tag. -/
def Stable : List Block → Prop
  | [] => True
  | b :: bs => (b.name = Tag.descName → ¬ IsTagLine (trimStart b.lead)) ∧
      b.Keeps (b.name == Tag.descName) bs ∧ KeepsFences bs

instance : (bs : List Block) → Decidable (Stable bs)
  | [] => isTrue trivial
  | _ :: _ => inferInstanceAs (Decidable (_ ∧ _))

/-- Behind an open fence no tag is legible. -/
theorem not_legible_fenced {tags : List Tag} (hne : tags ≠ []) :
    ¬ Legible true (tags.flatMap (written false)) := by
  obtain ⟨tag, tags, rfl⟩ := List.exists_cons_of_ne_nil hne
  obtain ⟨first, rest, hlines⟩ := exists_lines_eq_cons tag.value
  rw [List.flatMap_cons, written_eq false hlines, List.cons_append, Bool.not_false,
    legible_opening]
  simp

/-- A block and the tags behind it. -/
theorem legible_written_append_iff (bare : Bool) {b : Block} {bs : List Block}
    (hread : IsRead (b :: bs)) (htidy : ∀ l ∈ b.lines, EndsTidy l ∧ '\n' ∉ l) :
    Legible false (written bare b.tag ++ (bs.map Block.tag).flatMap (written false)) ↔
      (bare = true → ¬ IsTagLine (trimStart b.lead)) ∧ b.Keeps bare bs ∧
        Legible false ((bs.map Block.tag).flatMap (written false)) := by
  obtain ⟨⟨hne, hbelow, hclosed⟩, -⟩ := hread
  rw [legible_append, legible_written_iff bare hne htidy hbelow, fencedAfter_written bare hne htidy,
    and_assoc]
  refine and_congr_right fun _ => ?_
  unfold Block.Keeps
  cases hmoves : b.movesFence bare with
  | false =>
    by_cases hbs : bs = []
    · subst hbs
      simp [Legible]
    · rw [hclosed hbs]
      simp
  | true =>
    by_cases hbs : bs = []
    · subst hbs
      simp [Legible]
    · rw [hclosed hbs]
      have hfenced := not_legible_fenced (List.map_eq_nil_iff.not.2 hbs : bs.map Block.tag ≠ [])
      simp [hbs, hfenced]

theorem legible_flatMap_written_iff {bs : List Block} (hread : IsRead bs)
    (htidy : ∀ b ∈ bs, ∀ l ∈ b.lines, EndsTidy l ∧ '\n' ∉ l) :
    Legible false ((bs.map Block.tag).flatMap (written false)) ↔ KeepsFences bs := by
  induction bs with
  | nil => exact Iff.rfl
  | cons b bs ih =>
    obtain ⟨hb, hbs⟩ := List.forall_mem_cons.1 htidy
    rw [List.map_cons, List.flatMap_cons, legible_written_append_iff false hread hb,
      ih hread.2 hbs]
    simp [KeepsFences]

/-- The tags of read blocks are legible if the blocks are stable. -/
theorem legible_writtenLines_iff {bs : List Block} (hread : IsRead bs)
    (htidy : ∀ b ∈ bs, ∀ l ∈ b.lines, EndsTidy l ∧ '\n' ∉ l) :
    Legible false (writtenLines (bs.map Block.tag)) ↔ Stable bs := by
  cases bs with
  | nil => exact Iff.rfl
  | cons b bs =>
    obtain ⟨hb, hbs⟩ := List.forall_mem_cons.1 htidy
    have hname : b.tag.name = b.name := rfl
    rw [List.map_cons, writtenLines, legible_written_append_iff _ hread hb,
      legible_flatMap_written_iff hread.2 hbs, hname, Stable, beq_iff_eq]

/-- The tags of a comment are read back from the comment written for them exactly if the comment is
    stable. -/
theorem parse_build_parse_iff (comment indent : Text) (hindent : indent.all isIndent = true) :
    parse (build (parse comment) indent) = parse comment ↔ Stable (readBlocks comment) := by
  have hform : ∀ tag ∈ parse comment, IsTagName tag.name ∧ Tidy tag.value := fun _ => parse_form
  have hhead : (parse comment).head? ≠ some ⟨Tag.descName, []⟩ := by
    rw [parse_eq]
    exact readTags_head _
  rw [← legible_writtenLines_iff (isRead_readBlocks comment) fun _ => tidy_of_mem_readBlocks,
    map_tag_readBlocks]
  by_cases hne : parse comment = []
  · rw [hne, parse_build_nil]
    exact iff_of_true rfl trivial
  · rw [parse_build hne hindent hform]
    exact ⟨legible_of_readTags hne fun tag htag => (hform tag htag).1,
      readTags_of_legible hne hform hhead⟩

def fencedComment : Text :=
  ("/**\n *\n * ```\n * @see f\n * ```\n * @desc again\n * @returns  {Foo}\n *   @see g\n" ++
    " * @example\n * ```\n * f()\n */").toList

/-- Fences that keep their lines are read back, and so is one that moves behind the last name and
    stays open there. -/
theorem parse_build_parse_fenced :
    " \t".toList.all isIndent = true ∧
      parse (build (parse fencedComment) " \t".toList) = parse fencedComment :=
  ⟨by decide, (parse_build_parse_iff fencedComment " \t".toList (by decide)).2 (by decide +kernel)⟩

def exampledComment : Text :=
  "/**\n * @example\n * ```\n * f()\n * ```\n * @see g\n */".toList

/-- An example between backticks, with a tag behind it, is not read back: its first line of
    backticks moves up to the name, and the second one opens a fence around the tag. -/
theorem not_forall_parse_build_parse :
    ¬ ∀ comment indent : Text, indent.all isIndent = true →
      parse (build (parse comment) indent) = parse comment := by
  intro h
  have hread := h exampledComment [] rfl
  have hcode : parse (build (parse exampledComment) []) =
      [⟨"@example".toList, "```\nf()\n```\n@see g".toList⟩] := by
    decide +kernel
  have htags : parse exampledComment =
      [⟨"@example".toList, "```\nf()\n```".toList⟩, ⟨"@see".toList, "g".toList⟩] := by
    decide +kernel
  rw [hcode, htags] at hread
  exact absurd (congrArg List.length hread) (by decide)

end TypedDocs.Comment
