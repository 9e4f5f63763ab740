/-
  The border of a comment.

  What reading takes off a comment, said without reference to how it is taken
  off.  Of the comment as a whole these are its two marks, each if it is there
  (`inner_eq_unframed`).  Of a line it is the longest beginning that has the
  form of a border, and the white space at the end; this leaves exactly one text
  (`cleans_iff`).
-/

import TypedDocs.Proofs.Comment.Layout

namespace TypedDocs.Text

/-! ## Affixes -/

theorem stripPrefix?_eq (p s : Text) :
    stripPrefix? p s = if p <+: s then some (s.drop p.length) else none := by
  fun_induction stripPrefix? p s with
  | case1 s => simp
  | case2 c p => simp
  | case3 c p s ih => simp [ih, List.cons_prefix_cons]
  | case4 c p d s hne => simp [List.cons_prefix_cons, hne]

theorem stripSuffix?_eq (p s : Text) :
    stripSuffix? p s = if p <:+ s then some (s.take (s.length - p.length)) else none := by
  rw [stripSuffix?, stripPrefix?_eq]
  simp only [List.reverse_prefix, List.length_reverse]
  split
  · rw [Option.map_some, List.drop_reverse, List.reverse_reverse]
  · rfl

theorem trimEnd_append_of_blank {s white : Text} (hs : EndsTidy s)
    (hwhite : ∀ c ∈ white, isBlank c = true) : trimEnd (s ++ white) = s := by
  induction white using List.reverseRecOn with
  | nil => rw [List.append_nil, trimEnd_of_endsTidy hs]
  | append_singleton white c ih =>
    rw [← List.append_assoc, trimEnd_append_blank (hwhite c (by simp))]
    exact ih fun d hd => hwhite d (by simp [hd])

end TypedDocs.Text

namespace TypedDocs.Comment

open Text

/-! ## The marks -/

/-- A comment without `/**` in front and `*/` at the end, where it has them. -/
def unframed (comment : Text) : Text :=
  let opened := if "/**".toList <+: comment then comment.drop 3 else comment
  if "*/".toList <:+ opened then opened.take (opened.length - 2) else opened

theorem inner_eq_unframed (comment : Text) : inner comment = unframed comment := by
  have hopen : (stripPrefix? "/**".toList comment).getD comment =
      if "/**".toList <+: comment then comment.drop 3 else comment := by
    rw [stripPrefix?_eq]
    split <;> rfl
  unfold inner unframed
  dsimp only
  rw [hopen, stripSuffix?_eq]
  generalize (if "/**".toList <+: comment then comment.drop 3 else comment) = opened
  split <;> rfl

/-! ## The border of a line -/

/-- Spaces and tabs, at most one star, and at most one more space or tab. -/
def IsBorder (b : Text) : Prop :=
  ∃ indent star blank, b = indent ++ star ++ blank ∧ (∀ c ∈ indent, isIndent c = true) ∧
    (star = [] ∨ star = ['*']) ∧ blank.length ≤ 1 ∧ ∀ c ∈ blank, isIndent c = true

/-- What is left of a line without the longest border in front of it and without the white space
    at its end. -/
def Cleans (raw line : Text) : Prop :=
  ∃ border white, raw = border ++ line ++ white ∧ IsBorder border ∧
    (∀ b, b <+: raw → IsBorder b → b.length ≤ border.length) ∧
    (∀ c ∈ white, isBlank c = true) ∧ EndsTidy line

theorem exists_dropStar (l : Text) :
    ∃ star, star ++ dropStar l = l ∧ (star = [] ∨ star = ['*']) ∧
      ∀ rest, l = '*' :: rest → star = ['*'] := by
  unfold dropStar
  split
  case h_1 rest => exact ⟨['*'], rfl, Or.inr rfl, fun _ _ => rfl⟩
  case h_2 hne => exact ⟨[], rfl, Or.inl rfl, fun rest h => absurd h (hne rest)⟩

theorem exists_dropBlank (l : Text) :
    ∃ blank, blank ++ dropBlank l = l ∧ blank.length ≤ 1 ∧ (∀ c ∈ blank, isIndent c = true) ∧
      ∀ c rest, l = c :: rest → isIndent c = true → blank = [c] := by
  cases l with
  | nil => exact ⟨[], rfl, by simp, by simp, by simp⟩
  | cons c l =>
    by_cases hc : isIndent c = true
    · refine ⟨[c], by simp [dropBlank, hc], by simp, by simpa using hc, ?_⟩
      intro d rest h _
      rw [(List.cons.inj h).1]
    · refine ⟨[], by simp [dropBlank, hc], by simp, by simp, ?_⟩
      intro d rest h hd
      rw [← (List.cons.inj h).1] at hd
      exact absurd hd hc

/-- A beginning of spaces and tabs is no longer than all of those in front. -/
theorem length_le_takeWhile {l b : Text} (hb : b <+: l) (hindent : ∀ c ∈ b, isIndent c = true) :
    b.length ≤ (l.takeWhile isIndent).length := by
  obtain ⟨rest, rfl⟩ := hb
  rw [List.takeWhile_append_of_pos hindent, List.length_append]
  omega

/-- What `undecorate` takes off is the longest border. -/
theorem exists_longest_border (raw : Text) :
    ∃ border, border ++ undecorate raw = raw ∧ IsBorder border ∧
      ∀ b, b <+: raw → IsBorder b → b.length ≤ border.length := by
  obtain ⟨star, hstar, hstarForm, hstarMax⟩ := exists_dropStar (raw.dropWhile isIndent)
  obtain ⟨blank, hblank, hblankLength, hblankForm, hblankMax⟩ :=
    exists_dropBlank (dropStar (raw.dropWhile isIndent))
  have hindent : ∀ c ∈ raw.takeWhile isIndent, isIndent c = true :=
    fun c hc => List.mem_takeWhile_imp hc
  refine ⟨raw.takeWhile isIndent ++ star ++ blank, ?_, ?_, ?_⟩
  · rw [undecorate_eq, List.append_assoc, hblank, List.append_assoc, hstar,
      List.takeWhile_append_dropWhile]
  · exact ⟨_, star, blank, rfl, hindent, hstarForm, hblankLength, hblankForm⟩
  · rintro b hb ⟨indent', star', blank', rfl, hindent', rfl | rfl, hlength', hblank'⟩
    · -- Without a star the border is nothing but spaces and tabs.
      have hall : ∀ c ∈ indent' ++ [] ++ blank', isIndent c = true := by
        intro c hc
        rw [List.append_nil] at hc
        rcases List.mem_append.1 hc with hc | hc
        · exact hindent' c hc
        · exact hblank' c hc
      have hle := length_le_takeWhile hb hall
      simp only [List.length_append] at hle ⊢
      omega
    · -- The star ends the spaces and tabs, so both borders have it at the same place.
      obtain ⟨rest, rfl⟩ := hb
      have hnot : ¬ isIndent '*' = true := by decide
      have htake : (indent' ++ ['*'] ++ blank' ++ rest).takeWhile isIndent = indent' := by
        rw [List.append_assoc, List.append_assoc, List.takeWhile_append_of_pos hindent',
          List.singleton_append, List.takeWhile_cons_of_neg hnot, List.append_nil]
      have hdrop : (indent' ++ ['*'] ++ blank' ++ rest).dropWhile isIndent =
          '*' :: (blank' ++ rest) := by
        rw [List.append_assoc, List.append_assoc, List.dropWhile_append_of_pos hindent',
          List.singleton_append, List.dropWhile_cons_of_neg hnot]
      rw [hdrop] at hstarMax hblankMax
      rw [htake, hstarMax _ rfl]
      have hle : blank'.length ≤ blank.length := by
        cases blank' with
        | nil => exact Nat.zero_le _
        | cons c blank' =>
          rw [hblankMax c (blank' ++ rest) rfl (hblank' c (List.mem_cons_self ..))]
          exact hlength'
      simp only [List.length_append]
      omega

/-- A line is cleaned in exactly one way. -/
theorem cleans_iff {raw line : Text} : Cleans raw line ↔ line = cleanLine raw := by
  obtain ⟨border, hborder, hform, hmax⟩ := exists_longest_border raw
  constructor
  · rintro ⟨border', white, heq, hform', hmax', hwhite, htidy⟩
    -- Two longest borders are as long as each other, so they are the same.
    have hpre : border <+: raw := ⟨_, hborder⟩
    have hpre' : border' <+: raw := ⟨line ++ white, by rw [heq, List.append_assoc]⟩
    have hlength : border'.length = border.length :=
      Nat.le_antisymm (hmax border' hpre' hform') (hmax' border hpre hform)
    have hrest : line ++ white = undecorate raw := by
      have hsame : border' ++ (line ++ white) = border ++ undecorate raw := by
        rw [hborder, ← List.append_assoc, ← heq]
      exact (List.append_inj hsame hlength).2
    rw [cleanLine, ← hrest, trimEnd_append_of_blank htidy hwhite]
  · rintro rfl
    obtain ⟨white, hwhite, hblank⟩ := exists_trimEnd_append (undecorate raw)
    refine ⟨border, white, ?_, hform, hmax, hblank, endsTidy_cleanLine raw⟩
    rw [List.append_assoc, cleanLine, hwhite, hborder]

theorem forall₂_cleans_iff {raws ls : List Text} :
    List.Forall₂ Cleans raws ls ↔ ls = raws.map cleanLine := by
  induction raws generalizing ls with
  | nil => simp
  | cons raw raws ih => simp [List.forall₂_cons_left_iff, cleans_iff, ih]

end TypedDocs.Comment
