/-
  Lines of a text.

  `lines` and `unlines` are inverse to each other on pieces without newlines,
  and `lines` sends a newline between two texts to an append.  A carriage
  return before a newline is the only thing `unixLines` changes, and it changes
  lines only at their ends.
-/

import TypedDocs.Text.Basic
import Mathlib.Data.List.Basic
import Mathlib.Data.List.Forall2

namespace TypedDocs.Text

/-! ## Splitting at newlines -/

@[simp] theorem lines_nil : lines [] = [[]] := rfl

@[simp] theorem lines_newline (s : Text) : lines ('\n' :: s) = [] :: lines s := rfl

theorem lines_ne_nil (s : Text) : lines s ≠ [] := by
  cases s with
  | nil => simp
  | cons c s =>
    rw [lines]
    split
    · simp
    · split <;> simp

/-- A character other than a newline joins the first line. -/
theorem lines_cons {c : Char} (hc : c ≠ '\n') {s l : Text} {ls : List Text} (h : lines s = l :: ls) :
    lines (c :: s) = (c :: l) :: ls := by
  rw [lines, if_neg hc, h]

theorem exists_lines_eq_cons (s : Text) : ∃ l ls, lines s = l :: ls :=
  List.exists_cons_of_ne_nil (lines_ne_nil s)

/-- A newline between two texts separates their lines. -/
theorem lines_append_newline (a b : Text) : lines (a ++ '\n' :: b) = lines a ++ lines b := by
  induction a with
  | nil => rfl
  | cons c a ih =>
    by_cases hc : c = '\n'
    · subst hc
      rw [List.cons_append, lines_newline, ih, lines_newline, List.cons_append]
    · obtain ⟨l, ls, hl⟩ := exists_lines_eq_cons a
      rw [hl, List.cons_append] at ih
      rw [List.cons_append, lines_cons hc ih, lines_cons hc hl, List.cons_append]

/-- A text without newlines joins the first line. -/
theorem lines_append_of_not_mem {a s l : Text} {ls : List Text} (ha : '\n' ∉ a)
    (h : lines s = l :: ls) : lines (a ++ s) = (a ++ l) :: ls := by
  induction a with
  | nil => exact h
  | cons c a ih =>
    obtain ⟨hc, ha⟩ : c ≠ '\n' ∧ '\n' ∉ a := by
      rw [List.mem_cons, not_or] at ha
      exact ⟨fun hc => ha.1 hc.symm, ha.2⟩
    exact lines_cons hc (ih ha)

/-- A text without newlines is a single line. -/
theorem lines_of_not_mem {s : Text} (h : '\n' ∉ s) : lines s = [s] := by
  have hlines := lines_append_of_not_mem h lines_nil
  rwa [List.append_nil] at hlines

/-- Lines hold no newlines. -/
theorem not_mem_of_mem_lines {s l : Text} (h : l ∈ lines s) : '\n' ∉ l := by
  induction s generalizing l with
  | nil =>
    obtain rfl : l = [] := by simpa using h
    simp
  | cons c s ih =>
    by_cases hc : c = '\n'
    · subst hc
      rcases List.mem_cons.1 (lines_newline s ▸ h) with rfl | h
      · simp
      · exact ih h
    · obtain ⟨m, ms, hm⟩ := exists_lines_eq_cons s
      rw [lines_cons hc hm, List.mem_cons] at h
      rcases h with rfl | h
      · rw [List.mem_cons, not_or]
        exact ⟨fun h => hc h.symm, ih (hm ▸ List.mem_cons_self ..)⟩
      · exact ih (hm ▸ List.mem_cons_of_mem _ h)

/-- Indentation holds no newlines. -/
theorem newline_not_mem_of_isIndent {s : Text} (h : s.all isIndent = true) : '\n' ∉ s := by
  intro hmem
  have hnewline := List.all_eq_true.1 h _ hmem
  cases hnewline

/-- The first line begins the text. -/
theorem prefix_of_lines_eq_cons {s l : Text} {ls : List Text} (h : lines s = l :: ls) :
    l <+: s := by
  induction s generalizing l ls with
  | nil =>
    rw [lines_nil, List.cons.injEq] at h
    obtain rfl := h.1
    exact List.nil_prefix
  | cons c s ih =>
    by_cases hc : c = '\n'
    · subst hc
      rw [lines_newline, List.cons.injEq] at h
      rw [← h.1]
      exact List.nil_prefix
    · obtain ⟨m, ms, hm⟩ := exists_lines_eq_cons s
      rw [lines_cons hc hm, List.cons.injEq] at h
      rw [← h.1]
      exact List.cons_prefix_cons.2 ⟨rfl, ih hm⟩

/-- Every line is a piece of the text. -/
theorem infix_of_mem_lines {s l : Text} (h : l ∈ lines s) : l <:+: s := by
  induction s generalizing l with
  | nil =>
    obtain rfl : l = [] := by simpa using h
    exact List.infix_rfl
  | cons c s ih =>
    obtain ⟨m, ms, hm⟩ := exists_lines_eq_cons (c :: s)
    rw [hm, List.mem_cons] at h
    rcases h with rfl | h
    · exact (prefix_of_lines_eq_cons hm).isInfix
    · have hs : l ∈ lines s := by
        by_cases hc : c = '\n'
        · subst hc
          rw [lines_newline, List.cons.injEq] at hm
          exact hm.2 ▸ h
        · obtain ⟨k, ks, hk⟩ := exists_lines_eq_cons s
          rw [lines_cons hc hk, List.cons.injEq] at hm
          rw [hk]
          exact List.mem_cons_of_mem _ (hm.2 ▸ h)
      exact (ih hs).trans (List.suffix_cons c s).isInfix

/-! ## Joining with newlines -/

@[simp] theorem unlines_singleton (l : Text) : unlines [l] = l := rfl

theorem unlines_cons (l : Text) {ls : List Text} (h : ls ≠ []) :
    unlines (l :: ls) = l ++ '\n' :: unlines ls := by
  cases ls with
  | nil => exact absurd rfl h
  | cons m ms => rfl

theorem unlines_cons_cons (l m : Text) (ls : List Text) :
    unlines (l :: m :: ls) = l ++ '\n' :: unlines (m :: ls) := rfl

theorem unlines_append {ls ms : List Text} (hls : ls ≠ []) (hms : ms ≠ []) :
    unlines (ls ++ ms) = unlines ls ++ '\n' :: unlines ms := by
  induction ls with
  | nil => exact absurd rfl hls
  | cons l ls ih =>
    cases ls with
    | nil => exact unlines_cons l hms
    | cons m ls =>
      rw [List.cons_append, List.cons_append, unlines_cons_cons, unlines_cons_cons,
        ← List.cons_append, ih (by simp), List.append_assoc, List.cons_append]

theorem unlines_lines (s : Text) : unlines (lines s) = s := by
  induction s with
  | nil => rfl
  | cons c s ih =>
    obtain ⟨l, ls, hl⟩ := exists_lines_eq_cons s
    by_cases hc : c = '\n'
    · subst hc
      rw [lines_newline, unlines_cons _ (lines_ne_nil s), ih, List.nil_append]
    · rw [lines_cons hc hl]
      rw [hl] at ih
      cases ls with
      | nil => rw [unlines_singleton] at ih ⊢; rw [ih]
      | cons m ls =>
        rw [unlines_cons_cons] at ih ⊢
        rw [List.cons_append, ih]

/-- Joining some texts and splitting again splits each of them. -/
theorem lines_unlines_flatMap {ls : List Text} (h : ls ≠ []) :
    lines (unlines ls) = ls.flatMap lines := by
  induction ls with
  | nil => exact absurd rfl h
  | cons l ls ih =>
    cases ls with
    | nil => rw [unlines_singleton, List.flatMap_singleton]
    | cons m ls =>
      rw [unlines_cons_cons, lines_append_newline, ih (by simp), List.flatMap_cons (x := l)]

theorem lines_unlines {ls : List Text} (hne : ls ≠ []) (h : ∀ l ∈ ls, '\n' ∉ l) :
    lines (unlines ls) = ls := by
  rw [lines_unlines_flatMap hne]
  clear hne
  induction ls with
  | nil => rfl
  | cons l ls ih =>
    rw [List.flatMap_cons, lines_of_not_mem (h l (List.mem_cons_self ..)),
      ih fun m hm => h m (List.mem_cons_of_mem _ hm), List.singleton_append]

/-! ## Carriage returns -/

/-- Reading carriage return and newline as one newline takes a carriage return off some lines. -/
theorem forall₂_lines_unixLines (s : Text) :
    List.Forall₂ (fun l raw => raw = l ∨ raw = l ++ ['\r']) (lines (unixLines s)) (lines s) := by
  fun_induction unixLines s with
  | case1 => exact List.Forall₂.cons (Or.inl rfl) List.Forall₂.nil
  | case2 s ih =>
    rw [lines_newline, lines_cons (by decide) (lines_newline s)]
    exact List.Forall₂.cons (Or.inr rfl) ih
  | case3 c s _ ih =>
    by_cases hc : c = '\n'
    · subst hc
      rw [lines_newline, lines_newline]
      exact List.Forall₂.cons (Or.inl rfl) ih
    · obtain ⟨l, ls, hl⟩ := exists_lines_eq_cons (unixLines s)
      obtain ⟨m, ms, hm⟩ := exists_lines_eq_cons s
      rw [lines_cons hc hl, lines_cons hc hm]
      rw [hl, hm] at ih
      obtain ⟨hhead, htail⟩ := List.forall₂_cons.1 ih
      refine List.Forall₂.cons ?_ htail
      rcases hhead with rfl | rfl
      · exact Or.inl rfl
      · exact Or.inr rfl

end TypedDocs.Text
