/-
  Trimming, and what trimming never touches.

  A text is tidy at an end when no white space stands there; trimming makes it
  so and leaves tidy texts alone.  The ink of a text is what is left of it
  without any white space: no trimming and no joining of lines changes it,
  which is how texts that differ in layout only are compared.
-/

import TypedDocs.Text.Blank
import TypedDocs.Text.Word
import TypedDocs.Proofs.Text.Lines
import Mathlib.Data.List.Induction
import Mathlib.Data.List.TakeWhile

namespace TypedDocs.Text

/-! ## White space and words -/

/-- The code points of white space. -/
def blankCodes : List Nat :=
  [0x9, 0xA, 0xB, 0xC, 0xD, 0x20, 0x85, 0xA0, 0x1680, 0x2000, 0x2001, 0x2002, 0x2003, 0x2004,
    0x2005, 0x2006, 0x2007, 0x2008, 0x2009, 0x200A, 0x2028, 0x2029, 0x202F, 0x205F, 0x3000]

theorem toNat_mem_blankCodes {c : Char} (h : isBlank c = true) : c.toNat ∈ blankCodes := by
  simp only [isBlank, Bool.or_eq_true, Bool.and_eq_true, decide_eq_true_eq, beq_iff_eq] at h
  simp only [blankCodes, List.mem_cons, List.not_mem_nil, or_false]
  omega

/-- White space stands in no word. -/
theorem isWord_of_isBlank {c : Char} (h : isBlank c = true) : isWord c = false := by
  have hcodes : ∀ n ∈ blankCodes, isWord (Char.ofNat n) = false := by decide +kernel
  rw [← Char.ofNat_toNat c]
  exact hcodes c.toNat (toNat_mem_blankCodes h)

theorem isBlank_of_isWord {c : Char} (h : isWord c = true) : isBlank c = false := by
  cases hb : isBlank c with
  | false => rfl
  | true => rw [isWord_of_isBlank hb] at h; cases h

theorem isBlank_of_isIndent {c : Char} (h : isIndent c = true) : isBlank c = true := by
  rw [isIndent, Bool.or_eq_true, beq_iff_eq, beq_iff_eq] at h
  rcases h with rfl | rfl <;> rfl

/-! ## Tidy ends -/

/-- No white space stands at the front. -/
def StartsTidy (s : Text) : Prop :=
  ∀ c, s.head? = some c → isBlank c = false

/-- No white space stands at the end. -/
def EndsTidy (s : Text) : Prop :=
  ∀ c, s.getLast? = some c → isBlank c = false

instance (s : Text) : Decidable (StartsTidy s) :=
  decidable_of_iff (s.head?.all (!isBlank ·) = true) (by simp [StartsTidy, Option.all_eq_true])

instance (s : Text) : Decidable (EndsTidy s) :=
  decidable_of_iff (s.getLast?.all (!isBlank ·) = true) (by simp [EndsTidy, Option.all_eq_true])

theorem startsTidy_nil : StartsTidy [] := by
  intro c hc
  cases hc

theorem endsTidy_nil : EndsTidy [] := by
  intro c hc
  cases hc

@[simp] theorem startsTidy_cons {c : Char} {s : Text} :
    StartsTidy (c :: s) ↔ isBlank c = false := by
  simp [StartsTidy]

theorem endsTidy_singleton {c : Char} : EndsTidy [c] ↔ isBlank c = false := by
  simp [EndsTidy]

/-- The end of a text is the end of its last part. -/
theorem endsTidy_append {a b : Text} (h : b ≠ []) : EndsTidy (a ++ b) ↔ EndsTidy b := by
  unfold EndsTidy
  rw [List.getLast?_append_of_ne_nil _ h]

theorem EndsTidy.of_suffix {a b : Text} (h : EndsTidy b) (hab : a <:+ b) : EndsTidy a := by
  obtain ⟨p, rfl⟩ := hab
  by_cases ha : a = []
  · rw [ha]
    exact endsTidy_nil
  · exact (endsTidy_append ha).1 h

theorem StartsTidy.of_isPrefix {a b : Text} (h : StartsTidy b) (hab : a <+: b) : StartsTidy a := by
  cases a with
  | nil => exact startsTidy_nil
  | cons c a =>
    obtain ⟨r, rfl⟩ := hab
    rw [List.cons_append, startsTidy_cons] at h
    exact startsTidy_cons.2 h

theorem endsTidy_reverse {s : Text} : EndsTidy s.reverse ↔ StartsTidy s := by
  unfold EndsTidy StartsTidy
  rw [List.getLast?_reverse]

/-! ## Trimming -/

theorem startsTidy_trimStart (s : Text) : StartsTidy (trimStart s) := by
  induction s with
  | nil => exact startsTidy_nil
  | cons c s ih =>
    unfold trimStart at ih ⊢
    rw [List.dropWhile_cons]
    split
    case isTrue => exact ih
    case isFalse h => exact startsTidy_cons.2 (by simpa using h)

theorem trimStart_of_startsTidy {s : Text} (h : StartsTidy s) : trimStart s = s := by
  cases s with
  | nil => rfl
  | cons c s =>
    rw [startsTidy_cons] at h
    rw [trimStart, List.dropWhile_cons_of_neg (by simp [h])]

theorem trimEnd_eq_reverse (s : Text) : trimEnd s = (trimStart s.reverse).reverse := rfl

theorem endsTidy_trimEnd (s : Text) : EndsTidy (trimEnd s) := by
  rw [trimEnd_eq_reverse, endsTidy_reverse]
  exact startsTidy_trimStart _

theorem trimEnd_of_endsTidy {s : Text} (h : EndsTidy s) : trimEnd s = s := by
  have hrev : StartsTidy s.reverse := by
    rw [← endsTidy_reverse, List.reverse_reverse]
    exact h
  rw [trimEnd_eq_reverse, trimStart_of_startsTidy hrev, List.reverse_reverse]

theorem trimStart_suffix (s : Text) : trimStart s <:+ s :=
  List.dropWhile_suffix _

theorem prefix_trimEnd (s : Text) : trimEnd s <+: s := by
  rw [trimEnd_eq_reverse, ← List.reverse_suffix, List.reverse_reverse]
  exact trimStart_suffix _

/-- What is trimmed off at the end is white space. -/
theorem exists_trimEnd_append (s : Text) :
    ∃ b, trimEnd s ++ b = s ∧ ∀ c ∈ b, isBlank c = true := by
  refine ⟨(s.reverse.takeWhile isBlank).reverse, ?_, ?_⟩
  · rw [trimEnd, ← List.reverse_append, List.takeWhile_append_dropWhile, List.reverse_reverse]
  · intro c hc
    exact List.mem_takeWhile_imp (List.mem_reverse.1 hc)

theorem infix_trim (s : Text) : trim s <:+: s :=
  (prefix_trimEnd _).isInfix.trans (trimStart_suffix s).isInfix

theorem startsTidy_trim (s : Text) : StartsTidy (trim s) :=
  (startsTidy_trimStart s).of_isPrefix (prefix_trimEnd _)

theorem endsTidy_trim (s : Text) : EndsTidy (trim s) :=
  endsTidy_trimEnd _

theorem trim_of_tidy {s : Text} (hstart : StartsTidy s) (hend : EndsTidy s) : trim s = s := by
  rw [trim, trimStart_of_startsTidy hstart, trimEnd_of_endsTidy hend]

theorem trimStart_blank_cons {c : Char} (hc : isBlank c = true) (s : Text) :
    trimStart (c :: s) = trimStart s := by
  rw [trimStart, List.dropWhile_cons_of_pos hc, trimStart]

theorem trim_blank_cons {c : Char} (hc : isBlank c = true) (s : Text) : trim (c :: s) = trim s := by
  rw [trim, trimStart_blank_cons hc, trim]

theorem trimEnd_append_blank {c : Char} (hc : isBlank c = true) (s : Text) :
    trimEnd (s ++ [c]) = trimEnd s := by
  rw [trimEnd_eq_reverse, List.reverse_append, List.reverse_singleton, List.singleton_append,
    trimStart_blank_cons hc, trimEnd_eq_reverse]

theorem trim_append_blank {c : Char} (hc : isBlank c = true) (s : Text) :
    trim (s ++ [c]) = trim s := by
  have happend : trimStart (s ++ [c]) =
      if (trimStart s).isEmpty then trimStart [c] else trimStart s ++ [c] :=
    List.dropWhile_append
  rw [trim, happend]
  split
  case isTrue h =>
    rw [trim, List.isEmpty_iff.1 h, trimStart_blank_cons hc]
    rfl
  case isFalse => rw [trimEnd_append_blank hc, trim]

/-- An empty line at the end adds nothing to a trimmed text. -/
theorem trim_unlines_append_nil (ls : List Text) :
    trim (unlines (ls ++ [[]])) = trim (unlines ls) := by
  by_cases h : ls = []
  · rw [h]
    rfl
  · rw [unlines_append h (by simp), unlines_singleton, trim_append_blank (by decide)]

/-! ## Lines without white space at their ends -/

/-- No line ends in white space. -/
def LinesTidy (s : Text) : Prop :=
  ∀ l ∈ lines s, EndsTidy l

instance (s : Text) : Decidable (LinesTidy s) :=
  inferInstanceAs (Decidable (∀ l ∈ lines s, EndsTidy l))

theorem linesTidy_newline {s : Text} : LinesTidy ('\n' :: s) ↔ LinesTidy s := by
  unfold LinesTidy
  rw [lines_newline, List.forall_mem_cons]
  exact and_iff_right endsTidy_nil

/-- Dropping the first character keeps lines tidy. -/
theorem LinesTidy.tail {c : Char} {s : Text} (h : LinesTidy (c :: s)) : LinesTidy s := by
  by_cases hc : c = '\n'
  · subst hc
    exact linesTidy_newline.1 h
  · obtain ⟨l, ls, hl⟩ := exists_lines_eq_cons s
    unfold LinesTidy at h ⊢
    rw [lines_cons hc hl, List.forall_mem_cons] at h
    rw [hl, List.forall_mem_cons]
    exact ⟨h.1.of_suffix (List.suffix_cons c l), h.2⟩

theorem LinesTidy.of_suffix {a b : Text} (h : LinesTidy b) (hab : a <:+ b) : LinesTidy a := by
  obtain ⟨p, rfl⟩ := hab
  induction p with
  | nil => exact h
  | cons c p ih => exact ih h.tail

/-- If the last character is white space and lines are tidy, it is a newline and can go. -/
theorem LinesTidy.of_append_blank {c : Char} {s : Text} (h : LinesTidy (s ++ [c]))
    (hc : isBlank c = true) : LinesTidy s := by
  by_cases hnl : c = '\n'
  · subst hnl
    intro l hl
    refine h l ?_
    rw [lines_append_newline]
    exact List.mem_append_left _ hl
  · -- The last line ends in `c`, which is no newline.
    exfalso
    induction s with
    | nil =>
      have hline : lines ([] ++ [c]) = [[c]] := lines_cons hnl rfl
      have hend := h [c] (by rw [hline]; exact List.mem_cons_self ..)
      rw [endsTidy_singleton, hc] at hend
      cases hend
    | cons d s ih => exact ih h.tail

theorem LinesTidy.trim {s : Text} (h : LinesTidy s) : LinesTidy (trim s) := by
  have hstart : LinesTidy (trimStart s) := h.of_suffix (trimStart_suffix s)
  obtain ⟨b, hb, hblank⟩ := exists_trimEnd_append (trimStart s)
  rw [← hb] at hstart
  clear hb
  -- The white space at the end goes one character at a time, each of them a newline.
  induction b using List.reverseRecOn with
  | nil => rwa [List.append_nil] at hstart
  | append_singleton b c ih =>
    rw [← List.append_assoc] at hstart
    exact ih (hstart.of_append_blank (hblank c (by simp))) fun d hd => hblank d (by simp [hd])

/-! ## Ink -/

/-- What is left of a text without its white space. -/
def ink (s : Text) : Text :=
  s.filter fun c => !isBlank c

@[simp] theorem ink_nil : ink [] = [] := rfl

@[simp] theorem ink_append (a b : Text) : ink (a ++ b) = ink a ++ ink b :=
  List.filter_append ..

theorem ink_cons_of_isBlank {c : Char} (hc : isBlank c = true) (s : Text) :
    ink (c :: s) = ink s :=
  List.filter_cons_of_neg (by simp [hc])

theorem ink_cons_of_not_isBlank {c : Char} (hc : isBlank c = false) (s : Text) :
    ink (c :: s) = c :: ink s :=
  List.filter_cons_of_pos (by simp [hc])

theorem ink_trimStart (s : Text) : ink (trimStart s) = ink s := by
  induction s with
  | nil => rfl
  | cons c s ih =>
    cases hc : isBlank c with
    | true => rw [trimStart_blank_cons hc, ink_cons_of_isBlank hc, ih]
    | false => rw [trimStart_of_startsTidy (startsTidy_cons.2 hc)]

theorem ink_reverse (s : Text) : ink s.reverse = (ink s).reverse :=
  List.filter_reverse ..

theorem ink_trim (s : Text) : ink (trim s) = ink s := by
  rw [trim, trimEnd_eq_reverse, ink_reverse, ink_trimStart, ink_reverse, List.reverse_reverse,
    ink_trimStart]

/-- The ink of some lines is the ink of one after the other. -/
theorem ink_unlines (ls : List Text) : ink (unlines ls) = ls.flatMap ink := by
  induction ls with
  | nil => rfl
  | cons l ls ih =>
    cases ls with
    | nil => rw [unlines_singleton, List.flatMap_singleton]
    | cons m ls =>
      rw [unlines_cons_cons, ink_append, ink_cons_of_isBlank (by decide), ih,
        List.flatMap_cons (x := l)]

theorem flatMap_ink_lines (s : Text) : (lines s).flatMap ink = ink s := by
  rw [← ink_unlines, unlines_lines]

end TypedDocs.Text
