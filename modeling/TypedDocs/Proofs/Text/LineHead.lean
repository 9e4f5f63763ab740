/-
  The part of a line in front of an offset.

  It is the text behind the last newline before the offset, `lastLine` of what
  stands before it.  A text with a newline settles the last line of what it is
  appended to; a text without one extends it.  What stands first on its line,
  and behind which indentation, is read off from that.
-/

import TypedDocs.Proofs.Text.Cut
import Mathlib.Data.List.TakeWhile

namespace TypedDocs.Text

/-! ## The last line -/

/-- The text behind the last newline. -/
def lastLine (s : Text) : Text :=
  (s.reverse.takeWhile (· ≠ '\n')).reverse

/-- A text without newlines extends the last line. -/
theorem lastLine_append_of_not_mem (a : Text) {b : Text} (h : '\n' ∉ b) :
    lastLine (a ++ b) = lastLine a ++ b := by
  have hkeep : ∀ c ∈ b.reverse, decide (c ≠ '\n') = true := by
    intro c hc
    rw [decide_eq_true_eq]
    rintro rfl
    exact h (List.mem_reverse.1 hc)
  rw [lastLine, List.reverse_append, List.takeWhile_append_of_pos hkeep, List.reverse_append,
    List.reverse_reverse, lastLine]

theorem lastLine_append_newline (a : Text) {b : Text} (h : '\n' ∉ b) :
    lastLine (a ++ '\n' :: b) = b := by
  have hnone : lastLine (a ++ ['\n']) = [] := by
    rw [lastLine, List.reverse_append, List.reverse_singleton, List.singleton_append,
      List.takeWhile_cons_of_neg (by simp)]
    rfl
  rw [List.append_cons, lastLine_append_of_not_mem _ h, hnone, List.nil_append]

/-- The last newline of a text, if it has one. -/
theorem exists_eq_append_newline {s : Text} (h : '\n' ∈ s) :
    ∃ front line, s = front ++ '\n' :: line ∧ '\n' ∉ line := by
  obtain ⟨line, front, hrev, hline⟩ := List.eq_append_cons_of_mem (List.mem_reverse.2 h)
  refine ⟨front.reverse, line.reverse, ?_, fun hmem => hline (List.mem_reverse.1 hmem)⟩
  rw [← List.reverse_reverse s, hrev, List.reverse_append, List.reverse_cons, List.append_assoc,
    List.singleton_append]

/-- A text with a newline settles the last line. -/
theorem lastLine_append_of_mem (a : Text) {b : Text} (h : '\n' ∈ b) :
    lastLine (a ++ b) = lastLine b := by
  obtain ⟨front, line, rfl, hline⟩ := exists_eq_append_newline h
  rw [← List.append_assoc, lastLine_append_newline _ hline, lastLine_append_newline _ hline]

/-! ## Lines in front of offsets -/

theorem lineHead?_append (p r : Text) : lineHead? (p ++ r) (size p) = some (lastLine p) := by
  rw [lineHead?, takeBytes?_eq_some.2 ⟨r, rfl, rfl⟩]
  rfl

theorem startsLine?_append (p r : Text) :
    startsLine? (p ++ r) (size p) = some ((lastLine p).all isIndent) := by
  rw [startsLine?, lineHead?_append]
  rfl

theorem lineIndent?_append (p r : Text) :
    lineIndent? (p ++ r) (size p) = some ((lastLine p).takeWhile isIndent) := by
  rw [lineIndent?, lineHead?_append]
  rfl

end TypedDocs.Text
