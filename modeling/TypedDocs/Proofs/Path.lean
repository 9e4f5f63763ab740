/-
  Paths.

  A path to a name in a directory has the pieces of the directory and the name
  as its last one, however the directory is written (`exists_pieces_join`).
  Paths that stand in order and differ are sorted already
  (`sorted_of_pairwise`).
-/

import Mathlib.Data.List.Induction
import TypedDocs.Path

namespace TypedDocs.Path

/-! ## A name in a directory -/

theorem pieces_ne_nil (p : Path) : pieces p ≠ [] := by
  fun_cases pieces p <;> simp

theorem pieces_append_slash (dir p : Path) :
    pieces (dir ++ '/' :: p) = pieces dir ++ pieces p := by
  induction dir with
  | nil => rfl
  | cons c dir ih =>
    obtain ⟨first, others, hdir⟩ := List.exists_cons_of_ne_nil (pieces_ne_nil dir)
    rw [List.cons_append, pieces, pieces, ih, hdir]
    split <;> rfl

theorem pieces_of_not_mem {name : Text} (h : '/' ∉ name) : pieces name = [name] := by
  induction name with
  | nil => rfl
  | cons c name ih =>
    obtain ⟨hc, hname⟩ := not_or.1 (mt List.mem_cons.2 h)
    rw [pieces, if_neg (Ne.symm hc), ih hname]

theorem isAbsolute_of_not_mem {name : Text} (h : '/' ∉ name) : isAbsolute name = false := by
  cases name with
  | nil => rfl
  | cons c name =>
    have hc : c ≠ '/' := fun hc => h (hc ▸ List.mem_cons_self ..)
    simp [isAbsolute, hc]

theorem isAbsolute_join (dir : Path) {name : Text} (h : '/' ∉ name) :
    isAbsolute (dir.join name) = isAbsolute dir := by
  unfold join
  rw [if_neg (by simp [isAbsolute_of_not_mem h])]
  cases dir with
  | nil => exact isAbsolute_of_not_mem h
  | cons c dir => split <;> rfl

/-- The pieces of a path to a name in a directory: those that lead to the directory, and the name. -/
theorem exists_pieces_join (dir : Path) :
    ∃ above, ∀ name : Text, '/' ∉ name → pieces (dir.join name) = above ++ [name] := by
  -- Where the directory ends in a slash, or is the working directory, none is put in between.
  by_cases hdir : dir.isEmpty || dir.getLast? == some '/'
  · have hjoin : ∀ name : Text, '/' ∉ name → dir.join name = dir ++ name := by
      intro name hname
      simp [join, isAbsolute_of_not_mem hname, hdir]
    cases dir using List.reverseRecOn with
    | nil =>
      refine ⟨[], fun name hname => ?_⟩
      rw [hjoin name hname]
      exact pieces_of_not_mem hname
    | append_singleton above c =>
      obtain rfl : c = '/' := by simpa using hdir
      refine ⟨pieces above, fun name hname => ?_⟩
      rw [hjoin name hname, List.append_assoc, List.singleton_append, pieces_append_slash,
        pieces_of_not_mem hname]
  · refine ⟨pieces dir, fun name hname => ?_⟩
    have hjoin : dir.join name = dir ++ '/' :: name := by
      simp [join, isAbsolute_of_not_mem hname, hdir]
    rw [hjoin, pieces_append_slash, pieces_of_not_mem hname]

/-! ## Paths in order -/

theorem dropRepeats_of_pairwise {ps : List Path}
    (h : ps.Pairwise fun p q => components p ≠ components q) : dropRepeats ps = ps := by
  fun_induction dropRepeats ps with
  | case1 p q rest heq => exact absurd heq (List.rel_of_pairwise_cons h (List.mem_cons_self ..))
  | case2 p q rest hne ih => rw [ih h.of_cons]
  | case3 => rfl

/-- Paths in strict order stay as they are. -/
theorem sorted_of_pairwise {ps : List Path}
    (h : ps.Pairwise fun p q => le p q = true ∧ components p ≠ components q) : sorted ps = ps := by
  rw [sorted, List.mergeSort_of_pairwise (h.imp And.left), dropRepeats_of_pairwise (h.imp And.right)]

end TypedDocs.Path
