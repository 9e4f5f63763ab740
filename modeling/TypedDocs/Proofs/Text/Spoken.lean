/-
  Lines that say something.

  Trimming a text of several lines takes empty lines off its front and its end
  and white space off the first line that is left.  If no line has white space
  at its end, nothing else happens, and the lines of the trimmed text are known
  (`lines_trim_unlines`).
-/

import TypedDocs.Proofs.Text.Trim

namespace TypedDocs.Text

/-- The lines from the first one that is not empty. -/
def spoken (ls : List Text) : List Text :=
  ls.dropWhile List.isEmpty

@[simp] theorem spoken_nil_cons (ls : List Text) : spoken ([] :: ls) = spoken ls := rfl

theorem spoken_cons {l : Text} (h : l ≠ []) (ls : List Text) : spoken (l :: ls) = l :: ls :=
  List.dropWhile_cons_of_neg (by simpa using h)

/-- The first line that says something is not empty, and only empty lines stand before it. -/
theorem spoken_eq_cons {ls : List Text} {l : Text} {rest : List Text}
    (h : spoken ls = l :: rest) :
    l ≠ [] ∧ ∃ n, ls = List.replicate n [] ++ l :: rest := by
  induction ls with
  | nil => cases h
  | cons m ls ih =>
    by_cases hm : m = []
    · subst hm
      obtain ⟨hne, n, rfl⟩ := ih h
      exact ⟨hne, n + 1, rfl⟩
    · rw [spoken_cons hm, List.cons.injEq] at h
      obtain ⟨rfl, rfl⟩ := h
      exact ⟨hm, 0, rfl⟩

/-- Without such a line all lines are empty. -/
theorem spoken_eq_nil {ls : List Text} (h : spoken ls = []) :
    ls = List.replicate ls.length [] :=
  List.eq_replicate_iff.2 ⟨rfl, fun l hl => by simpa using List.dropWhile_eq_nil_iff.1 h l hl⟩

/-- Empty lines in front do not matter to a trimmed text. -/
theorem trim_unlines_spoken (ls : List Text) : trim (unlines (spoken ls)) = trim (unlines ls) := by
  induction ls with
  | nil => rfl
  | cons l ls ih =>
    by_cases hl : l = []
    · subst hl
      rw [spoken_nil_cons, ih]
      cases ls with
      | nil => rfl
      | cons m ls => rw [unlines_cons_cons, List.nil_append, trim_blank_cons (by decide)]
    · rw [spoken_cons hl]

/-- A line that is not empty and has no white space at its end is more than white space. -/
theorem trimStart_ne_nil {l : Text} (hne : l ≠ []) (hend : EndsTidy l) : trimStart l ≠ [] := by
  intro h
  have hlast := List.getLast?_eq_some_getLast hne
  have hblank := List.dropWhile_eq_nil_iff.1 h _ (List.mem_of_getLast? hlast)
  rw [hend _ hlast] at hblank
  cases hblank

theorem trimStart_unlines_cons {l : Text} (h : trimStart l ≠ []) (ls : List Text) :
    trimStart (unlines (l :: ls)) = unlines (trimStart l :: ls) := by
  have hempty : ¬ (l.dropWhile isBlank).isEmpty = true := by simpa [trimStart] using h
  cases ls with
  | nil => rfl
  | cons m ls =>
    rw [unlines_cons_cons, unlines_cons_cons, trimStart, List.dropWhile_append, if_neg hempty,
      trimStart]

theorem endsTidy_unlines_append {ls : List Text} {l : Text} (hne : l ≠ []) (h : EndsTidy l) :
    EndsTidy (unlines (ls ++ [l])) := by
  by_cases hls : ls = []
  · rw [hls]
    exact h
  · rw [unlines_append hls (by simp), List.append_cons, unlines_singleton, endsTidy_append hne]
    exact h

/-- The lines of a trimmed text: the first line that says something, without white space in front
    of it, and the lines behind it but for empty ones at the end. -/
theorem lines_trim_unlines {ls : List Text} {l : Text} {rest : List Text}
    (htidy : ∀ m ∈ ls, EndsTidy m ∧ '\n' ∉ m) (h : spoken ls = l :: rest) :
    ∃ said n, rest = said ++ List.replicate n [] ∧
      lines (trim (unlines ls)) = trimStart l :: said := by
  obtain ⟨hne, k, rfl⟩ := spoken_eq_cons h
  rw [← trim_unlines_spoken, h]
  replace htidy := (List.forall_mem_append.1 htidy).2
  obtain ⟨⟨hend, hnl⟩, -⟩ := List.forall_mem_cons.1 htidy
  have hstart : '\n' ∉ trimStart l := fun hmem => hnl ((trimStart_suffix l).subset hmem)
  -- Empty lines are taken off the end one by one, until a line that says something ends the text.
  clear h
  induction rest using List.reverseRecOn with
  | nil =>
    refine ⟨[], 0, rfl, ?_⟩
    have htrim : EndsTidy (trimStart l) := hend.of_suffix (trimStart_suffix l)
    rw [unlines_singleton, trim, trimEnd_of_endsTidy htrim, lines_of_not_mem hstart]
  | append_singleton rest last ih =>
    rw [← List.cons_append] at htidy ⊢
    obtain ⟨hrest, hlast⟩ := List.forall_mem_append.1 htidy
    obtain ⟨hlast, hlastnl⟩ := hlast last (List.mem_singleton.2 rfl)
    by_cases hempty : last = []
    · subst hempty
      obtain ⟨said, n, rfl, hlines⟩ := ih hrest
      refine ⟨said, n + 1, ?_, by rw [trim_unlines_append_nil, hlines]⟩
      rw [List.append_assoc, List.replicate_succ']
    · refine ⟨rest ++ [last], 0, by simp, ?_⟩
      have htrim : EndsTidy (unlines (trimStart l :: rest ++ [last])) :=
        endsTidy_unlines_append hempty hlast
      have hpieces : ∀ m ∈ trimStart l :: rest ++ [last], '\n' ∉ m := by
        rw [List.forall_mem_append, List.forall_mem_cons, List.forall_mem_singleton]
        exact ⟨⟨hstart, fun m hm => (hrest m (List.mem_cons_of_mem _ hm)).2⟩, hlastnl⟩
      rw [trim, List.cons_append, trimStart_unlines_cons (trimStart_ne_nil hne hend),
        ← List.cons_append, trimEnd_of_endsTidy htrim, lines_unlines (by simp) hpieces]

end TypedDocs.Text
