/-
  What writing and making directories leave in place.

  A path is walked through directories, so what it leads to depends on the
  directories of a file system and on one entry at the end.  Writing a file
  changes one entry and no directory (`write_cases`): all paths lead where they
  led before.  Making directories only adds entries (`extends_makeDirectories`),
  so what could be read can still be read.

  Paths to files that share their directory and end in different names lead to
  different locations (`name_eq_of_locate_join`).
-/

import TypedDocs.FileSystem
import TypedDocs.Proofs.Path

namespace TypedDocs.FileSystem

variable {fs fs' : FileSystem} {p q : Path} {l m : Location} {content : Text}

/-! ## Entries -/

theorem entryAt?_put (fs : FileSystem) (hl : l ≠ []) (e : Entry) (m : Location) :
    (fs.put l e).entryAt? m = if m = l then some e else fs.entryAt? m := by
  unfold entryAt?
  by_cases hm : m = []
  · have hne : m ≠ l := fun h => hl (h.symm.trans hm)
    rw [if_pos hm, if_pos hm, if_neg hne]
  · rw [if_neg hm, if_neg hm]
    show (((l, e) :: fs.entries.filter (·.1 != l)).find? (·.1 == m)).map (·.2) = _
    by_cases h : m = l
    · rw [if_pos h, List.find?_cons_of_pos (by simp [h]), Option.map_some]
    · -- Dropping the old entry of one location does not change the search for another.
      have hother : (fun x : Location × Entry => decide ((x.1 != l) = true ∧ (x.1 == m) = true)) =
          (·.1 == m) := by
        funext x
        by_cases hx : x.1 = m <;> simp [hx, h]
      rw [if_neg h, List.find?_cons_of_neg (by simpa using Ne.symm h), List.find?_filter, hother]

/-! ## Walking -/

/-- Where one piece of a path leads from a directory. -/
def enter (here : Location) (piece : Text) : Location :=
  if piece = [] ∨ piece = ['.'] then here
  else if piece = ['.', '.'] then here.dropLast
  else here ++ [piece]

theorem walk_cons_eq_ok_iff {here : Location} {piece : Text} {rest : List Text} :
    fs.walk here (piece :: rest) = .ok l ↔
      fs.entryAt? here = some .directory ∧ fs.walk (enter here piece) rest = .ok l := by
  rw [walk, enter]
  split
  · rename_i h
    rw [and_iff_right h]
    split
    · exact Iff.rfl
    · split <;> exact Iff.rfl
  · rename_i h _
    exact ⟨fun h => (nomatch h), fun h' => absurd h'.1 (by simp_all)⟩
  · rename_i h
    exact ⟨fun h => (nomatch h), fun h' => absurd h'.1 (by simp_all)⟩

theorem walk_append_eq_ok_iff {here : Location} {pieces rest : List Text} :
    fs.walk here (pieces ++ rest) = .ok l ↔
      ∃ m, fs.walk here pieces = .ok m ∧ fs.walk m rest = .ok l := by
  induction pieces generalizing here with
  | nil => simp [walk]
  | cons piece pieces ih =>
    rw [List.cons_append, walk_cons_eq_ok_iff, ih]
    constructor
    · rintro ⟨hdir, m, hm, hrest⟩
      exact ⟨m, walk_cons_eq_ok_iff.2 ⟨hdir, hm⟩, hrest⟩
    · rintro ⟨m, hm, hrest⟩
      obtain ⟨hdir, hm⟩ := walk_cons_eq_ok_iff.1 hm
      exact ⟨hdir, m, hm, hrest⟩

/-- A walk needs directories only. -/
theorem walk_of_directories
    (hdirs : ∀ l, fs.entryAt? l = some .directory → fs'.entryAt? l = some .directory)
    {here : Location} {pieces : List Text} (h : fs.walk here pieces = .ok l) :
    fs'.walk here pieces = .ok l := by
  induction pieces generalizing here with
  | nil => exact h
  | cons piece pieces ih =>
    obtain ⟨hdir, hrest⟩ := walk_cons_eq_ok_iff.1 h
    exact walk_cons_eq_ok_iff.2 ⟨hdirs _ hdir, ih hrest⟩

theorem locate_of_directories (hhome : fs'.home = fs.home)
    (hdirs : ∀ l, fs.entryAt? l = some .directory → fs'.entryAt? l = some .directory)
    (h : fs.locate p = .ok l) : fs'.locate p = .ok l := by
  unfold locate at h ⊢
  split
  · rename_i hp
    rw [if_pos hp] at h
    cases h
  · rename_i hp
    rw [if_neg hp] at h
    rw [hhome]
    exact walk_of_directories hdirs h

theorem read_eq_ok_iff :
    fs.read p = .ok content ↔
      ∃ l, fs.locate p = .ok l ∧ fs.entryAt? l = some (.file content) := by
  unfold read
  cases fs.locate p with
  | error e => simp
  | ok l =>
    simp only [Except.ok.injEq, exists_eq_left']
    split <;> simp_all

/-! ## Writing -/

/-- A file system with the same directories, seen from the same one. -/
structure SameDirectories (fs fs' : FileSystem) : Prop where
  home : fs'.home = fs.home
  directory_iff : ∀ l, fs'.entryAt? l = some .directory ↔ fs.entryAt? l = some .directory

theorem SameDirectories.refl (fs : FileSystem) : SameDirectories fs fs :=
  ⟨rfl, fun _ => Iff.rfl⟩

theorem SameDirectories.trans {fs'' : FileSystem} (h : SameDirectories fs fs')
    (h' : SameDirectories fs' fs'') : SameDirectories fs fs'' :=
  ⟨h'.home.trans h.home, fun l => (h'.directory_iff l).trans (h.directory_iff l)⟩

theorem SameDirectories.locate_iff (h : SameDirectories fs fs') :
    fs'.locate p = .ok l ↔ fs.locate p = .ok l :=
  ⟨locate_of_directories h.home.symm fun l => (h.directory_iff l).1,
    locate_of_directories h.home fun l => (h.directory_iff l).2⟩

/-- Writing puts the file at the location of its path, where no directory is. -/
theorem write_cases (h : fs.write p content = .ok fs') :
    ∃ l, fs.locate p = .ok l ∧ fs.entryAt? l ≠ some .directory ∧ SameDirectories fs fs' ∧
      ∀ m, fs'.entryAt? m = if m = l then some (.file content) else fs.entryAt? m := by
  unfold write at h
  cases hl : fs.locate p with
  | error e =>
    rw [hl] at h
    cases h
  | ok l =>
    rw [hl] at h
    by_cases hdir : fs.entryAt? l = some .directory
    · simp only [hdir, if_pos] at h
      cases h
    · simp only [if_neg hdir] at h
      have hput : fs' = fs.put l (.file content) := by
        split at h
        · exact (Except.ok.inj h).symm
        · cases h
        · cases h
      have hne : l ≠ [] := by
        rintro rfl
        exact hdir rfl
      have hentry := fun m => hput ▸ entryAt?_put fs hne (.file content) m
      refine ⟨l, rfl, hdir, ⟨by rw [hput]; rfl, fun m => ?_⟩, hentry⟩
      rw [hentry]
      split
      · rename_i hm
        rw [hm]
        exact iff_of_false (by simp) hdir
      · exact Iff.rfl

/-! ## Making directories -/

/-- A file system with everything that stands in another, and perhaps more. -/
structure Extends (fs' fs : FileSystem) : Prop where
  home : fs'.home = fs.home
  entry : ∀ l e, fs.entryAt? l = some e → fs'.entryAt? l = some e

theorem Extends.refl (fs : FileSystem) : Extends fs fs :=
  ⟨rfl, fun _ _ h => h⟩

theorem Extends.trans {fs'' : FileSystem} (h : Extends fs'' fs') (h' : Extends fs' fs) :
    Extends fs'' fs :=
  ⟨h.home.trans h'.home, fun l e he => h.entry l e (h'.entry l e he)⟩

theorem Extends.read (h : Extends fs' fs) (hread : fs.read p = .ok content) :
    fs'.read p = .ok content := by
  obtain ⟨l, hl, hentry⟩ := read_eq_ok_iff.1 hread
  exact read_eq_ok_iff.2
    ⟨l, locate_of_directories h.home (fun m => h.entry m _) hl, h.entry l _ hentry⟩

theorem extends_makeDirectory (h : fs.makeDirectory p = .ok fs') : Extends fs' fs := by
  unfold makeDirectory at h
  simp only at h
  split at h
  · cases h
  · rename_i l _
    split at h
    · cases h
    · rename_i hfree
      have hl : l ≠ [] := by
        rintro rfl
        exact hfree rfl
      cases h
      refine ⟨rfl, fun m e hm => ?_⟩
      rw [entryAt?_put fs hl, if_neg, hm]
      rintro rfl
      exact hfree (hm ▸ rfl)

theorem extends_ensureDirectory (h : fs.ensureDirectory p = .ok fs') : Extends fs' fs := by
  unfold ensureDirectory at h
  split at h
  · rename_i made hmade
    cases h
    exact extends_makeDirectory hmade
  · split at h
    · cases h
      exact Extends.refl fs
    · cases h

theorem extends_makeDirectoriesFrom {fuel : Nat} (h : makeDirectoriesFrom fuel fs p = .ok fs') :
    Extends fs' fs := by
  induction fuel generalizing fs fs' p with
  | zero => exact extends_ensureDirectory h
  | succ fuel ih =>
    rw [makeDirectoriesFrom] at h
    split at h
    · cases h
      exact Extends.refl fs
    · split at h
      · split at h
        · rename_i above _ made hmade
          exact (extends_ensureDirectory h).trans (ih hmade)
        · cases h
      · exact extends_ensureDirectory h

/-- Making directories keeps all entries. -/
theorem extends_makeDirectories (h : fs.makeDirectories p = .ok fs') : Extends fs' fs :=
  extends_makeDirectoriesFrom h

/-! ## Names in a directory -/

theorem enter_eq_append {here : Location} {name : Text} (hdir : fs.entryAt? here = some .directory)
    (hfile : fs.entryAt? (enter here name) ≠ some .directory) :
    (name = ['.', '.'] ∧ enter here name = here.dropLast) ∨ enter here name = here ++ [name] := by
  unfold enter at hfile ⊢
  by_cases hsame : name = [] ∨ name = ['.']
  · rw [if_pos hsame] at hfile
    exact absurd hdir hfile
  · rw [if_neg hsame]
    by_cases hup : name = ['.', '.']
    · exact .inl ⟨hup, if_pos hup⟩
    · exact .inr (if_neg hup)

/-- A file in a directory has one name. -/
theorem name_eq_of_enter {here : Location} {name other : Text}
    (hdir : fs.entryAt? here = some .directory)
    (hfile : fs.entryAt? (enter here name) ≠ some .directory)
    (h : enter here other = enter here name) : other = name := by
  -- The way up leads to a shorter location, so it never meets a name.
  have hup : ∀ n : Text, here.dropLast ≠ here ++ [n] := by
    intro n hn
    have hlength := congrArg List.length hn
    rw [List.length_dropLast, List.length_append, List.length_singleton] at hlength
    omega
  obtain ⟨hother, hdrop⟩ | hother := enter_eq_append hdir (h ▸ hfile) <;>
    obtain ⟨hname, hdrop'⟩ | hname := enter_eq_append hdir hfile
  · rw [hother, hname]
  · exact absurd (hdrop.symm.trans (h.trans hname)) (hup _)
  · exact absurd (hdrop'.symm.trans (h.symm.trans hother)) (hup _)
  · simpa [hother, hname] using h

/-- Paths to names in a directory that lead to one file have the same name. -/
theorem name_eq_of_locate_join {dir : Path} {name other : Text} (hname : '/' ∉ name)
    (hother : '/' ∉ other) (h : fs.locate (dir.join name) = .ok l)
    (h' : fs.locate (dir.join other) = .ok l) (hfile : fs.entryAt? l ≠ some .directory) :
    other = name := by
  -- Both paths go through the same directory before they enter their names.
  obtain ⟨above, hpieces⟩ := Path.exists_pieces_join dir
  have hwalk : ∀ n : Text, '/' ∉ n → fs.locate (dir.join n) = .ok l →
      ∃ here, fs.walk (if dir.isAbsolute then [] else fs.home) above = .ok here ∧
        fs.entryAt? here = some .directory ∧ enter here n = l := by
    intro n hn hl
    unfold locate at hl
    split at hl
    · cases hl
    · rw [Path.isAbsolute_join dir hn, hpieces n hn] at hl
      obtain ⟨here, hhere, hlast⟩ := walk_append_eq_ok_iff.1 hl
      obtain ⟨hdir, henter⟩ := walk_cons_eq_ok_iff.1 hlast
      exact ⟨here, hhere, hdir, Except.ok.inj henter⟩
  obtain ⟨here, hhere, hdir, rfl⟩ := hwalk name hname h
  obtain ⟨here', hhere', -, henter⟩ := hwalk other hother h'
  obtain rfl : here = here' := Except.ok.inj (hhere.symm.trans hhere')
  exact name_eq_of_enter hdir hfile henter

end TypedDocs.FileSystem
