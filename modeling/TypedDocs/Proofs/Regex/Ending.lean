/-
  Where matches end.

  The cursors at which a match can end are given for each form of expression
  that a literal ending is made of, and a search through a text is a split of
  the text.  An expression that spells out some characters and then asks for the
  end of the text matches the texts that end in them (`isMatch_atEnd`).
-/

import TypedDocs.Regex.Basic
import Mathlib.Data.List.Basic
import Mathlib.Data.Char

namespace TypedDocs.Regex

/-! ## Single steps -/

theorem CharSet.contains_one {x c : Char} : (CharSet.one x).contains c = true ↔ c = x := by
  rw [CharSet.one, CharSet.contains, Bool.and_eq_true, decide_eq_true_eq, decide_eq_true_eq]
  constructor
  · rintro ⟨hxc, hcx⟩
    exact le_antisymm hcx hxc
  · rintro rfl
    exact ⟨le_refl _, le_refl _⟩

theorem mem_follow {step : Cursor → List Cursor} {cs : List Cursor} {d : Cursor} :
    d ∈ follow step cs ↔ ∃ c ∈ cs, d ∈ step c := by
  rw [follow, List.mem_eraseDups, List.mem_flatMap]

theorem mem_ends_seq {a b : Regex} {c d : Cursor} :
    d ∈ ends (.seq a b) c ↔ ∃ m ∈ ends a c, d ∈ ends b m := by
  rw [ends, mem_follow]

theorem mem_ends_anchor {a : Anchor} {c d : Cursor} :
    d ∈ ends (.anchor a) c ↔ a.holds c = true ∧ d = c := by
  rw [ends]
  split
  case isTrue h => simp [h]
  case isFalse h => simp [h]

/-- A set takes up one character that belongs to it. -/
theorem mem_ends_set {s : CharSet} {c d : Cursor} :
    d ∈ ends (.set s) c ↔
      ∃ x rest, c.after = x :: rest ∧ s.contains x = true ∧ d = ⟨x :: c.before, rest⟩ := by
  rw [ends]
  cases hafter : c.after with
  | nil => simp
  | cons x rest =>
    dsimp only
    constructor
    · intro h
      split at h
      case isTrue hx => exact ⟨x, rest, rfl, hx, List.mem_singleton.1 h⟩
      case isFalse => cases h
    · rintro ⟨y, tail, heq, hy, rfl⟩
      obtain ⟨rfl, rfl⟩ := List.cons.inj heq
      rw [if_pos hy]
      exact List.mem_singleton.2 rfl

/-! ## Searches -/

/-- The places of a text are its splits. -/
theorem mem_placesFrom {before s : Text} {c : Cursor} :
    c ∈ placesFrom before s ↔ ∃ p, s = p ++ c.after ∧ c.before = p.reverse ++ before := by
  induction s generalizing before with
  | nil =>
    rw [placesFrom, List.mem_singleton]
    constructor
    · rintro rfl
      exact ⟨[], rfl, rfl⟩
    · rintro ⟨p, hp, hbefore⟩
      obtain ⟨rfl, hafter⟩ := List.append_eq_nil_iff.1 hp.symm
      obtain ⟨b, a⟩ := c
      simp only at hafter hbefore
      rw [hafter, hbefore]
      rfl
  | cons x s ih =>
    rw [placesFrom, List.mem_cons, ih]
    constructor
    · rintro (rfl | ⟨p, rfl, hbefore⟩)
      · exact ⟨[], rfl, rfl⟩
      · exact ⟨x :: p, rfl, by rw [hbefore, List.reverse_cons, List.append_assoc]; rfl⟩
    · rintro ⟨p, hp, hbefore⟩
      cases p with
      | nil =>
        obtain ⟨b, a⟩ := c
        rw [List.nil_append] at hp
        simp only [List.reverse_nil, List.nil_append] at hp hbefore
        left
        rw [hp, hbefore]
      | cons y p =>
        obtain ⟨rfl, hs⟩ := List.cons.inj hp
        refine Or.inr ⟨p, hs, ?_⟩
        rw [hbefore, List.reverse_cons, List.append_assoc]
        rfl

/-- An expression matches where some part of the text lets it end. -/
theorem isMatch_iff {r : Regex} {s : Text} :
    r.isMatch s = true ↔ ∃ p rest d, s = p ++ rest ∧ d ∈ ends r ⟨p.reverse, rest⟩ := by
  rw [isMatch, List.any_eq_true]
  constructor
  · rintro ⟨⟨before, after⟩, hmem, hends⟩
    obtain ⟨p, hs, hbefore⟩ := mem_placesFrom.1 hmem
    obtain ⟨d, hd⟩ := List.exists_mem_of_ne_nil _ (by simpa using hends)
    rw [List.append_nil] at hbefore
    exact ⟨p, after, d, hs, by rw [← hbefore]; exact hd⟩
  · rintro ⟨p, rest, d, rfl, hd⟩
    refine ⟨⟨p.reverse, rest⟩, mem_placesFrom.2 ⟨p, rfl, by rw [List.append_nil]⟩, ?_⟩
    simpa using List.ne_nil_of_mem hd

/-! ## Literal endings -/

/-- Some characters, one after the other, and then the end of the text. -/
def atEnd : Text → Regex
  | [] => .anchor .textEnd
  | c :: p => .seq (.set (.one c)) (atEnd p)

/-- From a place on, the characters are all that is left of the text. -/
theorem exists_mem_ends_atEnd {p : Text} {c : Cursor} :
    (∃ d, d ∈ ends (atEnd p) c) ↔ c.after = p := by
  induction p generalizing c with
  | nil => simp [atEnd, mem_ends_anchor, Anchor.holds]
  | cons x p ih =>
    simp only [atEnd, mem_ends_seq, mem_ends_set, CharSet.contains_one]
    constructor
    · rintro ⟨d, m, ⟨y, rest, hafter, rfl, rfl⟩, hd⟩
      have hrest : rest = p := ih.1 ⟨d, hd⟩
      rw [hafter, hrest]
    · intro hafter
      obtain ⟨d, hd⟩ := (ih (c := ⟨x :: c.before, p⟩)).2 rfl
      exact ⟨d, ⟨x :: c.before, p⟩, ⟨x, p, hafter, rfl, rfl⟩, hd⟩

/-- The texts that end in some characters are those in which the characters are found at the end. -/
theorem isMatch_atEnd {p s : Text} : (atEnd p).isMatch s = true ↔ p <:+ s := by
  rw [isMatch_iff]
  constructor
  · rintro ⟨front, rest, d, rfl, hd⟩
    have hrest : rest = p := exists_mem_ends_atEnd.1 ⟨d, hd⟩
    rw [hrest]
    exact List.suffix_append ..
  · rintro ⟨front, rfl⟩
    obtain ⟨d, hd⟩ := (exists_mem_ends_atEnd (p := p) (c := ⟨front.reverse, p⟩)).2 rfl
    exact ⟨front, p, d, rfl, hd⟩

end TypedDocs.Regex
