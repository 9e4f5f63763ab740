/-
  Cuts of a text at byte offsets.

  Each cut of `Text.Basic` is tied to a split of the text: an offset is a
  boundary exactly when the text is `a ++ b` with `a` of that many bytes, and
  a slice is the middle of a split in three.  Everything that moves bytes
  around is proved from these splits, never from the recursion of the cuts.
  The last section compares spans: apart from each other, one inside another,
  or fitting a text.
-/

import TypedDocs.Text.Basic
import Mathlib.Data.List.Basic

namespace TypedDocs.Text

/-! ## Sizes -/

@[simp] theorem size_nil : size [] = 0 := rfl

@[simp] theorem size_cons (c : Char) (s : Text) : size (c :: s) = c.utf8Size + size s := rfl

@[simp] theorem size_append (a b : Text) : size (a ++ b) = size a + size b := by
  induction a with
  | nil => simp
  | cons c a ih => rw [List.cons_append, size_cons, size_cons, ih, Nat.add_assoc]

/-- Every character has a byte, so only the empty text has no bytes. -/
theorem size_eq_zero {s : Text} : size s = 0 ↔ s = [] := by
  cases s with
  | nil => simp
  | cons c s =>
    have hc : 0 < c.utf8Size := c.utf8Size_pos
    simp only [size_cons, reduceCtorEq, iff_false]
    omega

/-! ## Cuts as splits -/

/-- Dropping `n` bytes leaves the rest of a split after `n` bytes. -/
theorem dropBytes?_eq_some {n : Nat} {s r : Text} :
    dropBytes? n s = some r ↔ ∃ a, s = a ++ r ∧ size a = n := by
  fun_induction dropBytes? n s with
  | case1 s =>
    constructor
    · intro h
      exact ⟨[], by simpa using h, rfl⟩
    · rintro ⟨a, rfl, ha⟩
      rw [size_eq_zero.1 ha, List.nil_append]
  | case2 n =>
    simp only [reduceCtorEq, false_iff]
    rintro ⟨a, ha, hn⟩
    rw [(List.append_eq_nil_iff.1 ha.symm).1] at hn
    simp at hn
  | case3 n c s hc ih =>
    rw [ih]
    clear ih
    constructor
    · rintro ⟨a, rfl, ha⟩
      exact ⟨c :: a, rfl, by rw [size_cons]; omega⟩
    · rintro ⟨a, ha, hn⟩
      cases a with
      | nil => simp at hn
      | cons d a =>
        rw [List.cons_append, List.cons.injEq] at ha
        obtain ⟨rfl, rfl⟩ := ha
        rw [size_cons] at hn
        exact ⟨a, rfl, by omega⟩
  | case4 n c s hc =>
    simp only [reduceCtorEq, false_iff]
    rintro ⟨a, ha, hn⟩
    cases a with
    | nil => simp at hn
    | cons d a =>
      rw [List.cons_append, List.cons.injEq] at ha
      obtain ⟨rfl, rfl⟩ := ha
      rw [size_cons] at hn
      omega

/-- Taking `n` bytes gives the first part of a split after `n` bytes. -/
theorem takeBytes?_eq_some {n : Nat} {s p : Text} :
    takeBytes? n s = some p ↔ ∃ r, s = p ++ r ∧ size p = n := by
  fun_induction takeBytes? n s generalizing p with
  | case1 s =>
    constructor
    · intro h
      obtain rfl : [] = p := by simpa using h
      exact ⟨s, rfl, rfl⟩
    · rintro ⟨r, rfl, hp⟩
      rw [size_eq_zero.1 hp]
  | case2 n =>
    simp only [reduceCtorEq, false_iff]
    rintro ⟨r, hr, hn⟩
    rw [(List.append_eq_nil_iff.1 hr.symm).1] at hn
    simp at hn
  | case3 n c s hc ih =>
    rw [Option.map_eq_some_iff]
    constructor
    · rintro ⟨q, hq, rfl⟩
      obtain ⟨r, rfl, hn⟩ := ih.1 hq
      exact ⟨r, rfl, by rw [size_cons]; omega⟩
    · rintro ⟨r, hr, hn⟩
      cases p with
      | nil => simp at hn
      | cons d q =>
        rw [List.cons_append, List.cons.injEq] at hr
        obtain ⟨rfl, rfl⟩ := hr
        rw [size_cons] at hn
        exact ⟨q, ih.2 ⟨r, rfl, by omega⟩, rfl⟩
  | case4 n c s hc =>
    simp only [reduceCtorEq, false_iff]
    rintro ⟨r, hr, hn⟩
    cases p with
    | nil => simp at hn
    | cons d q =>
      rw [List.cons_append, List.cons.injEq] at hr
      obtain ⟨rfl, rfl⟩ := hr
      rw [size_cons] at hn
      omega

/-- A slice is the middle of a split in three. -/
theorem slice?_eq_some {s m : Text} {start stop : Nat} :
    slice? s start stop = some m ↔
      ∃ a r, s = a ++ m ++ r ∧ size a = start ∧ start + size m = stop := by
  unfold slice?
  constructor
  · intro h
    split at h
    case isTrue hle =>
      obtain ⟨t, ht, hm⟩ := Option.bind_eq_some_iff.1 h
      obtain ⟨a, rfl, ha⟩ := dropBytes?_eq_some.1 ht
      obtain ⟨r, rfl, hr⟩ := takeBytes?_eq_some.1 hm
      exact ⟨a, r, by rw [List.append_assoc], ha, by omega⟩
    case isFalse => cases h
  · rintro ⟨a, r, rfl, ha, hm⟩
    rw [if_pos (by omega), Option.bind_eq_some_iff]
    refine ⟨m ++ r, dropBytes?_eq_some.2 ⟨a, by rw [List.append_assoc], ha⟩, ?_⟩
    exact takeBytes?_eq_some.2 ⟨r, rfl, by omega⟩

/-! ## Boundaries -/

/-- Byte `n` does not fall past the end of the text or inside a character. -/
def IsBoundary (s : Text) (n : Nat) : Prop :=
  (dropBytes? n s).isSome

instance (s : Text) (n : Nat) : Decidable (s.IsBoundary n) :=
  inferInstanceAs (Decidable (_ = true))

theorem isBoundary_iff {s : Text} {n : Nat} :
    s.IsBoundary n ↔ ∃ a b, s = a ++ b ∧ size a = n := by
  unfold IsBoundary
  rw [Option.isSome_iff_exists]
  constructor
  · rintro ⟨b, hb⟩
    obtain ⟨a, h, ha⟩ := dropBytes?_eq_some.1 hb
    exact ⟨a, b, h, ha⟩
  · rintro ⟨a, b, h, ha⟩
    exact ⟨b, dropBytes?_eq_some.2 ⟨a, h, ha⟩⟩

theorem IsBoundary.le_size {s : Text} {n : Nat} (h : s.IsBoundary n) : n ≤ size s := by
  obtain ⟨a, b, rfl, rfl⟩ := isBoundary_iff.1 h
  rw [size_append]
  exact Nat.le_add_right ..

/-- Two splits of one text: the shorter first part begins the longer one. -/
theorem exists_append_of_size_le {a b c d : Text} (h : a ++ b = c ++ d)
    (hle : size a ≤ size c) : ∃ m, c = a ++ m ∧ b = m ++ d := by
  rcases List.append_eq_append_iff.1 h with ⟨m, hc, hb⟩ | ⟨m, ha, hd⟩
  · exact ⟨m, hc, hb⟩
  · have hm : size m = 0 := by
      rw [ha, size_append] at hle
      omega
    rw [size_eq_zero.1 hm] at ha hd
    exact ⟨[], by simpa using ha.symm, by simpa using hd.symm⟩

/-- A cut between two boundaries in the right order succeeds. -/
theorem slice?_isSome {s : Text} {start stop : Nat} (hle : start ≤ stop)
    (hstart : s.IsBoundary start) (hstop : s.IsBoundary stop) : (slice? s start stop).isSome := by
  obtain ⟨a, b, rfl, ha⟩ := isBoundary_iff.1 hstart
  obtain ⟨c, d, hcd, hc⟩ := isBoundary_iff.1 hstop
  obtain ⟨m, rfl, rfl⟩ := exists_append_of_size_le hcd (by omega)
  rw [size_append] at hc
  exact Option.isSome_of_eq_some
    (slice?_eq_some.2 ⟨a, d, by rw [List.append_assoc], ha, by omega⟩)

/-- At a boundary, the line in front of it can be read. -/
theorem lineHead?_isSome {s : Text} {n : Nat} (h : s.IsBoundary n) : (lineHead? s n).isSome := by
  obtain ⟨a, b, rfl, ha⟩ := isBoundary_iff.1 h
  unfold lineHead?
  rw [Option.isSome_map, takeBytes?_eq_some.2 ⟨b, rfl, ha⟩]
  rfl

theorem lineOf?_isSome {s : Text} {n : Nat} (h : s.IsBoundary n) : (lineOf? s n).isSome := by
  unfold lineOf?
  rw [if_pos h.le_size]
  rfl

theorem startsLine?_isSome {s : Text} {n : Nat} (h : s.IsBoundary n) :
    (startsLine? s n).isSome := by
  unfold startsLine?
  rw [Option.isSome_map]
  exact lineHead?_isSome h

theorem lineIndent?_isSome {s : Text} {n : Nat} (h : s.IsBoundary n) :
    (lineIndent? s n).isSome := by
  unfold lineIndent?
  rw [Option.isSome_map]
  exact lineHead?_isSome h

end TypedDocs.Text

namespace TypedDocs

/-! ## Spans -/

namespace Span

/-- Neither span starts before the other one stops. -/
def Apart (a b : Span) : Prop :=
  a.stop ≤ b.start ∨ b.stop ≤ a.start

theorem Apart.symm {a b : Span} (h : a.Apart b) : b.Apart a :=
  Or.symm h

/-- One span lies inside another. -/
def Within (a b : Span) : Prop :=
  b.start ≤ a.start ∧ a.stop ≤ b.stop

instance (a b : Span) : Decidable (a.Within b) :=
  inferInstanceAs (Decidable (_ ∧ _))

theorem Within.trans {a b c : Span} (hab : a.Within b) (hbc : b.Within c) : a.Within c :=
  ⟨Nat.le_trans hbc.1 hab.1, Nat.le_trans hab.2 hbc.2⟩

/-- What lies inside two spans that are apart is apart. -/
theorem Within.apart {a b c d : Span} (hac : a.Within c) (hbd : b.Within d) (h : c.Apart d) :
    a.Apart b := by
  unfold Within at hac hbd
  unfold Apart at h ⊢
  omega

/-- The span is a range of a text, from character boundary to character boundary. -/
def Fits (source : Text) (s : Span) : Prop :=
  s.start ≤ s.stop ∧ source.IsBoundary s.start ∧ source.IsBoundary s.stop

instance (source : Text) (s : Span) : Decidable (s.Fits source) :=
  inferInstanceAs (Decidable (_ ∧ _ ∧ _))

theorem Fits.slice?_isSome {source : Text} {s : Span} (h : s.Fits source) :
    (source.slice? s.start s.stop).isSome :=
  Text.slice?_isSome h.1 h.2.1 h.2.2

end Span

end TypedDocs
