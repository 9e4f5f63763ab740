/-
  Where a declaration's comment goes.

  `locate` walks back over the siblings of a declaration or of the outermost
  wrapper around it.  The lemmas below say what such a walk can find: the start
  is that of the node itself or of a decorator before it, and the comment is a
  sibling with nothing but decorators and comments between it and the node.
-/

import TypedDocs.Survey

namespace TypedDocs.Survey

open Outline

/-! ## The walk over siblings -/

/-- Passing decorators: what is passed are decorators, and the start is that of the last passed. -/
theorem passDecorators_cases (start : Nat) (bs : List Outline) :
    ∃ ds : List Outline, bs = ds ++ (passDecorators start bs).2 ∧ (∀ d ∈ ds, d.kind = .decorator) ∧
      ((ds = [] ∧ (passDecorators start bs).1 = start) ∨
        ∃ init d, ds = init ++ [d] ∧ (passDecorators start bs).1 = d.span.start) := by
  induction bs generalizing start with
  | nil => exact ⟨[], rfl, by simp, Or.inl ⟨rfl, rfl⟩⟩
  | cons t ts ih =>
    by_cases ht : t.kind = .decorator
    · obtain ⟨ds, hts, hds, hstart⟩ := ih t.span.start
      have hpass : passDecorators start (t :: ts) = passDecorators t.span.start ts := by
        rw [passDecorators, if_pos (by simp [ht])]
      rw [hpass]
      refine ⟨t :: ds, by rw [List.cons_append, ← hts], ?_, Or.inr ?_⟩
      · intro d hd
        rcases List.mem_cons.1 hd with rfl | hd
        · exact ht
        · exact hds d hd
      · rcases hstart with ⟨rfl, hstart⟩ | ⟨init, d, rfl, hstart⟩
        · exact ⟨[], t, rfl, hstart⟩
        · exact ⟨t :: init, d, rfl, hstart⟩
    · have hpass : passDecorators start (t :: ts) = (start, t :: ts) := by
        rw [passDecorators, if_neg (by simpa using ht)]
      rw [hpass]
      exact ⟨[], rfl, by simp, Or.inl ⟨rfl, rfl⟩⟩

/-- Passing plain comments: what is passed are comments, and none of them is documentation. -/
theorem passPlainComments_cases (source : Text) (bs : List Outline) :
    ∃ cs : List Outline, bs = cs ++ passPlainComments source bs ∧
      ∀ c ∈ cs, c.kind = .comment ∧ c.isDocComment source = false := by
  induction bs with
  | nil => exact ⟨[], rfl, by simp⟩
  | cons t ts ih =>
    rw [passPlainComments]
    split
    case isTrue ht =>
      obtain ⟨cs, hts, hcs⟩ := ih
      refine ⟨t :: cs, by rw [List.cons_append, ← hts], ?_⟩
      intro c hc
      rcases List.mem_cons.1 hc with rfl | hc
      · simpa only [Bool.and_eq_true, beq_iff_eq, Bool.not_eq_true'] using ht
      · exact hcs c hc
    case isFalse => exact ⟨[], rfl, by simp⟩

/-! ## The anchor -/

/-- The anchor is a place on the way up from the node. -/
theorem exists_anchor_eq (here : Outline) (before : List Outline)
    (above : List (Outline × List Outline)) :
    ∃ x bs, (x, bs) ∈ (here, before) :: above ∧
      anchor here before above = (x.span.start, bs) := by
  induction above generalizing here before with
  | nil => exact ⟨here, before, List.mem_cons_self .., rfl⟩
  | cons a above ih =>
    obtain ⟨t, bs⟩ := a
    rw [anchor]
    split
    case isTrue =>
      obtain ⟨x, bs', hmem, heq⟩ := ih t bs
      exact ⟨x, bs', List.mem_cons_of_mem _ hmem, heq⟩
    case isFalse => exact ⟨here, before, List.mem_cons_self .., rfl⟩

/-- Below a node that wraps nothing, a node is its own anchor. -/
theorem anchor_of_not_isWrapper {here t : Outline} {before bs : List Outline}
    {above : List (Outline × List Outline)} (h : isWrapper t = false) :
    anchor here before ((t, bs) :: above) = (here.span.start, before) := by
  rw [anchor, if_neg (by simp [h])]

/-! ## The located comment -/

/-- The documentation comment among the siblings that are left behind the decorators. -/
def docAmong (source : Text) (bs : List Outline) : Option Span :=
  match passPlainComments source bs with
  | [] => none
  | t :: _ =>
    if t.isDocComment source && (source.startsLine? t.span.start).getD false then some t.span
    else none

theorem locate_eq {source : Text} {p : Place} {start : Nat} {bs : List Outline}
    (h : anchor p.here p.before p.above = (start, bs)) :
    locate source p = ((passDecorators start bs).1, docAmong source (passDecorators start bs).2) := by
  unfold locate
  rw [h]
  rfl

/-- The span that the comment of a declaration at a place takes. -/
def commentSpan (source : Text) (p : Place) : Span :=
  (locate source p).2.getD ⟨(locate source p).1, (locate source p).1⟩

theorem kind_of_isDocComment {source : Text} {t : Outline} (h : t.isDocComment source = true) :
    t.kind = .comment := by
  simp only [isDocComment, Bool.and_eq_true, beq_iff_eq] at h
  exact h.1.1

/-- A located comment is documentation that begins a line, and the siblings between it and the
    node are plain comments. -/
theorem docAmong_cases {source : Text} {bs : List Outline} {s : Span}
    (h : docAmong source bs = some s) :
    ∃ cs c rest, bs = cs ++ c :: rest ∧
      (∀ b ∈ cs, b.kind = .comment ∧ b.isDocComment source = false) ∧
      c.isDocComment source = true ∧ source.startsLine? c.span.start = some true ∧ s = c.span := by
  obtain ⟨cs, hbs, hcs⟩ := passPlainComments_cases source bs
  unfold docAmong at h
  split at h
  case h_1 => cases h
  case h_2 c rest hpass =>
    split at h
    case isTrue hdoc =>
      rw [hpass] at hbs
      rw [Bool.and_eq_true, Option.getD_eq_iff] at hdoc
      have hline : source.startsLine? c.span.start = some true := by simpa using hdoc.2
      exact ⟨cs, c, rest, hbs, hcs, hdoc.1, hline, (Option.some.inj h).symm⟩
    case isFalse => cases h

/-- A declaration starts with its anchor or with a decorator before it. -/
theorem locate_start_cases (source : Text) {p : Place} {x : Outline} {bs : List Outline}
    (h : anchor p.here p.before p.above = (x.span.start, bs)) :
    (locate source p).1 = x.span.start ∨ ∃ d ∈ bs, (locate source p).1 = d.span.start := by
  rw [locate_eq h]
  obtain ⟨ds, hbs, -, ⟨-, hstart⟩ | ⟨init, d, rfl, hstart⟩⟩ := passDecorators_cases x.span.start bs
  · exact Or.inl hstart
  · refine Or.inr ⟨d, ?_, hstart⟩
    rw [hbs]
    simp

/-- The comment of a declaration goes right before its anchor, right before a
    decorator, or in place of a comment.  Between that sibling and the anchor stand only
    decorators and comments. -/
theorem commentSpan_cases (source : Text) {p : Place} {x : Outline} {bs : List Outline}
    (h : anchor p.here p.before p.above = (x.span.start, bs)) :
    commentSpan source p = ⟨x.span.start, x.span.start⟩ ∨
      ∃ near n far, bs = near ++ n :: far ∧ (∀ b ∈ near, b.kind = .decorator ∨ b.kind = .comment) ∧
        ((n.kind = .decorator ∧ commentSpan source p = ⟨n.span.start, n.span.start⟩) ∨
          (n.kind = .comment ∧ commentSpan source p = n.span)) := by
  obtain ⟨ds, hbs, hds, hstart⟩ := passDecorators_cases x.span.start bs
  unfold commentSpan
  rw [locate_eq h]
  cases hdoc : docAmong source (passDecorators x.span.start bs).2 with
  | none =>
    rcases hstart with ⟨-, hstart⟩ | ⟨init, d, rfl, hstart⟩
    · left
      rw [Option.getD_none, hstart]
    · refine Or.inr ⟨init, d, (passDecorators x.span.start bs).2, ?_, ?_, Or.inl ⟨?_, ?_⟩⟩
      · rw [List.append_assoc] at hbs
        exact hbs
      · exact fun b hb => Or.inl (hds b (List.mem_append_left _ hb))
      · exact hds d (by simp)
      · rw [Option.getD_none, hstart]
  | some s =>
    obtain ⟨cs, c, rest, hrest, hcs, hc, -, rfl⟩ := docAmong_cases hdoc
    refine Or.inr ⟨ds ++ cs, c, rest, ?_, ?_, Or.inr ⟨kind_of_isDocComment hc, rfl⟩⟩
    · rw [List.append_assoc, ← hrest]
      exact hbs
    · intro b hb
      rcases List.mem_append.1 hb with hb | hb
      · exact Or.inl (hds b hb)
      · exact Or.inr (hcs b hb).1

end TypedDocs.Survey
