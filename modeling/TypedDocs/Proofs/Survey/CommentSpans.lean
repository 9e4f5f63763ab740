/-
  The comment spans of a tree lie apart.

  Of the spans that the declarations of a subtree take, at most one lies
  outside the subtree: that of the declaration which the subtree's root is or
  wraps.  Everything else lies inside.  Below a node that is no wrapper, the
  outer span of a child reaches back over decorators and comments only, so it
  stops short of every other child that can take a span (`BelowKid.apart`).  By
  induction over the tree no two declarations take spans that share bytes.
-/

import TypedDocs.Proofs.Survey.Locate
import TypedDocs.Proofs.Survey.WellFormed
import Mathlib.Data.List.Perm.Basic

namespace TypedDocs.Survey

open Outline

/-! ## Declarations and their spans -/

/-- The spans that the declarations at some places take. -/
def commentSpans (source : Text) (ps : List Place) : List Span :=
  ps.filterMap fun p => (kind? source p).map fun _ => commentSpan source p

@[simp] theorem commentSpans_nil (source : Text) : commentSpans source [] = [] := rfl

theorem commentSpans_append (source : Text) (ps qs : List Place) :
    commentSpans source (ps ++ qs) = commentSpans source ps ++ commentSpans source qs :=
  List.filterMap_append

theorem commentSpans_cons_of_none {source : Text} {p : Place} (h : kind? source p = none)
    (ps : List Place) : commentSpans source (p :: ps) = commentSpans source ps := by
  unfold commentSpans
  rw [List.filterMap_cons_none (by rw [h]; rfl)]

theorem commentSpans_cons_of_some {source : Text} {p : Place} {kind : DeclarationKind}
    (h : kind? source p = some kind) (ps : List Place) :
    commentSpans source (p :: ps) = commentSpan source p :: commentSpans source ps := by
  unfold commentSpans
  rw [List.filterMap_cons_some (by rw [h]; rfl)]

/-- The spans of the declarations found are those of the places that declare something. -/
theorem map_commentSpan_filterMap (source : Text) (ps : List Place) :
    (ps.filterMap (declaration? source)).map Declaration.commentSpan = commentSpans source ps := by
  rw [List.map_filterMap]
  unfold commentSpans
  congr 1
  funext p
  unfold declaration?
  cases kind? source p <;> rfl

/-! ## Who can take a span -/

/-- Whether a place declares something or wraps a declaration. -/
def Claims (source : Text) (p : Place) : Prop :=
  isWrapper p.here = true ∨ (kind? source p).isSome = true

/-- Only the kind of the parent bears on what a child is. -/
theorem claims_iff_isClaimant (source : Text) (kid parent : Outline) (before bs : List Outline)
    (above : List (Outline × List Outline)) :
    Claims source ⟨kid, before, (parent, bs) :: above⟩ ↔ isClaimant source parent kid = true := by
  unfold Claims isClaimant
  rw [Bool.or_eq_true]
  exact Iff.rfl

/-- Wrappers are no declarations. -/
theorem kind?_of_isWrapper {source : Text} {p : Place} (h : isWrapper p.here = true) :
    kind? source p = none := by
  unfold isWrapper at h
  rw [Bool.or_eq_true, beq_iff_eq, beq_iff_eq] at h
  unfold kind? isConstructor
  rcases h with h | h <;> simp [h]

/-- Comments and decorators neither declare nor wrap anything. -/
theorem Claims.kind_ne {source : Text} {p : Place} (h : Claims source p) :
    p.here.kind ≠ .comment ∧ p.here.kind ≠ .decorator := by
  have hnot : ∀ k, p.here.kind = k → (k = .comment ∨ k = .decorator) → False := by
    intro k hk hkind
    rcases h with h | h
    · rcases hkind with rfl | rfl <;> simp [isWrapper, hk] at h
    · rcases hkind with rfl | rfl <;> simp [kind?, isConstructor, hk] at h
  exact ⟨fun hk => hnot _ hk (Or.inl rfl), fun hk => hnot _ hk (Or.inr rfl)⟩

/-! ## Siblings -/

/-- A span is apart from every earlier sibling but comments, and it is behind every earlier sibling
    but comments and decorators. -/
structure KeepsClear (before : List Outline) (s : Span) : Prop where
  apart : ∀ b ∈ before, b.kind ≠ .comment → s.Apart b.span
  behind : ∀ b ∈ before, b.kind ≠ .comment → b.kind ≠ .decorator → b.span.stop ≤ s.start

theorem KeepsClear.of_le {before : List Outline} {s : Span}
    (h : ∀ b ∈ before, b.span.stop ≤ s.start) : KeepsClear before s where
  apart b hb _ := Or.inr (h b hb)
  behind b hb _ _ := h b hb

theorem KeepsClear.tail {k : Outline} {before : List Outline} {s : Span}
    (h : KeepsClear (k :: before) s) : KeepsClear before s where
  apart b hb := h.apart b (List.mem_cons_of_mem _ hb)
  behind b hb := h.behind b (List.mem_cons_of_mem _ hb)

/-- A span that begins at a decorator, or takes up to all of a comment, keeps clear of what stands
    before a node if between them and the node there are decorators and comments only. -/
theorem KeepsClear.of_split {near far : List Outline} {n : Outline} {s : Span}
    (hnear : ∀ b ∈ near, b.kind = .decorator ∨ b.kind = .comment)
    (hordered : (near ++ n :: far).Pairwise fun a b => b.span.stop ≤ a.span.start)
    (hstart : s.start = n.span.start) (hstop : s.stop ≤ n.span.stop)
    (hn : (n.kind = .decorator ∧ s.stop ≤ n.span.start) ∨ n.kind = .comment) :
    KeepsClear (near ++ n :: far) s := by
  obtain ⟨-, hfar, hnearn⟩ := List.pairwise_append.1 hordered
  have hfarn : ∀ b ∈ far, b.span.stop ≤ s.start := by
    rw [hstart]
    exact (List.pairwise_cons.1 hfar).1
  constructor
  · intro b hb hcomment
    rcases List.mem_append.1 hb with hb | hb
    · exact Or.inl (Nat.le_trans hstop (hnearn b hb n (List.mem_cons_self ..)))
    · rcases List.mem_cons.1 hb with rfl | hb
      · rcases hn with ⟨-, hempty⟩ | h
        · exact Or.inl hempty
        · exact absurd h hcomment
      · exact Or.inr (hfarn b hb)
  · intro b hb hcomment hdecorator
    rcases List.mem_append.1 hb with hb | hb
    · rcases hnear b hb with h | h
      · exact absurd h hdecorator
      · exact absurd h hcomment
    · rcases List.mem_cons.1 hb with rfl | hb
      · rcases hn with ⟨h, -⟩ | h
        · exact absurd h hdecorator
        · exact absurd h hcomment
      · exact hfarn b hb

/-- Below a node that wraps nothing, the span of a child stops where the child starts. -/
theorem commentSpan_stop_le (source : Text) {here : Outline} {before : List Outline}
    {above : List (Outline × List Outline)}
    (hanchor : anchor here before above = (here.span.start, before))
    (hbefore : ∀ b ∈ before, b.span.stop ≤ here.span.start)
    (hrange : ∀ b ∈ before, b.span.start ≤ b.span.stop) :
    (commentSpan source ⟨here, before, above⟩).stop ≤ here.span.start := by
  rcases commentSpan_cases source (p := ⟨here, before, above⟩) hanchor with
    hspan | ⟨near, n, far, rfl, -, ⟨-, hspan⟩ | ⟨-, hspan⟩⟩
  · exact Nat.le_of_eq (by rw [hspan])
  · rw [hspan]
    exact Nat.le_trans (hrange n (by simp)) (hbefore n (by simp))
  · rw [hspan]
    exact hbefore n (by simp)

/-- Below a node that wraps nothing, the span of a child keeps clear of the earlier siblings. -/
theorem keepsClear_commentSpan (source : Text) {here : Outline} {before : List Outline}
    {above : List (Outline × List Outline)}
    (hanchor : anchor here before above = (here.span.start, before))
    (hordered : (here :: before).Pairwise fun a b => b.span.stop ≤ a.span.start)
    (hrange : ∀ b ∈ before, b.span.start ≤ b.span.stop) :
    KeepsClear before (commentSpan source ⟨here, before, above⟩) := by
  obtain ⟨hhere, hbefore⟩ := List.pairwise_cons.1 hordered
  rcases commentSpan_cases source (p := ⟨here, before, above⟩) hanchor with
    hspan | ⟨near, n, far, rfl, hnear, ⟨hdecorator, hspan⟩ | ⟨hcomment, hspan⟩⟩
  · rw [hspan]
    exact .of_le hhere
  · have hnrange : n.span.start ≤ n.span.stop := hrange n (by simp)
    rw [hspan]
    exact .of_split hnear hbefore rfl hnrange (Or.inl ⟨hdecorator, Nat.le_refl _⟩)
  · rw [hspan]
    exact .of_split hnear hbefore rfl (Nat.le_refl _) (Or.inr hcomment)

/-- The span of a child starts where the child or an earlier sibling starts. -/
theorem commentSpan_start (source : Text) {here : Outline} {before : List Outline}
    {above : List (Outline × List Outline)}
    (hanchor : anchor here before above = (here.span.start, before)) :
    ∃ n ∈ here :: before, (commentSpan source ⟨here, before, above⟩).start = n.span.start := by
  rcases commentSpan_cases source (p := ⟨here, before, above⟩) hanchor with
    hspan | ⟨near, n, far, rfl, -, ⟨-, hspan⟩ | ⟨-, hspan⟩⟩
  · exact ⟨here, List.mem_cons_self .., by rw [hspan]⟩
  · exact ⟨n, by simp, by rw [hspan]⟩
  · exact ⟨n, by simp, by rw [hspan]⟩

/-- A declaration in a wrapper takes the span of the wrapper. -/
theorem commentSpan_of_isWrapper {source : Text} {kid t : Outline} {before bs : List Outline}
    {above : List (Outline × List Outline)} (h : isWrapper t = true) :
    commentSpan source ⟨kid, before, (t, bs) :: above⟩ = commentSpan source ⟨t, bs, above⟩ := by
  have hanchor : anchor kid before ((t, bs) :: above) = anchor t bs above := by
    rw [anchor, if_pos h]
  unfold commentSpan locate
  rw [hanchor]

/-- A comment and what is below it takes no span. -/
theorem commentSpans_placesFrom_comment {source : Text} {t : Outline} {before : List Outline}
    {above : List (Outline × List Outline)} (hkind : t.kind = .comment) (hleaf : t.kids = []) :
    commentSpans source (placesFrom above before t) = [] := by
  obtain ⟨label, span, kids⟩ := t
  obtain rfl : kids = [] := hleaf
  have hnone : kind? source ⟨⟨label, span, []⟩, before, above⟩ = none := by
    rw [← Option.not_isSome_iff_eq_none]
    exact fun h => (Claims.kind_ne (p := ⟨⟨label, span, []⟩, before, above⟩) (Or.inr h)).1 hkind
  rw [placesFrom, commentSpans_cons_of_none hnone, placesOfKids, commentSpans_nil]

/-! ## Subtrees -/

/-- The spans taken below a place: some inside the place's node, apart from each
    other, and at most the place's own span besides. -/
def Settled (source : Text) (p : Place) (spans : List Span) : Prop :=
  ∃ inner : List Span, inner.Pairwise Span.Apart ∧ (∀ s ∈ inner, s.Within p.here.span) ∧
    (spans.Perm inner ∨ (Claims source p ∧ spans.Perm (commentSpan source p :: inner)))

/-- Where the place's own span stops before its node, the spans taken below it are apart. -/
theorem Settled.pairwise {source : Text} {p : Place} {spans : List Span}
    (h : Settled source p spans) (hown : (commentSpan source p).stop ≤ p.here.span.start) :
    spans.Pairwise Span.Apart := by
  obtain ⟨inner, hpair, hin, hperm | ⟨-, hperm⟩⟩ := h
  · exact (hperm.pairwise_iff fun h => h.symm).2 hpair
  · refine (hperm.pairwise_iff fun h => h.symm).2 (List.pairwise_cons.2 ⟨?_, hpair⟩)
    intro s hs
    exact Or.inl (Nat.le_trans hown (hin s hs).1)

/-- Two parts of which at most one takes a span outside of it. -/
theorem perm_append_of_claims {outer : Span} {P Q : Prop} {spans inner spans' inner' : List Span}
    (h : spans.Perm inner ∨ (P ∧ spans.Perm (outer :: inner)))
    (h' : spans'.Perm inner' ∨ (Q ∧ spans'.Perm (outer :: inner'))) (hone : ¬ (P ∧ Q)) :
    (spans ++ spans').Perm (inner ++ inner') ∨
      ((P ∨ Q) ∧ (spans ++ spans').Perm (outer :: (inner ++ inner'))) := by
  rcases h with hperm | ⟨hp, hperm⟩
  · rcases h' with hperm' | ⟨hq, hperm'⟩
    · exact Or.inl (hperm.append hperm')
    · exact Or.inr ⟨Or.inr hq, (hperm.append hperm').trans List.perm_middle⟩
  · rcases h' with hperm' | ⟨hq, -⟩
    · exact Or.inr ⟨Or.inl hp, hperm.append hperm'⟩
    · exact absurd ⟨hp, hq⟩ hone

/-- The children of a wrapper: only one of them can take a span outside itself, and
    that span is the wrapper's. -/
theorem settled_wrapped {source : Text} {t : Outline} {bs : List Outline}
    {above : List (Outline × List Outline)} (hwrap : isWrapper t = true)
    (ts before : List Outline) (hcount : ts.countP (isClaimant source t) ≤ 1)
    (hordered : ts.Pairwise fun a b => a.span.stop ≤ b.span.start)
    (ih : ∀ k ∈ ts, ∀ before, Settled source ⟨k, before, (t, bs) :: above⟩
      (commentSpans source (placesFrom ((t, bs) :: above) before k))) :
    ∃ inner : List Span, inner.Pairwise Span.Apart ∧ (∀ s ∈ inner, ∃ k ∈ ts, s.Within k.span) ∧
      ((commentSpans source (placesOfKids ((t, bs) :: above) before ts)).Perm inner ∨
        (0 < ts.countP (isClaimant source t) ∧
          (commentSpans source (placesOfKids ((t, bs) :: above) before ts)).Perm
            (commentSpan source ⟨t, bs, above⟩ :: inner))) := by
  induction ts generalizing before with
  | nil => exact ⟨[], List.Pairwise.nil, by simp, Or.inl (List.Perm.refl _)⟩
  | cons k ts iht =>
    obtain ⟨hk, hts⟩ := List.pairwise_cons.1 hordered
    obtain ⟨inner₁, hpair₁, hin₁, hperm₁⟩ := ih k (List.mem_cons_self ..) before
    have hle : ts.countP (isClaimant source t) ≤ (k :: ts).countP (isClaimant source t) :=
      (List.sublist_cons_self k ts).countP_le
    obtain ⟨inner₂, hpair₂, hin₂, hperm₂⟩ := iht (k :: before) (Nat.le_trans hle hcount) hts
      (fun x hx => ih x (List.mem_cons_of_mem _ hx))
    rw [commentSpan_of_isWrapper hwrap, claims_iff_isClaimant] at hperm₁
    refine ⟨inner₁ ++ inner₂, ?_, ?_, ?_⟩
    · refine List.pairwise_append.2 ⟨hpair₁, hpair₂, ?_⟩
      intro s hs s' hs'
      obtain ⟨k', hk', hwithin⟩ := hin₂ s' hs'
      exact (hin₁ s hs).apart hwithin (Or.inl (hk k' hk'))
    · intro s hs
      rcases List.mem_append.1 hs with hs | hs
      · exact ⟨k, List.mem_cons_self .., hin₁ s hs⟩
      · obtain ⟨k', hk', hwithin⟩ := hin₂ s hs
        exact ⟨k', List.mem_cons_of_mem _ hk', hwithin⟩
    · have hone : ¬ (isClaimant source t k = true ∧ 0 < ts.countP (isClaimant source t)) := by
        rintro ⟨hclaim, hpos⟩
        rw [List.countP_cons_of_pos hclaim] at hcount
        omega
      rw [placesOfKids, commentSpans_append]
      rcases perm_append_of_claims hperm₁ hperm₂ hone with hperm | ⟨hclaim | hpos, hperm⟩
      · exact Or.inl hperm
      · refine Or.inr ⟨?_, hperm⟩
        rw [List.countP_cons_of_pos hclaim]
        omega
      · exact Or.inr ⟨Nat.lt_of_lt_of_le hpos hle, hperm⟩

/-! ## The children of a node that wraps nothing -/

/-- How a span that is taken below a node lies to the node, which is no comment then: inside, or it
    is the span of the node itself. -/
inductive BelowKid (source : Text) (p : Place) (s : Span) : Prop
  | inside (hwithin : s.Within p.here.span) (hcomment : p.here.kind ≠ .comment)
  | own (hs : s = commentSpan source p) (hcomment : p.here.kind ≠ .comment)
      (hdecorator : p.here.kind ≠ .decorator)

theorem belowKid_of_mem {source : Text} {k : Outline} {before : List Outline}
    {above : List (Outline × List Outline)} {s : Span} (hwf : WellFormed source k)
    (hsettled : Settled source ⟨k, before, above⟩ (commentSpans source (placesFrom above before k)))
    (hs : s ∈ commentSpans source (placesFrom above before k)) :
    BelowKid source ⟨k, before, above⟩ s := by
  have hcomment : k.kind ≠ .comment := by
    intro hcomment
    have hleaf := hwf.leaves k (Tree.self_mem_preorder k) hcomment
    rw [commentSpans_placesFrom_comment hcomment hleaf] at hs
    cases hs
  obtain ⟨inner, -, hin, hperm | ⟨hclaim, hperm⟩⟩ := hsettled
  · exact .inside (hin s (hperm.mem_iff.1 hs)) hcomment
  · rcases List.mem_cons.1 (hperm.mem_iff.1 hs) with rfl | hs
    · exact .own rfl hclaim.kind_ne.1 hclaim.kind_ne.2
    · exact .inside (hin s hs) hcomment

section BelowKid

variable {source : Text} {p : Place} {s s' span : Span} {before : List Outline}

/-- The parent covers the child and the span of the child, so it covers all that is taken below. -/
theorem BelowKid.within (h : BelowKid source p s) (hkid : p.here.span.Within span)
    (hown : (commentSpan source p).Within span) : s.Within span := by
  cases h with
  | inside hwithin => exact hwithin.trans hkid
  | own hs => rwa [hs]

theorem BelowKid.keepsClear (h : BelowKid source p s)
    (hbefore : ∀ b ∈ before, b.span.stop ≤ p.here.span.start)
    (hown : KeepsClear before (commentSpan source p)) : KeepsClear before s := by
  cases h with
  | inside hwithin => exact .of_le fun b hb => Nat.le_trans (hbefore b hb) hwithin.1
  | own hs => rwa [hs]

/-- What is taken below a later sibling keeps clear of what is taken below a child. -/
theorem BelowKid.apart (h : BelowKid source p s) (hclear : KeepsClear (p.here :: before) s')
    (hown : (commentSpan source p).stop ≤ p.here.span.start)
    (hrange : p.here.span.start ≤ p.here.span.stop) : s.Apart s' := by
  have hmem : p.here ∈ p.here :: before := List.mem_cons_self ..
  cases h with
  | inside hwithin hcomment =>
    have hkid := hclear.apart p.here hmem hcomment
    exact hwithin.apart ⟨Nat.le_refl _, Nat.le_refl _⟩ hkid.symm
  | own hs hcomment hdecorator =>
    have hstop := hclear.behind p.here hmem hcomment hdecorator
    rw [hs]
    exact Or.inl (by omega)

end BelowKid

section Kids

variable {source : Text} {t k : Outline} {bs before ts : List Outline}
  {above : List (Outline × List Outline)}

theorem WellFormed.start_le_stop (hwf : WellFormed source t) (hk : k ∈ t.kids) :
    k.span.start ≤ k.span.stop :=
  (hwf.fits k (Tree.mem_preorder_of_mem_kids hk (Tree.self_mem_preorder k))).1

theorem mem_kids_of_split (hkids : t.kids = before.reverse ++ k :: ts) {n : Outline}
    (hn : n ∈ k :: before) : n ∈ t.kids := by
  rw [hkids]
  rcases List.mem_cons.1 hn with rfl | hn
  · simp
  · simp [hn]

/-- A child and what stands before it, the nearest first, in text order. -/
theorem WellFormed.pairwise_before (hwf : WellFormed source t)
    (hkids : t.kids = before.reverse ++ k :: ts) :
    (k :: before).Pairwise fun a b => b.span.stop ≤ a.span.start := by
  have hordered := hwf.ordered t (Tree.self_mem_preorder t)
  rw [hkids, List.append_cons, List.pairwise_append, ← List.reverse_cons] at hordered
  exact List.pairwise_reverse.1 hordered.1

theorem WellFormed.commentSpan_stop_le (hwf : WellFormed source t) (hwrap : isWrapper t = false)
    (hkids : t.kids = before.reverse ++ k :: ts) :
    (commentSpan source ⟨k, before, (t, bs) :: above⟩).stop ≤ k.span.start := by
  refine Survey.commentSpan_stop_le source (anchor_of_not_isWrapper hwrap)
    (List.pairwise_cons.1 (hwf.pairwise_before hkids)).1 fun b hb => ?_
  exact hwf.start_le_stop (mem_kids_of_split hkids (List.mem_cons_of_mem _ hb))

theorem WellFormed.keepsClear_commentSpan (hwf : WellFormed source t) (hwrap : isWrapper t = false)
    (hkids : t.kids = before.reverse ++ k :: ts) :
    KeepsClear before (commentSpan source ⟨k, before, (t, bs) :: above⟩) := by
  refine Survey.keepsClear_commentSpan source (anchor_of_not_isWrapper hwrap)
    (hwf.pairwise_before hkids) fun b hb => ?_
  exact hwf.start_le_stop (mem_kids_of_split hkids (List.mem_cons_of_mem _ hb))

/-- The span of a child lies inside the parent: it starts at one of the children and stops before
    another. -/
theorem WellFormed.commentSpan_within (hwf : WellFormed source t) (hwrap : isWrapper t = false)
    (hkids : t.kids = before.reverse ++ k :: ts) :
    (commentSpan source ⟨k, before, (t, bs) :: above⟩).Within t.span := by
  have hself : t ∈ t.preorder := Tree.self_mem_preorder t
  have hk : k ∈ t.kids := mem_kids_of_split hkids (List.mem_cons_self ..)
  have hanchor : anchor k before ((t, bs) :: above) = (k.span.start, before) :=
    anchor_of_not_isWrapper hwrap
  obtain ⟨n, hn, hstart⟩ := commentSpan_start source hanchor
  constructor
  · rw [hstart]
    exact (hwf.nested t hself n (mem_kids_of_split hkids hn)).1
  · calc (commentSpan source ⟨k, before, (t, bs) :: above⟩).stop
      _ ≤ k.span.start := hwf.commentSpan_stop_le hwrap hkids
      _ ≤ k.span.stop := hwf.start_le_stop hk
      _ ≤ t.span.stop := (hwf.nested t hself k hk).2

end Kids

/-- The children of a node that wraps nothing: all their spans are apart and inside
    the node, and they keep clear of the earlier siblings. -/
theorem apart_kids {source : Text} {t : Outline} {bs : List Outline}
    {above : List (Outline × List Outline)} (hwf : WellFormed source t)
    (hwrap : isWrapper t = false) (ts before : List Outline) (hkids : t.kids = before.reverse ++ ts)
    (ih : ∀ k ∈ ts, ∀ before, Settled source ⟨k, before, (t, bs) :: above⟩
      (commentSpans source (placesFrom ((t, bs) :: above) before k))) :
    (commentSpans source (placesOfKids ((t, bs) :: above) before ts)).Pairwise Span.Apart ∧
      ∀ s ∈ commentSpans source (placesOfKids ((t, bs) :: above) before ts),
        s.Within t.span ∧ KeepsClear before s := by
  induction ts generalizing before with
  | nil => exact ⟨List.Pairwise.nil, by simp [placesOfKids]⟩
  | cons k ts iht =>
    have hk : k ∈ t.kids := mem_kids_of_split hkids (List.mem_cons_self ..)
    have hsettled := ih k (List.mem_cons_self ..) before
    have hbelow : ∀ s ∈ commentSpans source (placesFrom ((t, bs) :: above) before k),
        BelowKid source ⟨k, before, (t, bs) :: above⟩ s :=
      fun s hs => belowKid_of_mem (hwf.kid hk) hsettled hs
    have hown : (commentSpan source ⟨k, before, (t, bs) :: above⟩).stop ≤ k.span.start :=
      hwf.commentSpan_stop_le hwrap hkids
    obtain ⟨hpair, hrest⟩ := iht (k :: before) (by rw [hkids]; simp)
      (fun x hx => ih x (List.mem_cons_of_mem _ hx))
    rw [placesOfKids, commentSpans_append]
    refine ⟨List.pairwise_append.2 ⟨hsettled.pairwise hown, hpair, ?_⟩, ?_⟩
    · intro s hs s' hs'
      exact (hbelow s hs).apart (hrest s' hs').2 hown (hwf.start_le_stop hk)
    · intro s hs
      rcases List.mem_append.1 hs with hs | hs
      · constructor
        · exact (hbelow s hs).within (hwf.nested t (Tree.self_mem_preorder t) k hk)
            (hwf.commentSpan_within hwrap hkids)
        · exact (hbelow s hs).keepsClear (List.pairwise_cons.1 (hwf.pairwise_before hkids)).1
            (hwf.keepsClear_commentSpan hwrap hkids)
      · exact ⟨(hrest s hs).1, (hrest s hs).2.tail⟩

/-- Every subtree of a well-formed tree is settled. -/
theorem settled_placesFrom {source : Text} (t : Outline) (hwf : WellFormed source t)
    (above : List (Outline × List Outline)) (before : List Outline) :
    Settled source ⟨t, before, above⟩ (commentSpans source (placesFrom above before t)) := by
  induction t using Tree.induct generalizing above before with
  | node label span kids ih =>
    have hself := Tree.self_mem_preorder (⟨label, span, kids⟩ : Outline)
    have ih' : ∀ k ∈ kids, ∀ before', Settled source
        ⟨k, before', (⟨label, span, kids⟩, before) :: above⟩
        (commentSpans source (placesFrom ((⟨label, span, kids⟩, before) :: above) before' k)) :=
      fun k hk before' => ih k hk (hwf.kid hk) _ before'
    rw [placesFrom]
    cases hwrap : isWrapper (⟨label, span, kids⟩ : Outline) with
    | true =>
      rw [commentSpans_cons_of_none (kind?_of_isWrapper hwrap)]
      obtain ⟨inner, hpair, hin, hperm⟩ := settled_wrapped hwrap kids []
        (hwf.wrappers _ hself hwrap) (hwf.ordered _ hself) ih'
      refine ⟨inner, hpair, ?_, ?_⟩
      · intro s hs
        obtain ⟨k, hk, hwithin⟩ := hin s hs
        exact hwithin.trans (hwf.nested _ hself k hk)
      · rcases hperm with hperm | ⟨-, hperm⟩
        · exact Or.inl hperm
        · exact Or.inr ⟨Or.inl hwrap, hperm⟩
    | false =>
      obtain ⟨hpair, hin⟩ := apart_kids hwf hwrap kids [] rfl ih'
      refine ⟨_, hpair, fun s hs => (hin s hs).1, ?_⟩
      cases hkind : kind? source ⟨⟨label, span, kids⟩, before, above⟩ with
      | none =>
        rw [commentSpans_cons_of_none hkind]
        exact Or.inl (List.Perm.refl _)
      | some kind =>
        rw [commentSpans_cons_of_some hkind]
        exact Or.inr ⟨Or.inr (by rw [hkind]; rfl), List.Perm.refl _⟩

/-- The declarations of a well-formed tree take spans that share no bytes, and no
    comment is inserted inside a comment that is replaced. -/
theorem pairwise_apart_declarations {source : Text} {root : Outline}
    (hwf : WellFormed source root) :
    (declarations source root).Pairwise fun a b => a.commentSpan.Apart b.commentSpan := by
  rw [← List.pairwise_map, declarations, map_commentSpan_filterMap, places]
  have hanchor : anchor root [] [] = (root.span.start, []) := rfl
  exact (settled_placesFrom root hwf [] []).pairwise
    (commentSpan_stop_le source hanchor (by simp) (by simp))

end TypedDocs.Survey
