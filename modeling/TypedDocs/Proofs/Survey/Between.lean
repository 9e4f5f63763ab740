/-
  What starts between a documentation comment and its declaration.

  In a well-formed outline two nodes are nested or one lies behind the other
  (`WellFormed.below_or_apart`), and a place knows all the children of its
  parent that stand before it (`linked_of_mem_places`).  So whatever starts
  behind the documentation of a declaration and in front of the declaration is
  one of the plain comments between them (`plain_of_between`), and no other
  declaration takes a comment there (`clear_between`).
-/

import TypedDocs.Proofs.Survey.CommentSpans
import TypedDocs.Proofs.Survey.Found
import TypedDocs.Proofs.Survey.Interleaving
import Mathlib.Data.List.Pairwise

namespace TypedDocs.Survey

open Outline Text

/-! ## Nodes of a well-formed outline -/

theorem WellFormed.node {source : Text} {root t : Outline} (hwf : WellFormed source root)
    (ht : t ∈ root.preorder) : WellFormed source t := by
  induction root using Tree.induct with
  | node label span kids ih =>
    rw [Tree.preorder_eq, List.mem_cons, List.mem_flatMap] at ht
    rcases ht with rfl | ⟨k, hk, ht⟩
    · exact hwf
    · exact ih k hk (hwf.kid hk) ht

/-- What is below a node lies inside it. -/
theorem WellFormed.within {source : Text} {t n : Outline} (hwf : WellFormed source t)
    (hn : n ∈ t.preorder) : n.span.Within t.span := by
  induction t using Tree.induct with
  | node label span kids ih =>
    have hself := Tree.self_mem_preorder (⟨label, span, kids⟩ : Outline)
    rw [Tree.preorder_eq, List.mem_cons, List.mem_flatMap] at hn
    rcases hn with rfl | ⟨k, hk, hn⟩
    · exact ⟨Nat.le_refl _, Nat.le_refl _⟩
    · exact (ih k hk (hwf.kid hk) hn).trans (hwf.nested _ hself k hk)

/-- Two children of a node are one or lie apart. -/
theorem WellFormed.eq_or_apart {source : Text} {t j k : Outline} (hwf : WellFormed source t)
    (hj : j ∈ t.kids) (hk : k ∈ t.kids) : j = k ∨ j.span.Apart k.span := by
  have hsymm : Std.Symm fun a b : Outline => a.span.Apart b.span := ⟨fun _ _ h => h.symm⟩
  have happart : t.kids.Pairwise fun a b => a.span.Apart b.span :=
    (hwf.ordered t (Tree.self_mem_preorder t)).imp Or.inl
  by_cases hjk : j = k
  · exact Or.inl hjk
  · exact Or.inr (happart.forall hj hk hjk)

/-- A node is below another one, or it starts no later, or it starts behind it. -/
theorem WellFormed.below_or_apart {source : Text} {root t n : Outline}
    (hwf : WellFormed source root) (ht : t ∈ root.preorder) (hn : n ∈ root.preorder) :
    n ∈ t.preorder ∨ n.span.start ≤ t.span.start ∨ t.span.stop ≤ n.span.start := by
  induction root using Tree.induct with
  | node label span kids ih =>
    have hinside := hwf.within ht
    have hrange := (hwf.fits n hn).1
    rw [Tree.preorder_eq, List.mem_cons, List.mem_flatMap] at ht hn
    rcases ht with rfl | ⟨k, hk, ht⟩
    · left
      rw [Tree.preorder_eq, List.mem_cons, List.mem_flatMap]
      exact hn
    rcases hn with rfl | ⟨k', hk', hn⟩
    · exact Or.inr (Or.inl hinside.1)
    have hkt := (hwf.kid hk).within ht
    have hkn := (hwf.kid hk').within hn
    rcases hwf.eq_or_apart hk hk' with rfl | hle | hle
    · exact ih k hk (hwf.kid hk) ht hn
    · exact Or.inr (Or.inr (Nat.le_trans hkt.2 (Nat.le_trans hle hkn.1)))
    · have hstop := Nat.le_trans hrange (Nat.le_trans hkn.2 hle)
      exact Or.inr (Or.inl (Nat.le_trans hstop hkt.1))

/-! ## Places and children -/

/-- The siblings before a node, and before each of its ancestors, are the children of the parent
    that stand there. -/
def Linked (here : Outline) (before : List Outline) : List (Outline × List Outline) → Prop
  | [] => before = []
  | (t, bs) :: above => (∃ after, t.kids = before.reverse ++ here :: after) ∧ Linked t bs above

theorem linked_of_mem_placesFrom (t : Outline) (above : List (Outline × List Outline))
    (before : List Outline) (h : Linked t before above) :
    ∀ p ∈ placesFrom above before t, Linked p.here p.before p.above := by
  induction t using Tree.induct generalizing above before with
  | node label span kids ih =>
    -- The children one by one; those that are passed stand before the next.
    have hkids : ∀ ts before', kids = before'.reverse ++ ts →
        ∀ p ∈ placesOfKids ((⟨label, span, kids⟩, before) :: above) before' ts,
          Linked p.here p.before p.above := by
      intro ts
      induction ts with
      | nil =>
        intro before' _ p hp
        simp [placesOfKids] at hp
      | cons k ts iht =>
        intro before' hsplit p hp
        rw [placesOfKids, List.mem_append] at hp
        rcases hp with hp | hp
        · have hlinked : Linked k before' ((⟨label, span, kids⟩, before) :: above) :=
            ⟨⟨ts, hsplit⟩, h⟩
          exact ih k (by rw [hsplit]; simp) _ before' hlinked p hp
        · exact iht (k :: before') (by rw [hsplit]; simp) p hp
    intro p hp
    rw [placesFrom, List.mem_cons] at hp
    rcases hp with rfl | hp
    · exact h
    · exact hkids kids [] rfl p hp

theorem linked_of_mem_places {t : Outline} {p : Place} (hp : p ∈ t.places) :
    Linked p.here p.before p.above :=
  linked_of_mem_placesFrom t [] [] rfl p hp

/-! ## Anchors -/

theorem exists_anchoredAt (p : Place) : ∃ a, AnchoredAt p a := by
  obtain ⟨here, before, above⟩ := p
  induction above generalizing here before with
  | nil => exact ⟨_, AnchoredAt.stay fun _ hq => by cases hq⟩
  | cons t above ih =>
    cases hwrap : isWrapper t.1 with
    | false =>
      refine ⟨_, AnchoredAt.stay fun q hq => ?_⟩
      obtain rfl := Option.some.inj hq
      exact hwrap
    | true =>
      obtain ⟨a, ha⟩ := ih t.1 t.2
      exact ⟨a, AnchoredAt.climb rfl hwrap ha⟩

/-- What a place knows of a tree, its anchor knows. -/
theorem AnchoredAt.linked_over {p a : Place} {N : Outline → Prop} (h : AnchoredAt p a)
    (hlinked : Linked p.here p.before p.above) (hover : p.Over N) :
    Linked a.here a.before a.above ∧ a.Over N := by
  induction h with
  | stay => exact ⟨hlinked, hover⟩
  | @climb p q a hparent _ _ ih =>
    obtain ⟨here, before, above⟩ := p
    cases above with
    | nil => cases hparent
    | cons t above =>
      obtain rfl := Option.some.inj hparent
      obtain ⟨ht, habove⟩ := List.forall_mem_cons.1 hover.2.2
      exact ih hlinked.2 ⟨ht.1, ht.2, habove⟩

theorem AnchoredAt.claims {source : Text} {p a : Place} (h : AnchoredAt p a)
    (hclaims : Claims source p) : Claims source a := by
  induction h with
  | stay => exact hclaims
  | climb _ hwrap _ ih => exact ih (Or.inl hwrap)

/-! ## Between comment and declaration -/

/-- Children of a node: what starts behind one and in front of another is one of those between
    them, if these are leaves. -/
theorem WellFormed.mem_between {source : Text} {t n first last : Outline}
    {front between back : List Outline} (hwf : WellFormed source t)
    (hkids : t.kids = front ++ first :: (between ++ last :: back)) (hn : n ∈ t.preorder)
    (hfirst : first.kids = [] ∧ first.span.start < first.span.stop)
    (hbetween : ∀ k ∈ between, k.kids = []) (hafter : first.span.stop ≤ n.span.start)
    (hbefore : n.span.start < last.span.start) : n ∈ between := by
  have hself := Tree.self_mem_preorder t
  have hordered := hwf.ordered t hself
  rw [hkids] at hordered
  obtain ⟨-, hrest, hfront⟩ := List.pairwise_append.1 hordered
  obtain ⟨-, hback, -⟩ := List.pairwise_append.1 (List.pairwise_cons.1 hrest).2
  have hrange := (hwf.fits n hn).1
  rw [Tree.preorder_eq, List.mem_cons, List.mem_flatMap] at hn
  rcases hn with rfl | ⟨k, hk, hn⟩
  · have hinside := (hwf.nested _ hself first (by rw [hkids]; simp)).1
    omega
  obtain ⟨hin, hout⟩ := (hwf.kid hk).within hn
  have hleaf : k.kids = [] → n = k := by
    intro hleaf
    rw [Tree.preorder_eq, hleaf] at hn
    exact List.mem_singleton.1 hn
  rw [hkids, List.mem_append, List.mem_cons, List.mem_append, List.mem_cons] at hk
  rcases hk with hk | rfl | hk | rfl | hk
  · have hle := hfront k hk first (List.mem_cons_self ..)
    omega
  · rw [hleaf hfirst.1] at hafter
    omega
  · rw [hleaf (hbetween k hk)]
    exact hk
  · omega
  · have hle := (List.pairwise_cons.1 hback).1 k hk
    have hlast := (hwf.fits last (Tree.mem_preorder_of_mem_kids (t := t) (by rw [hkids]; simp)
      (Tree.self_mem_preorder last))).1
    omega

variable {source : Text} {outline : Outline} {d : Declaration}

/-- A declaration starts where a node starts that is no comment. -/
theorem exists_start_of_mem_declarations (h : d ∈ declarations source outline) :
    ∃ n : Outline, n ∈ outline.preorder ∧ n.span.start = d.start ∧ n.kind ≠ .comment := by
  obtain ⟨p, hp, hfound⟩ := exists_foundAt h
  obtain ⟨a, ha⟩ := exists_anchoredAt p
  obtain ⟨-, hhere, hbefore, -⟩ := ha.linked_over (linked_of_mem_places hp) (over_of_mem_places hp)
  have hclaims := ha.claims (Or.inr hfound.declares)
  rw [hfound.start, locate_eq ha.anchor_eq]
  obtain ⟨ds, hpassed, hds, ⟨-, hstart⟩ | ⟨init, e, rfl, hstart⟩⟩ :=
    passDecorators_cases a.here.span.start a.before
  · exact ⟨a.here, hhere, hstart.symm, hclaims.kind_ne.1⟩
  · refine ⟨e, hbefore e ?_, hstart.symm, ?_⟩
    · rw [hpassed]
      simp
    · rw [hds e (by simp)]
      decide

/-- The documentation of a declaration and the node it starts with are children of one node, with
    nothing but plain comments between them. -/
theorem exists_siblings_of_doc (h : d ∈ declarations source outline) {doc : Span}
    (hdoc : d.doc = some doc) :
    ∃ (t c last : Outline) (front between back : List Outline), t ∈ outline.preorder ∧
      t.kids = front ++ c :: (between ++ last :: back) ∧ c.isDocComment source = true ∧
      c.span = doc ∧ last.span.start = d.start ∧
      ∀ k ∈ between, k.kind = .comment ∧ k.isDocComment source = false := by
  obtain ⟨p, hp, hfound⟩ := exists_foundAt h
  obtain ⟨a, ha⟩ := exists_anchoredAt p
  obtain ⟨hlinked, hover⟩ := ha.linked_over (linked_of_mem_places hp) (over_of_mem_places hp)
  rw [hfound.start, locate_eq ha.anchor_eq]
  rw [hfound.doc, locate_eq ha.anchor_eq] at hdoc
  obtain ⟨here, before, above⟩ := a
  dsimp only at hdoc hlinked ⊢
  obtain ⟨cs, c, rest, hrest, hcs, hc, -, rfl⟩ := docAmong_cases hdoc
  obtain ⟨ds, hpassed, -, hstart⟩ := passDecorators_cases here.span.start before
  rw [hrest] at hpassed
  cases above with
  | nil =>
    obtain rfl : before = [] := hlinked
    simp at hpassed
  | cons up above =>
    obtain ⟨t, bs⟩ := up
    obtain ⟨⟨after, hkids⟩, -⟩ := hlinked
    -- The declaration starts with the first of the decorators, or with its anchor.
    obtain ⟨last, back, hlast, hlastStart⟩ : ∃ last back, ds.reverse ++ here :: after = last :: back ∧
        last.span.start = (passDecorators here.span.start before).1 := by
      rcases hstart with ⟨rfl, hstart⟩ | ⟨init, e, rfl, hstart⟩
      · exact ⟨here, after, rfl, hstart.symm⟩
      · exact ⟨e, init.reverse ++ here :: after, by simp, hstart.symm⟩
    refine ⟨t, c, last, rest.reverse, cs.reverse, back,
      (hover.2.2 (t, bs) (List.mem_cons_self ..)).1, ?_, hc, rfl, hlastStart,
      fun k hk => hcs k (List.mem_reverse.1 hk)⟩
    rw [hkids, hpassed, ← hlast]
    simp

/-- The documentation of a declaration stands in front of it. -/
theorem doc_stop_le_start (hwf : WellFormed source outline)
    (h : d ∈ declarations source outline) {doc : Span} (hdoc : d.doc = some doc) :
    doc.stop ≤ d.start := by
  obtain ⟨t, c, last, front, between, back, ht, hkids, -, rfl, hstart, -⟩ :=
    exists_siblings_of_doc h hdoc
  have hordered := hwf.ordered t ht
  rw [hkids] at hordered
  have hrest := (List.pairwise_append.1 hordered).2.1
  rw [← hstart]
  exact (List.pairwise_cons.1 hrest).1 last (by simp)

/-- What starts behind the documentation of a declaration and in front of the declaration is a
    comment that is no documentation. -/
theorem plain_of_between (hwf : WellFormed source outline) (h : d ∈ declarations source outline)
    {doc : Span} (hdoc : d.doc = some doc) {n : Outline} (hn : n ∈ outline.preorder)
    (hafter : doc.stop ≤ n.span.start) (hbefore : n.span.start < d.start) :
    n.kind = .comment ∧ n.isDocComment source = false := by
  have hfilled := (recorded_of_mem_declarations hwf.fits h).doc_start_lt_stop hdoc
  obtain ⟨t, c, last, front, between, back, ht, hkids, hc, rfl, hstart, hplain⟩ :=
    exists_siblings_of_doc h hdoc
  have hwft := hwf.node ht
  have hself := Tree.self_mem_preorder t
  have hckids : c ∈ t.kids := by rw [hkids]; simp
  have hlastkids : last ∈ t.kids := by rw [hkids]; simp
  rcases hwf.below_or_apart ht hn with hbelow | hle | hle
  · have hleaf : ∀ k : Outline, k ∈ t.kids → k.kind = .comment → k.kids = [] := fun k hk =>
      hwft.leaves k (Tree.mem_preorder_of_mem_kids hk (Tree.self_mem_preorder k))
    have hbetween : ∀ k ∈ between, k.kids = [] := fun k hk =>
      hleaf k (by rw [hkids]; simp [hk]) (hplain k hk).1
    exact hplain n (hwft.mem_between hkids hbelow
      ⟨hleaf c hckids (kind_of_isDocComment hc), hfilled⟩ hbetween hafter (hstart ▸ hbefore))
  · have hin := (hwft.nested t hself c hckids).1
    omega
  · have hout := (hwft.nested t hself last hlastkids).2
    have hrange := (hwft.fits last
      (Tree.mem_preorder_of_mem_kids hlastkids (Tree.self_mem_preorder last))).1
    omega

/-- No comment is put between the documentation of a declaration and the declaration. -/
theorem clear_between (hwf : WellFormed source outline) (h : d ∈ declarations source outline)
    {doc : Span} (hdoc : d.doc = some doc) {d' : Declaration}
    (h' : d' ∈ declarations source outline) (hafter : doc.stop ≤ d'.commentSpan.start) :
    d.start ≤ d'.commentSpan.start := by
  refine Nat.le_of_not_lt fun hbefore => ?_
  cases hdoc' : d'.doc with
  | none =>
    rw [Declaration.commentSpan_of_none hdoc'] at hafter hbefore
    obtain ⟨n, hn, hstart, hkind⟩ := exists_start_of_mem_declarations h'
    exact hkind (plain_of_between hwf h hdoc hn (hstart ▸ hafter) (hstart ▸ hbefore)).1
  | some doc' =>
    rw [Declaration.commentSpan_of_some hdoc'] at hafter hbefore
    obtain ⟨n, hn, rfl, hisDoc, -⟩ := exists_doc_of_mem_declarations h' hdoc'
    rw [(plain_of_between hwf h hdoc hn hafter hbefore).2] at hisDoc
    cases hisDoc

end TypedDocs.Survey
