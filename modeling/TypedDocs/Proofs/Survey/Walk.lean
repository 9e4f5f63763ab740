/-
  The survey looks at everything once.

  A step either looks at a node or leaves one, so a survey of a tree with `n`
  nodes is over after `2 * n` steps.  By induction over the tree, the steps from
  visiting a node to leaving it look at the places of the tree below it, in
  document order (`leads_leaving`).  For a whole outline these are all its
  places, each of them once, and the survey ends with the declarations that are
  found there (`walk_looks_once`).
-/

import TypedDocs.Proofs.Survey.WellFormed
import TypedDocs.Survey.Walk
import Mathlib.Logic.Function.Iterate

namespace TypedDocs

/-! ## Places -/

namespace Outline

variable {above : List (Outline × List Outline)} {before : List Outline} {p : Place}

/-- The nodes of the places of a tree are the nodes of the tree, in the same order. -/
theorem map_here_places (t : Outline) : t.places.map (·.here) = t.preorder := by
  refine (placesFrom.mutual_induct
    (fun above before t => (placesFrom above before t).map (·.here) = t.preorder)
    (fun above before ts => (placesOfKids above before ts).map (·.here) = ts.flatMap Tree.preorder)
    ?node ?nil ?cons).1 [] [] t
  case node =>
    intro above before label span kids ih
    rw [placesFrom, List.map_cons, ih, Tree.preorder_eq]
  case nil =>
    intro above before
    rfl
  case cons =>
    intro above before t ts iht ihts
    rw [placesOfKids, List.map_append, iht, ihts, List.flatMap_cons]

/-- At the level of a tree, its places show the tree; at the level of some children, their places
    show one of them, with all siblings that were passed before. -/
theorem exists_level_of_mem :
    (∀ above before t, ∀ p ∈ placesFrom above before t,
      ∃ below, (p.here, p.before) :: p.above = below ++ (t, before) :: above) ∧
    ∀ above before ts, ∀ p ∈ placesOfKids above before ts,
      ∃ below k passed,
        (p.here, p.before) :: p.above = below ++ (k, passed ++ before) :: above := by
  refine placesFrom.mutual_induct _ _ ?node ?nil ?cons
  case node =>
    intro above before label span kids ih p hp
    rw [placesFrom, List.mem_cons] at hp
    rcases hp with rfl | hp
    · exact ⟨[], rfl⟩
    · obtain ⟨below, k, passed, h⟩ := ih p hp
      exact ⟨below ++ [(k, passed ++ [])], by rw [h, List.append_assoc]; rfl⟩
  case nil =>
    intro above before p hp
    cases hp
  case cons =>
    intro above before t ts iht ihts p hp
    rw [placesOfKids, List.mem_append] at hp
    rcases hp with hp | hp
    · obtain ⟨below, h⟩ := iht p hp
      exact ⟨below, t, [], h⟩
    · obtain ⟨below, k, passed, h⟩ := ihts p hp
      exact ⟨below, k, passed ++ [t], by rw [h, List.append_assoc]; rfl⟩

/-- No place of an outline comes twice. -/
theorem nodup_places (t : Outline) : t.places.Nodup := by
  refine (placesFrom.mutual_induct (fun above before t => (placesFrom above before t).Nodup)
    (fun above before ts => (placesOfKids above before ts).Nodup) ?node ?nil ?cons).1 [] [] t
  case node =>
    intro above before label span kids ih
    rw [placesFrom]
    refine List.nodup_cons.2 ⟨fun hp => ?_, ih⟩
    -- What lies below a node has more nodes above it.
    obtain ⟨below, k, passed, h⟩ := exists_level_of_mem.2 _ _ _ _ hp
    have hlength := congrArg List.length h
    simp only [List.length_cons, List.length_append] at hlength
    omega
  case nil =>
    intro above before
    exact List.nodup_nil
  case cons =>
    intro above before t ts iht ihts
    rw [placesOfKids]
    refine List.nodup_append.2 ⟨iht, ihts, ?_⟩
    rintro p hp q hq rfl
    -- A child that stands further back has more siblings before it.
    obtain ⟨below, h⟩ := exists_level_of_mem.1 _ _ _ _ hp
    obtain ⟨below', k, passed, h'⟩ := exists_level_of_mem.2 _ _ _ _ hq
    have hlevels : (t, before) = (k, passed ++ t :: before) :=
      (List.cons.inj (List.append_inj' (h.symm.trans h') rfl).2).1
    have hlength := congrArg (fun level => level.2.length) hlevels
    simp only [List.length_append, List.length_cons] at hlength
    omega

end Outline

/-! ## Runs of steps -/

namespace Survey

open Outline

namespace Walk

/-- The places that so many steps look at. -/
def looked (source : Text) : Nat → Walk → List Place
  | 0, _ => []
  | n + 1, w => w.place?.toList ++ looked source n (w.step source)

/-- So many steps lead from one state to another, and look at these places on the way. -/
structure Leads (source : Text) (n : Nat) (w : Walk) (ps : List Place) (w' : Walk) : Prop where
  steps : (step source)^[n] w = w'
  looks : looked source n w = ps

variable {source : Text} {m n : Nat} {w w' w'' : Walk} {ps qs : List Place}

theorem looked_add (source : Text) (m n : Nat) (w : Walk) :
    looked source (m + n) w = looked source m w ++ looked source n ((step source)^[m] w) := by
  induction m generalizing w with
  | zero => rw [Nat.zero_add]; rfl
  | succ m ih =>
    rw [Nat.add_right_comm, looked, ih, looked, Function.iterate_succ_apply, List.append_assoc]

theorem leads_step (source : Text) (w : Walk) :
    Leads source 1 w w.place?.toList (w.step source) :=
  ⟨rfl, List.append_nil _⟩

theorem Leads.trans (h : Leads source m w ps w') (h' : Leads source n w' qs w'') :
    Leads source (m + n) w (ps ++ qs) w'' := by
  constructor
  · rw [Nat.add_comm, Function.iterate_add_apply, h.steps, h'.steps]
  · rw [looked_add, h.looks, h.steps, h'.looks]

/-- A step from a node that is left looks at nothing. -/
theorem Leads.leave {c : Cursor} {found : List Declaration}
    (h : Leads source m w ps (.leaving c found)) :
    Leads source (m + 1) w ps ((leaving c found).step source) := by
  have hnext := h.trans (leads_step source (leaving c found))
  have hnothing : (leaving c found).place?.toList = [] := rfl
  rw [hnothing, List.append_nil] at hnext
  exact hnext

end Walk

/-! ## The steps below a node -/

open Walk

/-- A level as the places below it show it. -/
def Level.entry (l : Level) : Outline × List Outline :=
  (l.here, l.before)

/-- What a step adds to the declarations found is what the place declares. -/
theorem filterMap_cons_eq (source : Text) (p : Place) (ps : List Place) :
    (p :: ps).filterMap (declaration? source) =
      (declaration? source p).toList ++ ps.filterMap (declaration? source) := by
  rw [List.filterMap_cons]
  cases declaration? source p <;> rfl

/-- The steps from visiting a tree to leaving it look at the places of the tree. -/
def LeadsOut (source : Text) (above : List (Outline × List Outline)) (before : List Outline)
    (t : Outline) : Prop :=
  ∀ (levels : List Level) (after : List Outline) (found : List Declaration),
    levels.map Level.entry = above →
      ∃ n, n + 1 = 2 * (placesFrom above before t).length ∧
        Leads source n (.visiting ⟨⟨t, before, after⟩, levels⟩ found) (placesFrom above before t)
          (.leaving ⟨⟨t, before, after⟩, levels⟩
            (found ++ (placesFrom above before t).filterMap (declaration? source)))

/-- The steps from visiting the first of some siblings, up to the last one, to leaving their parent
    look at the places of the siblings. -/
def LeadsUp (source : Text) (above : List (Outline × List Outline)) (before ts : List Outline) :
    Prop :=
  ∀ (k : Outline) (ks : List Outline) (l : Level) (levels : List Level)
    (found : List Declaration), ts = k :: ks → (l :: levels).map Level.entry = above →
      Leads source (2 * (placesOfKids above before ts).length)
        (.visiting ⟨⟨k, before, ks⟩, l :: levels⟩ found) (placesOfKids above before ts)
        (.leaving ⟨l, levels⟩
          (found ++ (placesOfKids above before ts).filterMap (declaration? source)))

/-- Down to the children, if there are any, and back. -/
theorem leadsOut_of_leadsUp {source : Text} {above : List (Outline × List Outline)}
    {before kids : List Outline} {label : Label} {span : Span}
    (h : LeadsUp source ((⟨label, span, kids⟩, before) :: above) [] kids) :
    LeadsOut source above before ⟨label, span, kids⟩ := by
  rintro levels after found rfl
  have hvisit := leads_step source (.visiting ⟨⟨⟨label, span, kids⟩, before, after⟩, levels⟩ found)
  rw [placesFrom, filterMap_cons_eq, ← List.append_assoc]
  cases kids with
  | nil =>
    rw [placesOfKids, List.filterMap_nil, List.append_nil]
    exact ⟨1, rfl, hvisit⟩
  | cons k ks =>
    refine ⟨_, ?_, hvisit.trans (h k ks ⟨_, before, after⟩ levels _ rfl rfl)⟩
    rw [List.length_cons]
    omega

/-- A child, and then its siblings or the parent. -/
theorem leadsUp_cons {source : Text} {above : List (Outline × List Outline)}
    {before ts : List Outline} {t : Outline} (ht : LeadsOut source above before t)
    (hts : LeadsUp source above (t :: before) ts) : LeadsUp source above before (t :: ts) := by
  rintro k ks l levels found hsiblings hlevels
  obtain ⟨rfl, rfl⟩ := List.cons.inj hsiblings
  obtain ⟨n, hn, hout⟩ := ht (l :: levels) ts found hlevels
  rw [placesOfKids, List.length_append, Nat.mul_add, ← hn, List.filterMap_append,
    ← List.append_assoc]
  cases ts with
  | nil =>
    rw [placesOfKids, List.filterMap_nil, List.append_nil, List.append_nil]
    exact hout.leave
  | cons s ss => exact hout.leave.trans (hts s ss l levels _ rfl hlevels)

theorem leads_leaving (source : Text) (t : Outline) : LeadsOut source [] [] t := by
  refine (placesFrom.mutual_induct (LeadsOut source) (LeadsUp source) ?node ?nil ?cons).1 [] [] t
  case node =>
    intro above before label span kids ih
    exact leadsOut_of_leadsUp ih
  case nil =>
    intro above before k ks l levels found hsiblings
    cases hsiblings
  case cons =>
    intro above before t ts iht ihts
    exact leadsUp_cons iht ihts

/-- A survey of an outline is over after two steps for each node.  It looks at every place of the
    outline once, in document order, and ends with the declarations of these places. -/
theorem walk_looks_once (source : Text) (t : Outline) :
    Leads source (2 * t.preorder.length) (.start t) t.places (.done (declarations source t)) ∧
      declarations source t = t.places.filterMap (declaration? source) ∧
      t.places.map (·.here) = t.preorder ∧ t.places.Nodup := by
  refine ⟨?_, rfl, map_here_places t, nodup_places t⟩
  obtain ⟨n, hn, hleads⟩ := leads_leaving source t [] [] [] rfl
  have hsteps : 2 * t.preorder.length = n + 1 := by
    rw [← map_here_places, List.length_map]
    exact hn.symm
  rw [hsteps]
  exact hleads.leave

end Survey

end TypedDocs
