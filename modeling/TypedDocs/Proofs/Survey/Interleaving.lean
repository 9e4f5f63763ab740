/-
  Decorators and comments between a declaration and its documentation.

  The search for the documentation comment of a declaration walks back from the
  anchor of the declaration in two rounds: over decorators, then over plain
  comments.  So it gets as far as a documentation comment exactly if no plain
  comment stands behind a decorator (`locate_documented_iff`).  A plain comment
  between a decorator and the declaration hides the documentation
  (`not_forall_locate_documented`).
-/

import TypedDocs.Proofs.Survey.Locate
import TypedDocs.Proofs.Survey.WellFormed
import Mathlib.Data.List.Induction

namespace TypedDocs.Survey

open Outline

/-! ## Anchors -/

/-- Going up from a place as long as the parent is a wrapper leads to its anchor. -/
inductive AnchoredAt : Place → Place → Prop
  | stay {p : Place} (h : ∀ q, p.parent? = some q → isWrapper q.here = false) : AnchoredAt p p
  | climb {p q a : Place} (hparent : p.parent? = some q) (hwrap : isWrapper q.here = true)
      (h : AnchoredAt q a) : AnchoredAt p a

/-- The walk starts at the anchor. -/
theorem AnchoredAt.anchor_eq {p a : Place} (h : AnchoredAt p a) :
    anchor p.here p.before p.above = (a.here.span.start, a.before) := by
  induction h with
  | @stay p h =>
    obtain ⟨here, before, above⟩ := p
    cases above with
    | nil => rfl
    | cons t above => exact anchor_of_not_isWrapper (h _ rfl)
  | @climb p q a hparent hwrap _ ih =>
    obtain ⟨here, before, above⟩ := p
    cases above with
    | nil => cases hparent
    | cons t above =>
      obtain rfl := Option.some.inj hparent
      rw [← ih]
      exact if_pos hwrap

/-! ## What stands between -/

/-- A comment that is no documentation. -/
def IsPlainComment (source : Text) (t : Outline) : Prop :=
  t.kind = .comment ∧ t.isDocComment source = false

instance (source : Text) (t : Outline) : Decidable (IsPlainComment source t) :=
  inferInstanceAs (Decidable (_ ∧ _))

/-- A declaration whose anchor has a documentation comment before it, with nothing but decorators
    and plain comments in between.  `between` lists them in document order. -/
structure Documented (source : Text) (p a : Place) (doc : Outline) (between : List Outline) :
    Prop where
  declares : (kind? source p).isSome
  anchored : AnchoredAt p a
  siblings : ∃ rest, a.before = between.reverse ++ doc :: rest
  isDoc : doc.isDocComment source = true
  startsLine : source.startsLine? doc.span.start = some true
  passable : ∀ t ∈ between, t.kind = .decorator ∨ IsPlainComment source t

/-- Where a declaration starts: with the first of the decorators, or where its anchor does. -/
def startWith (a : Place) (between : List Outline) : Nat :=
  ((between.find? (·.kind == .decorator)).map (·.span.start)).getD a.here.span.start

/-- No plain comment stands behind a decorator. -/
def DecoratorsLast (between : List Outline) : Prop :=
  between.Pairwise fun s t => s.kind = .decorator → t.kind = .decorator

instance (between : List Outline) : Decidable (DecoratorsLast between) :=
  inferInstanceAs (Decidable (List.Pairwise _ _))

/-- From the back: decorators, then comments, and then either nothing or a decorator that a
    comment stands behind. -/
theorem exists_rounds {source : Text} {between : List Outline}
    (h : ∀ t ∈ between, t.kind = .decorator ∨ IsPlainComment source t) :
    ∃ far cs ds, between = far ++ cs ++ ds ∧ (∀ c ∈ cs, IsPlainComment source c) ∧
      (∀ d ∈ ds, d.kind = .decorator) ∧
      (far = [] ∨ ∃ init d, far = init ++ [d] ∧ d.kind = .decorator ∧ cs ≠ []) := by
  induction between using List.reverseRecOn with
  | nil => exact ⟨[], [], [], rfl, by simp, by simp, Or.inl rfl⟩
  | append_singleton between t ih =>
    obtain ⟨far, cs, ds, rfl, hcs, hds, hfar⟩ := ih fun x hx => h x (by simp [hx])
    rcases h t (by simp) with ht | ht
    · refine ⟨far, cs, ds ++ [t], by simp, hcs, ?_, hfar⟩
      intro d hd
      rcases List.mem_append.1 hd with hd | hd
      · exact hds d hd
      · rw [List.mem_singleton.1 hd]
        exact ht
    · -- The comment joins the comments, or it stands behind the decorators passed so far.
      rcases List.eq_nil_or_concat ds with rfl | ⟨init, d, rfl⟩
      · refine ⟨far, cs ++ [t], [], by simp, ?_, by simp, ?_⟩
        · intro c hc
          rcases List.mem_append.1 hc with hc | hc
          · exact hcs c hc
          · rw [List.mem_singleton.1 hc]
            exact ht
        · rcases hfar with rfl | ⟨init, d, rfl, hd, -⟩
          · exact Or.inl rfl
          · exact Or.inr ⟨init, d, rfl, hd, by simp⟩
      · refine ⟨far ++ cs ++ (init ++ [d]), [t], [], by simp, by simpa using ht, by simp, Or.inr ?_⟩
        exact ⟨far ++ cs ++ init, d, by simp, hds d (by simp), by simp⟩

/-! ## The two rounds -/

/-- Decorators are passed up to the first node that is none. -/
theorem passDecorators_append {near rest : List Outline} {t : Outline}
    (hnear : ∀ d ∈ near, d.kind = .decorator) (ht : t.kind ≠ .decorator) (start : Nat) :
    passDecorators start (near ++ t :: rest) =
      ((near.getLast?.map (·.span.start)).getD start, t :: rest) := by
  induction near generalizing start with
  | nil =>
    rw [List.nil_append, passDecorators, if_neg (by simpa using ht)]
    rfl
  | cons d near ih =>
    obtain ⟨hd, hnear⟩ := List.forall_mem_cons.1 hnear
    rw [List.cons_append, passDecorators, if_pos (by simp [hd]), ih hnear, List.getLast?_cons]
    cases near.getLast? <;> rfl

/-- Plain comments are passed up to the first node that is none. -/
theorem passPlainComments_append {source : Text} {near rest : List Outline} {t : Outline}
    (hnear : ∀ c ∈ near, IsPlainComment source c) (ht : ¬ IsPlainComment source t) :
    passPlainComments source (near ++ t :: rest) = t :: rest := by
  induction near with
  | nil =>
    rw [List.nil_append, passPlainComments, if_neg]
    simpa [IsPlainComment] using ht
  | cons c near ih =>
    obtain ⟨hc, hnear⟩ := List.forall_mem_cons.1 hnear
    rw [List.cons_append, passPlainComments, if_pos (by simp [hc.1, hc.2]), ih hnear]

/-- The walk ends at the first node behind decorators and then plain comments. -/
theorem locate_of_rounds {source : Text} {p a : Place} (hanchored : AnchoredAt p a)
    {ds cs rest : List Outline} {t : Outline} (hbefore : a.before = ds ++ (cs ++ t :: rest))
    (hds : ∀ d ∈ ds, d.kind = .decorator) (hcs : ∀ c ∈ cs, IsPlainComment source c)
    (hplain : ¬ IsPlainComment source t) (ht : cs = [] → t.kind ≠ .decorator) :
    locate source p = ((ds.getLast?.map (·.span.start)).getD a.here.span.start,
      if t.isDocComment source && (source.startsLine? t.span.start).getD false then some t.span
      else none) := by
  have hdecorators : passDecorators a.here.span.start a.before =
      ((ds.getLast?.map (·.span.start)).getD a.here.span.start, cs ++ t :: rest) := by
    rw [hbefore]
    cases cs with
    | nil => exact passDecorators_append hds (ht rfl) _
    | cons c cs =>
      have hc : c.kind ≠ .decorator := by
        rw [(hcs c (List.mem_cons_self ..)).1]
        decide
      exact passDecorators_append hds hc _
  rw [locate_eq hanchored.anchor_eq, hdecorators, docAmong, passPlainComments_append hcs hplain]

/-- The first decorator of comments and then decorators is the one that is passed last. -/
theorem startWith_append {source : Text} (a : Place) {cs ds : List Outline}
    (hcs : ∀ c ∈ cs, IsPlainComment source c) (hds : ∀ d ∈ ds, d.kind = .decorator) :
    startWith a (cs ++ ds) = (ds.reverse.getLast?.map (·.span.start)).getD a.here.span.start := by
  have hnone : cs.find? (·.kind == .decorator) = none := by
    rw [List.find?_eq_none]
    intro c hc
    rw [(hcs c hc).1]
    decide
  have hfirst : ds.find? (·.kind == .decorator) = ds.head? := by
    cases ds with
    | nil => rfl
    | cons d ds => exact List.find?_cons_of_pos (by simp [hds d (List.mem_cons_self ..)])
  rw [startWith, List.find?_append, hnone, Option.none_or, hfirst, List.getLast?_reverse]

theorem decoratorsLast_append {source : Text} {cs ds : List Outline}
    (hcs : ∀ c ∈ cs, IsPlainComment source c) (hds : ∀ d ∈ ds, d.kind = .decorator) :
    DecoratorsLast (cs ++ ds) := by
  refine List.pairwise_append.2 ⟨?_, ?_, fun _ _ d hd _ => hds d hd⟩
  · refine List.pairwise_of_forall_mem_list fun c hc _ _ h => ?_
    rw [(hcs c hc).1] at h
    cases h
  · exact List.pairwise_of_forall_mem_list fun _ _ d hd _ => hds d hd

/-- A decorator with a plain comment behind it. -/
theorem not_decoratorsLast {source : Text} {init cs ds : List Outline} {d : Outline}
    (hd : d.kind = .decorator) (hcs : ∀ c ∈ cs, IsPlainComment source c) (hne : cs ≠ []) :
    ¬ DecoratorsLast (init ++ [d] ++ cs ++ ds) := by
  intro h
  obtain ⟨c, hc⟩ := List.exists_mem_of_ne_nil cs hne
  have hbehind := (List.pairwise_append.1 (List.pairwise_append.1 h).1).2.2 d (by simp) c hc hd
  rw [(hcs c hc).1] at hbehind
  cases hbehind

/-- Comments and then decorators: the two rounds reach the documentation. -/
theorem Documented.locate_eq {source : Text} {p a : Place} {doc : Outline} {cs ds : List Outline}
    (h : Documented source p a doc (cs ++ ds)) (hcs : ∀ c ∈ cs, IsPlainComment source c)
    (hds : ∀ d ∈ ds, d.kind = .decorator) :
    locate source p = (startWith a (cs ++ ds), some doc.span) := by
  obtain ⟨rest, hsiblings⟩ := h.siblings
  have hbefore : a.before = ds.reverse ++ (cs.reverse ++ doc :: rest) := by
    rw [hsiblings]
    simp
  have hplain : ¬ IsPlainComment source doc := by
    rintro ⟨-, hdoc⟩
    rw [h.isDoc] at hdoc
    cases hdoc
  have hkind : doc.kind ≠ .decorator := by
    rw [kind_of_isDocComment h.isDoc]
    decide
  rw [locate_of_rounds h.anchored hbefore (fun d hd => hds d (List.mem_reverse.1 hd))
    (fun c hc => hcs c (List.mem_reverse.1 hc)) hplain (fun _ => hkind), h.isDoc, h.startsLine,
    startWith_append a hcs hds]
  rfl

/-- A comment behind a decorator: the second round ends at the decorator. -/
theorem Documented.locate_hidden {source : Text} {p a : Place} {doc d : Outline}
    {init cs ds : List Outline} (h : Documented source p a doc (init ++ [d] ++ cs ++ ds))
    (hd : d.kind = .decorator) (hcs : ∀ c ∈ cs, IsPlainComment source c) (hne : cs ≠ [])
    (hds : ∀ d ∈ ds, d.kind = .decorator) : (locate source p).2 = none := by
  obtain ⟨rest, hsiblings⟩ := h.siblings
  have hbefore : a.before = ds.reverse ++ (cs.reverse ++ d :: (init.reverse ++ doc :: rest)) := by
    rw [hsiblings]
    simp
  have hplain : ¬ IsPlainComment source d := by
    rintro ⟨hkind, -⟩
    rw [hkind] at hd
    cases hd
  have hnodoc : d.isDocComment source = false := by
    simp [isDocComment, hd]
  rw [locate_of_rounds h.anchored hbefore (fun d hd => hds d (List.mem_reverse.1 hd))
    (fun c hc => hcs c (List.mem_reverse.1 hc)) hplain
    (fun hnil => absurd (List.reverse_eq_nil_iff.1 hnil) hne), hnodoc]
  rfl

/-- With nothing but decorators and plain comments in between, the documentation comment of a
    declaration is found, and the first decorator is where the declaration starts, exactly if no
    plain comment stands behind a decorator.  Otherwise no comment is found. -/
theorem locate_documented_iff (source : Text) (p a : Place) (doc : Outline)
    (between : List Outline) (h : Documented source p a doc between) :
    (locate source p = (startWith a between, some doc.span) ↔ DecoratorsLast between) ∧
      ((locate source p).2 = none ↔ ¬ DecoratorsLast between) := by
  obtain ⟨far, cs, ds, rfl, hcs, hds, hfar⟩ := exists_rounds h.passable
  rcases hfar with rfl | ⟨init, d, rfl, hd, hne⟩
  · rw [List.nil_append] at h ⊢
    have hlast : DecoratorsLast (cs ++ ds) := decoratorsLast_append hcs hds
    have hfound := h.locate_eq hcs hds
    refine ⟨iff_of_true hfound hlast, iff_of_false ?_ (not_not.2 hlast)⟩
    rw [hfound]
    simp
  · have hnot : ¬ DecoratorsLast (init ++ [d] ++ cs ++ ds) := not_decoratorsLast hd hcs hne
    have hhidden := h.locate_hidden hd hcs hne hds
    refine ⟨iff_of_false ?_ hnot, iff_of_true hhidden hnot⟩
    intro hfound
    rw [hfound] at hhidden
    cases hhidden

/-! ## A decorated method -/

/-- A method with a documentation comment, and between them a plain comment and a decorator. -/
def notedSource : Text :=
  "class A \x7b\n  /** Run. */\n  // note\n  @log\n  run() \x7b\x7d\n\x7d".toList

/-- The same, but the plain comment stands behind the decorator. -/
def hiddenSource : Text :=
  "class A \x7b\n  /** Run. */\n  @log\n  // note\n  run() \x7b\x7d\n\x7d".toList

/-- The documentation comment of the method. -/
def runDoc : Outline :=
  ⟨⟨.comment, none⟩, ⟨12, 23⟩, []⟩

/-- The method. -/
def runMethod : Outline :=
  ⟨⟨.methodDef, none⟩, ⟨43, 51⟩, [
    ⟨⟨.identifier, some .name⟩, ⟨43, 46⟩, []⟩,
    ⟨⟨.params, some .parameters⟩, ⟨46, 48⟩, []⟩,
    ⟨⟨.other, none⟩, ⟨49, 51⟩, []⟩]⟩

/-- The class around it; `between` stands before the method. -/
def runBody (between : List Outline) : Outline :=
  ⟨⟨.classBody, none⟩, ⟨8, 53⟩, runDoc :: between ++ [runMethod]⟩

def runClass (between : List Outline) : Outline :=
  ⟨⟨.classDecl, none⟩, ⟨0, 53⟩, [⟨⟨.identifier, some .name⟩, ⟨6, 7⟩, []⟩, runBody between]⟩

/-- The outline of either text. -/
def runOutline (between : List Outline) : Outline :=
  ⟨⟨.program, none⟩, ⟨0, 53⟩, [runClass between]⟩

/-- The place of the method. -/
def runPlace (between : List Outline) : Place where
  here := runMethod
  before := between.reverse ++ [runDoc]
  above := [(runBody between, [⟨⟨.identifier, some .name⟩, ⟨6, 7⟩, []⟩]), (runClass between, []),
    (runOutline between, [])]

/-- What stands between the comment and the method of `notedSource`. -/
def notedBetween : List Outline :=
  [⟨⟨.comment, none⟩, ⟨26, 33⟩, []⟩, ⟨⟨.decorator, none⟩, ⟨36, 40⟩, []⟩]

/-- What stands between the comment and the method of `hiddenSource`. -/
def hiddenBetween : List Outline :=
  [⟨⟨.decorator, none⟩, ⟨26, 30⟩, []⟩, ⟨⟨.comment, none⟩, ⟨33, 40⟩, []⟩]

theorem documented_runPlace {source : Text} {between : List Outline}
    (hdeclares : (kind? source (runPlace between)).isSome)
    (hdoc : runDoc.isDocComment source = true)
    (hline : source.startsLine? runDoc.span.start = some true)
    (hpassable : ∀ t ∈ between, t.kind = .decorator ∨ IsPlainComment source t) :
    Documented source (runPlace between) (runPlace between) runDoc between where
  declares := hdeclares
  anchored := by
    refine AnchoredAt.stay fun q hq => ?_
    obtain rfl := Option.some.inj hq
    rfl
  siblings := ⟨[], rfl⟩
  isDoc := hdoc
  startsLine := hline
  passable := hpassable

theorem documented_noted :
    Documented notedSource (runPlace notedBetween) (runPlace notedBetween) runDoc notedBetween := by
  apply documented_runPlace <;> decide +kernel

theorem documented_hidden :
    Documented hiddenSource (runPlace hiddenBetween) (runPlace hiddenBetween) runDoc
      hiddenBetween := by
  apply documented_runPlace <;> decide +kernel

theorem locate_documented_iff_noted :
    Documented notedSource (runPlace notedBetween) (runPlace notedBetween) runDoc notedBetween ∧
      DecoratorsLast notedBetween ∧
        locate notedSource (runPlace notedBetween) = (36, some ⟨12, 23⟩) := by
  have hlast : DecoratorsLast notedBetween := by decide
  exact ⟨documented_noted, hlast, (locate_documented_iff _ _ _ _ _ documented_noted).1.2 hlast⟩

theorem wellFormed_hidden : WellFormed hiddenSource (runOutline hiddenBetween) where
  fits := by decide +kernel
  nested := by decide +kernel
  ordered := by decide +kernel
  leaves := by decide +kernel
  wrappers := by decide +kernel

/-- A plain comment between a decorator and a method hides the documentation of the method. -/
theorem not_forall_locate_documented :
    ¬ ∀ (source : Text) (outline : Outline) (p a : Place) (doc : Outline)
      (between : List Outline), WellFormed source outline → p ∈ outline.places →
        Documented source p a doc between →
          locate source p = (startWith a between, some doc.span) := by
  intro h
  have hmem : runPlace hiddenBetween ∈ (runOutline hiddenBetween).places :=
    List.mem_of_getElem? (i := 7) rfl
  have hfound := h hiddenSource (runOutline hiddenBetween) _ _ _ _ wellFormed_hidden hmem
    documented_hidden
  revert hfound
  decide +kernel

end TypedDocs.Survey
