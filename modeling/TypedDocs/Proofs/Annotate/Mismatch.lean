/-
  Which mismatch is reported.

  Annotating stops at the first declaration that it cannot annotate, and it
  takes declarations by where they start, the last one first.  Sorting is
  stable, so the one that is reported can be told from the places of the
  outline, in document order: of all methods and functions whose comment
  documents a wrong number of parameters, it is the one that starts last, and
  the first of those where several start there (`IsFirstGreatest`).
-/

import TypedDocs.Proofs.Annotate.Frame
import TypedDocs.Proofs.Edit.Order
import TypedDocs.Proofs.Synthesis.Effect

namespace TypedDocs

/-! ## The greatest of some elements -/

section Greatest

variable {α : Type} {key : α → Nat} {bad : α → Bool} {l : List α} {x : α}

/-- `x` has the greatest key of the elements that are bad, and it is the first of those that have
    this key. -/
def IsFirstGreatest (key : α → Nat) (bad : α → Bool) (l : List α) (x : α) : Prop :=
  ∃ before after, l = before ++ x :: after ∧ bad x = true ∧
    (∀ y ∈ before, bad y = true → key y < key x) ∧ ∀ y ∈ after, bad y = true → key y ≤ key x

/-- The first of the greatest, as a bound on all bad elements and a search. -/
theorem isFirstGreatest_iff_find? : IsFirstGreatest key bad l x ↔
    (∀ y ∈ l, bad y = true → key y ≤ key x) ∧
      l.find? (fun y => bad y && key y == key x) = some x := by
  rw [List.find?_eq_some_iff_append]
  constructor
  · rintro ⟨before, after, rfl, hx, hbefore, hafter⟩
    refine ⟨?_, by simp [hx], before, after, rfl, ?_⟩
    · intro y hy hbad
      rcases List.mem_append.1 hy with hy | hy
      · exact Nat.le_of_lt (hbefore y hy hbad)
      · rcases List.mem_cons.1 hy with rfl | hy
        · exact Nat.le_refl _
        · exact hafter y hy hbad
    · intro y hy
      rw [Bool.not_eq_true', Bool.and_eq_false_imp]
      intro hbad
      exact beq_eq_false_iff_ne.2 (Nat.ne_of_lt (hbefore y hy hbad))
  · rintro ⟨hle, hx, before, after, rfl, hbefore⟩
    refine ⟨before, after, rfl, (Bool.and_eq_true_iff.1 hx).1, ?_, ?_⟩
    · intro y hy hbad
      have hkey : key y ≤ key x := hle y (by simp [hy]) hbad
      have hne : key y ≠ key x := by
        intro heq
        have := hbefore y hy
        simp [hbad, heq] at this
      omega
    · exact fun y hy hbad => hle y (by simp [hy]) hbad

theorem descending_trans (key : α → Nat) (a b c : α) (hab : decide (key b ≤ key a) = true)
    (hbc : decide (key c ≤ key b) = true) : decide (key c ≤ key a) = true := by
  simp only [decide_eq_true_eq] at hab hbc ⊢
  omega

theorem descending_total (key : α → Nat) (a b : α) :
    (decide (key b ≤ key a) || decide (key a ≤ key b)) = true := by
  simp only [Bool.or_eq_true, decide_eq_true_eq]
  omega

theorem pairwise_descending (key : α → Nat) (l : List α) :
    (l.mergeSort fun a b => key b ≤ key a).Pairwise fun a b => key b ≤ key a :=
  (List.pairwise_mergeSort (descending_trans key) (descending_total key) l).imp of_decide_eq_true

/-- Sorting by descending keys does not change which element is the first of the greatest. -/
theorem isFirstGreatest_mergeSort :
    IsFirstGreatest key bad (l.mergeSort fun a b => key b ≤ key a) x ↔
      IsFirstGreatest key bad l x := by
  -- The bad elements with the greatest key are in order as they are, so sorting keeps the first.
  have hties : (l.filter fun y => bad y && key y == key x).Pairwise
      fun a b => decide (key b ≤ key a) = true := by
    refine List.pairwise_of_forall_mem_list fun a ha b hb => ?_
    simp only [List.mem_filter, Bool.and_eq_true, beq_iff_eq] at ha hb
    exact decide_eq_true (by omega)
  have hfind := congrArg List.head?
    (filter_mergeSort_of_pairwise (descending_trans key) (descending_total key) hties)
  rw [List.head?_filter, List.head?_filter] at hfind
  simp only [isFirstGreatest_iff_find?, hfind, List.mem_mergeSort]

/-- Among descending keys, the first of the greatest is the first that is bad. -/
theorem isFirstGreatest_iff_of_pairwise (h : l.Pairwise fun a b => key b ≤ key a) :
    IsFirstGreatest key bad l x ↔
      ∃ before after, l = before ++ x :: after ∧ bad x = true ∧ ∀ y ∈ before, bad y = false := by
  constructor
  · rintro ⟨before, after, rfl, hx, hbefore, -⟩
    refine ⟨before, after, rfl, hx, fun y hy => ?_⟩
    -- What stands before has no smaller key, so it cannot be bad with a smaller one.
    have hkey : key x ≤ key y := (List.pairwise_append.1 h).2.2 y hy x (List.mem_cons_self ..)
    rw [← Bool.not_eq_true]
    intro hbad
    have hlt := hbefore y hy hbad
    omega
  · rintro ⟨before, after, rfl, hx, hbefore⟩
    refine ⟨before, after, rfl, hx, fun y hy hbad => ?_, fun y hy _ => ?_⟩
    · rw [hbefore y hy] at hbad
      cases hbad
    · exact List.rel_of_pairwise_cons (List.pairwise_append.1 h).2.1 hy

/-- Where something is bad, something is the first of the greatest. -/
theorem exists_isFirstGreatest (h : ∃ y ∈ l, bad y = true) :
    ∃ x, IsFirstGreatest key bad l x := by
  let sorted := l.mergeSort fun a b => key b ≤ key a
  have hbad : (sorted.find? bad).isSome := by
    obtain ⟨y, hy, hbad⟩ := h
    exact List.find?_isSome.2 ⟨y, List.mem_mergeSort.2 hy, hbad⟩
  obtain ⟨x, hx⟩ := Option.isSome_iff_exists.1 hbad
  obtain ⟨hbadx, before, after, heq, hbefore⟩ := List.find?_eq_some_iff_append.1 hx
  refine ⟨x, isFirstGreatest_mergeSort.1 ?_⟩
  refine (isFirstGreatest_iff_of_pairwise (pairwise_descending key l)).2
    ⟨before, after, heq, hbadx, fun y hy => ?_⟩
  simpa using hbefore y hy

end Greatest

/-! ## Parameters at run time -/

theorem DeclarationKind.signature?_eq_some_iff {kind : DeclarationKind} {s : Signature} :
    kind.signature? = some s ↔ kind = .method s ∨ kind = .function s := by
  cases kind <;> simp [signature?]

namespace Survey

open Outline

/-- Whether a node is a parameter that takes a value at run time; one that binds `this` takes
    none. -/
def isRuntimeParam (t : Outline) : Bool :=
  (t.kind == .requiredParam || t.kind == .optionalParam) &&
    (t.child? .pattern).any fun pattern => pattern.kind != .this

/-- How many parameters of a callable take a value at run time. -/
def runtimeParams (t : Outline) : Nat :=
  match t.child? .parameters with
  | some list => list.kids.countP isRuntimeParam
  | none => 0

/-- A parameter is read from a node exactly if it takes a value at run time. -/
theorem isSome_param? (source : Text) (t : Outline) :
    (param? source t).isSome = isRuntimeParam t := by
  unfold param? isRuntimeParam
  cases ht : t.kind == .requiredParam || t.kind == .optionalParam with
  | false => rfl
  | true =>
    cases hpattern : t.child? .pattern with
    | none => rfl
    | some pattern =>
      cases hthis : pattern.kind == .this <;> simp [hthis, bne]

theorem isNamed_of_isRuntimeParam {t : Outline} (h : isRuntimeParam t = true) :
    isNamed t = true := by
  unfold isRuntimeParam at h
  simp only [Bool.and_eq_true, Bool.or_eq_true, beq_iff_eq] at h
  unfold isNamed
  rcases h.1 with hkind | hkind <;> rw [hkind]

/-- As many parameters are read as there are at run time. -/
theorem length_params (source : Text) (t : Outline) :
    (params source t).length = runtimeParams t := by
  unfold params runtimeParams
  cases t.child? .parameters with
  | none => rfl
  | some list =>
    have hnamed : ∀ k : Outline, (isRuntimeParam k && isNamed k) = isRuntimeParam k := by
      intro k
      cases hk : isRuntimeParam k with
      | false => rfl
      | true => simp [isNamed_of_isRuntimeParam hk]
    simp only [List.length_filterMap_eq_countP, isSome_param?, namedKids, List.countP_filter,
      hnamed]

theorem signature_of_memberKind {source : Text} {t : Outline} {s : Signature}
    (h : (memberKind source t).signature? = some s) : s = signature source t := by
  unfold memberKind at h
  split at h
  case isTrue => cases h
  case isFalse =>
    split at h
    case isTrue => cases h
    case isFalse => exact (Option.some.inj h).symm

/-- A method or a function is declared with the signature of its node. -/
theorem signature_of_kind? {source : Text} {p : Place} {kind : DeclarationKind} {s : Signature}
    (h : kind? source p = some kind) (hs : kind.signature? = some s) :
    s = signature source p.here := by
  unfold kind? at h
  dsimp only at h
  split at h
  case isTrue => cases h
  case isFalse =>
    split at h
    case h_1 | h_2 | h_6 =>
      obtain rfl := Option.some.inj h
      cases hs
    case h_3 | h_4 =>
      obtain rfl := Option.some.inj h
      exact signature_of_memberKind hs
    case h_5 =>
      split at h
      case isTrue =>
        obtain rfl := Option.some.inj h
        exact signature_of_memberKind hs
      case isFalse => cases h
    case h_7 | h_8 | h_9 =>
      obtain rfl := Option.some.inj h
      exact (Option.some.inj hs).symm
    case h_10 => cases h

/-- A declared method or function has as many parameters as its node has at run time. -/
theorem length_params_of_declaration? {source : Text} {p : Place} {d : Declaration}
    {s : Signature} (h : declaration? source p = some d) (hs : d.kind.signature? = some s) :
    s.params.length = runtimeParams p.here := by
  unfold declaration? at h
  obtain ⟨kind, hkind, rfl⟩ := Option.map_eq_some_iff.1 h
  rw [signature_of_kind? hkind hs]
  exact length_params source p.here

end Survey

/-! ## Synthesis that fails -/

namespace Synthesis

/-- Dropping line numbers drops no parameter. -/
theorem paramCount_kept (tags : List Tag) : paramCount (kept tags) = paramCount tags := by
  unfold paramCount kept
  rw [List.countP_filter]
  refine List.countP_congr fun tag _ => ?_
  rw [Bool.and_eq_true, and_iff_left_iff_imp, beq_iff_eq]
  intro hname
  rw [hname]
  decide

/-- Synthesis fails for callables whose parameters are documented in a wrong number, and only for
    those. -/
theorem synthesize_eq_error_iff {decl : Declaration} {tags : List Tag} {e : TagMismatch} :
    synthesize decl tags = .error e ↔
      ∃ s, decl.kind.signature? = some s ∧ 0 < paramCount tags ∧
        paramCount tags ≠ s.params.length ∧
          e = ⟨decl.name, decl.line, s.params.length, paramCount tags⟩ := by
  rw [← paramCount_kept tags]
  constructor
  · intro herror
    by_contra hnone
    -- Any other declaration has its tags synthesized.
    have hfits : ∀ s, decl.kind.signature? = some s →
        paramCount (kept tags) = 0 ∨ paramCount (kept tags) = s.params.length := by
      intro s hs
      by_contra hcount
      rw [not_or] at hcount
      have herror' := synthesize_eq_error hs (Nat.pos_of_ne_zero hcount.1) hcount.2
      rw [herror', Except.error.injEq] at herror
      exact hnone ⟨s, hs, Nat.pos_of_ne_zero hcount.1, hcount.2, herror.symm⟩
    rw [synthesize_eq_ok hfits] at herror
    cases herror
  · rintro ⟨s, hs, hpos, hne, rfl⟩
    exact synthesize_eq_error hs hpos hne

end Synthesis

namespace Annotate

open Outline Synthesis

/-! ## Offending declarations -/

/-- A method or function whose comment documents parameters, but another number of them than it
    has at run time, and the mismatch that says so. -/
structure Offends (source : Text) (p : Place) (d : Declaration) (e : TagMismatch) : Prop where
  declared : Survey.declaration? source p = some d
  callable : ∃ s, d.kind = .method s ∨ d.kind = .function s
  documented : ∃ span, d.doc = some span ∧
    e.tags = paramCount (Comment.parse (source.sliceOf span))
  params_eq : e.params = Survey.runtimeParams p.here
  name_eq : e.name = d.name
  line_eq : e.line = d.line
  tags_pos : 0 < e.tags
  tags_ne : e.tags ≠ e.params

theorem commentEdit_eq_error_iff {source : Text} {d : Declaration} {e : TagMismatch} :
    commentEdit source d = .error e ↔ synthesize d (oldTags source d) = .error e := by
  unfold commentEdit
  cases synthesize d (oldTags source d) <;> simp [Except.map]

/-- Without a comment there is nothing that could mismatch. -/
theorem doc_of_paramCount_pos {source : Text} {d : Declaration}
    (h : 0 < paramCount (oldTags source d)) : ∃ span, d.doc = some span := by
  cases hdoc : d.doc with
  | some span => exact ⟨span, rfl⟩
  | none =>
    rw [oldTags, hdoc] at h
    cases h

theorem oldTags_of_doc {source : Text} {d : Declaration} {span : Span} (h : d.doc = some span) :
    oldTags source d = Comment.parse (source.sliceOf span) := by
  rw [oldTags, h]

/-- A declaration cannot be annotated exactly if it offends. -/
theorem offends_iff {source : Text} {p : Place} {d : Declaration} {e : TagMismatch}
    (h : Survey.declaration? source p = some d) :
    Offends source p d e ↔ commentEdit source d = .error e := by
  rw [commentEdit_eq_error_iff, synthesize_eq_error_iff]
  constructor
  · intro hoff
    obtain ⟨span, hdoc, htags⟩ := hoff.documented
    obtain ⟨s, hkind⟩ := hoff.callable
    have hs : d.kind.signature? = some s := DeclarationKind.signature?_eq_some_iff.2 hkind
    have hparams : s.params.length = e.params := by
      rw [hoff.params_eq]
      exact Survey.length_params_of_declaration? h hs
    rw [oldTags_of_doc hdoc, ← htags]
    refine ⟨s, hs, hoff.tags_pos, hparams ▸ hoff.tags_ne, ?_⟩
    rw [hparams, ← hoff.name_eq, ← hoff.line_eq]
  · rintro ⟨s, hs, hpos, hne, rfl⟩
    obtain ⟨span, hdoc⟩ := doc_of_paramCount_pos hpos
    exact
      { declared := h
        callable := ⟨s, DeclarationKind.signature?_eq_some_iff.1 hs⟩
        documented := ⟨span, hdoc, by rw [oldTags_of_doc hdoc]⟩
        params_eq := Survey.length_params_of_declaration? h hs
        name_eq := rfl
        line_eq := rfl
        tags_pos := hpos
        tags_ne := hne }

/-! ## The mismatch that is reported -/

theorem mapM_cons_of_error {α β ε : Type} {f : α → Except ε β} {x : α} {e : ε}
    (h : f x = .error e) (xs : List α) : (x :: xs).mapM f = .error e := by
  rw [List.mapM_cons, h]
  rfl

theorem mapM_cons_eq_error_iff_of_ok {α β ε : Type} {f : α → Except ε β} {x : α} {b : β}
    (h : f x = .ok b) {xs : List α} {e : ε} :
    (x :: xs).mapM f = .error e ↔ xs.mapM f = .error e := by
  rw [List.mapM_cons, h]
  cases xs.mapM f <;> simp [bind, Except.bind, pure, Except.pure]

/-- A pass stops at the first member that fails. -/
theorem mapM_eq_error_iff {α β ε : Type} {f : α → Except ε β} {xs : List α} {e : ε} :
    xs.mapM f = .error e ↔ ∃ before x after, xs = before ++ x :: after ∧ f x = .error e ∧
      ∀ y ∈ before, (f y).toBool = true := by
  constructor
  · intro h
    induction xs with
    | nil => cases h
    | cons x xs ih =>
      cases hx : f x with
      | error e' =>
        rw [mapM_cons_of_error hx] at h
        obtain rfl := Except.error.inj h
        exact ⟨[], x, xs, rfl, hx, by simp⟩
      | ok b =>
        rw [mapM_cons_eq_error_iff_of_ok hx] at h
        obtain ⟨before, y, after, rfl, hy, hbefore⟩ := ih h
        refine ⟨x :: before, y, after, rfl, hy, List.forall_mem_cons.2 ⟨?_, hbefore⟩⟩
        rw [hx]
        rfl
  · rintro ⟨before, x, after, rfl, hx, hbefore⟩
    induction before with
    | nil => exact mapM_cons_of_error hx after
    | cons y before ih =>
      obtain ⟨hy, hbefore⟩ := List.forall_mem_cons.1 hbefore
      cases hfy : f y with
      | error e' =>
        rw [hfy] at hy
        cases hy
      | ok b => exact (mapM_cons_eq_error_iff_of_ok hfy).2 (ih hbefore)

/-- Whether a declaration cannot be annotated. -/
def isRefused (source : Text) (d : Declaration) : Bool :=
  !(commentEdit source d).toBool

theorem isRefused_iff {source : Text} {d : Declaration} :
    isRefused source d = true ↔ ∃ e, commentEdit source d = .error e := by
  unfold isRefused
  cases commentEdit source d <;> simp [Except.toBool]

/-- What is reported is the mismatch of the last declaration that is refused. -/
theorem annotateDeclarations_eq_mismatch_iff {source : Text} {decls : List Declaration}
    {e : TagMismatch} :
    annotateDeclarations source decls = .error (.mismatch e) ↔
      ∃ d, IsFirstGreatest Declaration.start (isRefused source) decls d ∧
        commentEdit source d = .error e := by
  have hedits : annotateDeclarations source decls = .error (.mismatch e) ↔
      commentEdits source (lastFirst decls) = .error e := by
    unfold annotateDeclarations
    cases commentEdits source (lastFirst decls) with
    | error e' => simp
    | ok edits => cases hedit : Edit.apply source edits <;> simp [hedit]
  have hsorted : (lastFirst decls).Pairwise fun a b => b.start ≤ a.start :=
    pairwise_descending Declaration.start decls
  have hlast : ∀ d, IsFirstGreatest Declaration.start (isRefused source) decls d ↔
      ∃ before after, lastFirst decls = before ++ d :: after ∧ isRefused source d = true ∧
        ∀ y ∈ before, isRefused source y = false := fun d =>
    isFirstGreatest_mergeSort.symm.trans (isFirstGreatest_iff_of_pairwise hsorted)
  rw [hedits, commentEdits, mapM_eq_error_iff]
  constructor
  · rintro ⟨before, d, after, heq, hd, hbefore⟩
    refine ⟨d, (hlast d).2 ⟨before, after, heq, isRefused_iff.2 ⟨e, hd⟩, ?_⟩, hd⟩
    intro y hy
    rw [isRefused, hbefore y hy]
    rfl
  · rintro ⟨d, hd, he⟩
    obtain ⟨before, after, heq, -, hbefore⟩ := (hlast d).1 hd
    refine ⟨before, d, after, heq, he, fun y hy => ?_⟩
    simpa [isRefused] using hbefore y hy

/-! ## Places -/

/-- The first of the greatest among declarations, told from the places that declare them. -/
theorem isFirstGreatest_filterMap_iff {α β : Type} {f : α → Option β} {key : β → Nat}
    {bad : β → Bool} {l : List α} {y : β} :
    IsFirstGreatest key bad (l.filterMap f) y ↔
      ∃ before x after, l = before ++ x :: after ∧ f x = some y ∧ bad y = true ∧
        (∀ a ∈ before, ∀ b, f a = some b → bad b = true → key b < key y) ∧
        ∀ a ∈ after, ∀ b, f a = some b → bad b = true → key b ≤ key y := by
  constructor
  · rintro ⟨before, after, heq, hy, hbefore, hafter⟩
    obtain ⟨l₁, l₂, rfl, rfl, hl₂⟩ := List.filterMap_eq_append_iff.1 heq
    obtain ⟨l₃, x, l₄, rfl, hl₃, hx, rfl⟩ := List.filterMap_eq_cons_iff.1 hl₂
    -- The places `l₃` declare nothing; they go with those before.
    refine ⟨l₁ ++ l₃, x, l₄, by simp, hx, hy, ?_, ?_⟩
    · intro a ha b hb
      rcases List.mem_append.1 ha with ha | ha
      · exact hbefore b (List.mem_filterMap.2 ⟨a, ha, hb⟩)
      · rw [hl₃ a ha] at hb
        cases hb
    · exact fun a ha b hb => hafter b (List.mem_filterMap.2 ⟨a, ha, hb⟩)
  · rintro ⟨before, x, after, rfl, hx, hy, hbefore, hafter⟩
    refine ⟨before.filterMap f, after.filterMap f, ?_, hy, ?_, ?_⟩
    · rw [List.filterMap_append, List.filterMap_cons_some hx]
    · intro b hb
      obtain ⟨a, ha, hb⟩ := List.mem_filterMap.1 hb
      exact hbefore a ha b hb
    · intro b hb
      obtain ⟨a, ha, hb⟩ := List.mem_filterMap.1 hb
      exact hafter a ha b hb

/-- What offends at a place is what is declared there and refused. -/
theorem exists_offends_iff {source : Text} {p : Place} {d : Declaration} :
    (∃ e, Offends source p d e) ↔
      Survey.declaration? source p = some d ∧ isRefused source d = true := by
  rw [isRefused_iff]
  constructor
  · rintro ⟨e, h⟩
    exact ⟨h.declared, e, (offends_iff h.declared).1 h⟩
  · rintro ⟨h, e, he⟩
    exact ⟨e, (offends_iff h).2 he⟩

/-- The declaration whose mismatch is reported, told from the places of the outline. -/
theorem isFirstGreatest_declarations_iff {source : Text} {outline : Outline} {d : Declaration}
    {e : TagMismatch} :
    (IsFirstGreatest Declaration.start (isRefused source) (Survey.declarations source outline) d ∧
      commentEdit source d = .error e) ↔
      ∃ before p after, outline.places = before ++ p :: after ∧ Offends source p d e ∧
        (∀ q ∈ before, ∀ d' e', Offends source q d' e' → d'.start < d.start) ∧
        ∀ q ∈ after, ∀ d' e', Offends source q d' e' → d'.start ≤ d.start := by
  rw [Survey.declarations, isFirstGreatest_filterMap_iff]
  constructor
  · rintro ⟨⟨before, p, after, heq, hp, -, hbefore, hafter⟩, he⟩
    refine ⟨before, p, after, heq, (offends_iff hp).2 he, ?_, ?_⟩
    · intro q hq d' e' hoff
      obtain ⟨hd', hrefused⟩ := exists_offends_iff.1 ⟨e', hoff⟩
      exact hbefore q hq d' hd' hrefused
    · intro q hq d' e' hoff
      obtain ⟨hd', hrefused⟩ := exists_offends_iff.1 ⟨e', hoff⟩
      exact hafter q hq d' hd' hrefused
  · rintro ⟨before, p, after, heq, hoff, hbefore, hafter⟩
    obtain ⟨hp, hrefused⟩ := exists_offends_iff.1 ⟨e, hoff⟩
    refine ⟨⟨before, p, after, heq, hp, hrefused, ?_, ?_⟩, (offends_iff hp).1 hoff⟩
    · intro q hq d' hd' hrefused'
      obtain ⟨e', hoff'⟩ := exists_offends_iff.2 ⟨hd', hrefused'⟩
      exact hbefore q hq d' e' hoff'
    · intro q hq d' hd' hrefused'
      obtain ⟨e', hoff'⟩ := exists_offends_iff.2 ⟨hd', hrefused'⟩
      exact hafter q hq d' e' hoff'

/-- Annotating reports a mismatch exactly if a method or function of the outline offends.  It is
    the mismatch of the one that starts last, and of several that start there the one that comes
    first in document order. -/
theorem annotateOutline_eq_mismatch_iff (source : Text) (outline : Outline) :
    ((∃ e, annotateOutline source outline = .error (.mismatch e)) ↔
      ∃ p ∈ outline.places, ∃ d e, Offends source p d e) ∧
    ∀ e, annotateOutline source outline = .error (.mismatch e) ↔
      ∃ d before p after, outline.places = before ++ p :: after ∧ Offends source p d e ∧
        (∀ q ∈ before, ∀ d' e', Offends source q d' e' → d'.start < d.start) ∧
        ∀ q ∈ after, ∀ d' e', Offends source q d' e' → d'.start ≤ d.start := by
  have hreported : ∀ e, annotateOutline source outline = .error (.mismatch e) ↔
      ∃ d, IsFirstGreatest Declaration.start (isRefused source)
        (Survey.declarations source outline) d ∧ commentEdit source d = .error e :=
    fun e => annotateDeclarations_eq_mismatch_iff
  refine ⟨⟨?_, ?_⟩, fun e => (hreported e).trans (exists_congr fun d =>
    isFirstGreatest_declarations_iff)⟩
  · rintro ⟨e, he⟩
    obtain ⟨d, hd⟩ := (hreported e).1 he
    obtain ⟨before, p, after, heq, hoff, -⟩ := isFirstGreatest_declarations_iff.1 hd
    exact ⟨p, by simp [heq], d, e, hoff⟩
  · rintro ⟨p, hp, d, e, hoff⟩
    obtain ⟨hd, hrefused⟩ := exists_offends_iff.1 ⟨e, hoff⟩
    -- Something is refused, so something is the last that is refused.
    obtain ⟨last, hlast⟩ : ∃ last, IsFirstGreatest Declaration.start (isRefused source)
        (Survey.declarations source outline) last :=
      exists_isFirstGreatest ⟨d, List.mem_filterMap.2 ⟨p, hp, hd⟩, hrefused⟩
    have hlastRefused : isRefused source last = true := by
      obtain ⟨-, -, -, h, -⟩ := hlast
      exact h
    obtain ⟨e', he'⟩ := isRefused_iff.1 hlastRefused
    exact ⟨e', (hreported e').2 ⟨last, hlast, he'⟩⟩

/-- A function inside a function, both with a comment on a parameter that they do not have. -/
def nestedSource : Text :=
  "/** @param a */\nfunction f() \x7b\n  /** @param b */\n  function g() \x7b\x7d\n\x7d".toList

/-- The outline of `nestedSource`. -/
def nestedOutline : Outline :=
  ⟨⟨.program, none⟩, ⟨0, 68⟩, [
    ⟨⟨.comment, none⟩, ⟨0, 15⟩, []⟩,
    ⟨⟨.functionDecl, none⟩, ⟨16, 68⟩, [
      ⟨⟨.identifier, some .name⟩, ⟨25, 26⟩, []⟩,
      ⟨⟨.params, some .parameters⟩, ⟨26, 28⟩, []⟩,
      ⟨⟨.other, none⟩, ⟨29, 68⟩, [
        ⟨⟨.comment, none⟩, ⟨33, 48⟩, []⟩,
        ⟨⟨.functionDecl, none⟩, ⟨51, 66⟩, [
          ⟨⟨.identifier, some .name⟩, ⟨60, 61⟩, []⟩,
          ⟨⟨.params, some .parameters⟩, ⟨61, 63⟩, []⟩]⟩]⟩]⟩]⟩

/-- Both offend, and the inner one starts last. -/
example : annotateOutline nestedSource nestedOutline =
    .error (.mismatch ⟨"g".toList, 4, 0, 1⟩) := by
  cbv

end Annotate

end TypedDocs
