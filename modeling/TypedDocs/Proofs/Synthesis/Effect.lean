/-
  What synthesis does to a list of tags.

  Synthesis in place either stops at a mismatch, with nothing done but the line
  number, or succeeds.  Which type it has for which of the old tags is said by
  position (`typeDue?`), without following the rules: a `@param` takes the type
  of the parameter of its number, and the first tag of the returned value or of
  the type takes the annotation.  `getElem?_retype` shows that the rules, which
  walk the list one after the other, give each tag exactly the type that is
  due; `synthesize_effect` puts the parts together.
-/

import TypedDocs.Proofs.Synthesis.Settled

namespace TypedDocs

/-! ## Callables and annotations -/

/-- The signature of a method or a function. -/
def DeclarationKind.signature? : DeclarationKind → Option Signature
  | .method s => some s
  | .function s => some s
  | _ => none

namespace Synthesis

/-- How many tags document a parameter. -/
def paramCount (tags : List Tag) : Nat :=
  tags.countP (·.name == Tag.paramName)

/-! ## The type that is due at a position -/

/-- The tag at a position, if it documents a parameter, takes the type of the parameter that has as
    many parameters before it as the tag has tags of parameters. -/
def paramDue? (params : List Param) (tags : List Tag) (i : Nat) : Option TypeName :=
  tags[i]?.bind fun tag =>
    if tag.name == Tag.paramName then params[paramCount (tags.take i)]?.map Param.type else none

/-- The tag at a position takes a type if it is the first that `wanted` accepts. -/
def firstDue? (wanted : Text → Bool) (type : Option TypeName) (tags : List Tag) (i : Nat) :
    Option TypeName :=
  tags[i]?.bind fun tag =>
    if wanted tag.name && !(tags.take i).any (wanted ·.name) then type else none

/-- The type that a declaration has for the tag at a position. -/
def typeDue? (kind : DeclarationKind) (tags : List Tag) (i : Nat) : Option TypeName :=
  match kind with
  | .classLike => none
  | .method s => (paramDue? s.params tags i).or (firstDue? isReturn s.returns tags i)
  | .function s => (paramDue? s.params tags i).or (firstDue? isReturn s.returns tags i)
  | .field type => firstDue? (· == Tag.typeTagName) type tags i
  | .getter type => firstDue? (· == Tag.typeTagName) type tags i
  | .setter _ => none

/-- Gives a tag the type that is due, unless it shows one. -/
def giveType (due : Option TypeName) (tag : Tag) : Tag :=
  match due with
  | none => tag
  | some ty => tag.ensureType ty

theorem map_giveType_none (tag : Option Tag) : tag.map (giveType none) = tag :=
  Option.map_id'

/-! ## Parameters -/

theorem paramDue?_nil (tags : List Tag) (i : Nat) : paramDue? [] tags i = none := by
  unfold paramDue?
  cases tags[i]? with
  | none => rfl
  | some tag => simp

theorem paramDue?_zero (p : Param) (ps : List Param) (tag : Tag) (tags : List Tag) :
    paramDue? (p :: ps) (tag :: tags) 0 =
      if tag.name == Tag.paramName then some p.type else none :=
  rfl

theorem paramDue?_succ_of_param (p : Param) (ps : List Param) {tag : Tag}
    (h : (tag.name == Tag.paramName) = true) (tags : List Tag) (i : Nat) :
    paramDue? (p :: ps) (tag :: tags) (i + 1) = paramDue? ps tags i := by
  have hcount : paramCount ((tag :: tags).take (i + 1)) = paramCount (tags.take i) + 1 :=
    List.countP_cons_of_pos (p := fun t : Tag => t.name == Tag.paramName) h
  unfold paramDue?
  rw [hcount]
  rfl

theorem paramDue?_succ_of_not_param (params : List Param) {tag : Tag}
    (h : ¬ (tag.name == Tag.paramName) = true) (tags : List Tag) (i : Nat) :
    paramDue? params (tag :: tags) (i + 1) = paramDue? params tags i := by
  have hcount : paramCount ((tag :: tags).take (i + 1)) = paramCount (tags.take i) :=
    List.countP_cons_of_neg (p := fun t : Tag => t.name == Tag.paramName) h
  unfold paramDue?
  rw [hcount]
  rfl

/-- Each tag of a parameter is given the type of the parameter of its number. -/
theorem getElem?_typeParams (params : List Param) (tags : List Tag) (i : Nat) :
    (typeParams params tags)[i]? = tags[i]?.map (giveType (paramDue? params tags i)) := by
  fun_induction typeParams params tags generalizing i with
  | case1 tags =>
    rw [paramDue?_nil]
    exact (map_giveType_none _).symm
  | case2 => rfl
  | case3 p ps tag tags hparam ih =>
    cases i with
    | zero =>
      rw [paramDue?_zero, if_pos hparam]
      rfl
    | succ i =>
      rw [paramDue?_succ_of_param p ps hparam]
      exact ih i
  | case4 p ps tag tags hparam ih =>
    cases i with
    | zero =>
      rw [paramDue?_zero, if_neg hparam]
      rfl
    | succ i =>
      rw [paramDue?_succ_of_not_param (p :: ps) hparam]
      exact ih i

/-! ## The first tag of a kind -/

theorem firstDue?_succ_of_not_wanted {wanted : Text → Bool} (type : Option TypeName) {tag : Tag}
    (h : wanted tag.name = false) (tags : List Tag) (i : Nat) :
    firstDue? wanted type (tag :: tags) (i + 1) = firstDue? wanted type tags i := by
  unfold firstDue?
  rw [List.take_succ_cons, List.any_cons, h, Bool.false_or, List.getElem?_cons_succ]

theorem firstDue?_succ_of_wanted {wanted : Text → Bool} (type : Option TypeName) {tag : Tag}
    (h : wanted tag.name = true) (tags : List Tag) (i : Nat) :
    firstDue? wanted type (tag :: tags) (i + 1) = none := by
  unfold firstDue?
  rw [List.take_succ_cons, List.any_cons, h, Bool.true_or]
  cases (tag :: tags)[i + 1]? with
  | none => rfl
  | some tag => simp

theorem firstDue?_none (wanted : Text → Bool) (tags : List Tag) (i : Nat) :
    firstDue? wanted none tags i = none := by
  unfold firstDue?
  cases tags[i]? with
  | none => rfl
  | some tag => simp

/-- The first tag that `wanted` accepts is given the type, and no other. -/
theorem getElem?_typeFound (wanted : Text → Bool) (type : Option TypeName) (tags : List Tag)
    (i : Nat) :
    (typeFound wanted type tags)[i]? = tags[i]?.map (giveType (firstDue? wanted type tags i)) := by
  cases type with
  | none =>
    rw [typeFound, firstDue?_none]
    exact (map_giveType_none _).symm
  | some ty =>
    induction tags generalizing i with
    | nil => rfl
    | cons tag tags ih =>
      rw [typeFound]
      split
      case isTrue hw =>
        cases i with
        | zero => simp [firstDue?, hw, giveType]
        | succ i =>
          rw [firstDue?_succ_of_wanted _ hw]
          exact (map_giveType_none _).symm
      case isFalse hw =>
        rw [Bool.not_eq_true] at hw
        cases i with
        | zero => simp [firstDue?, hw, giveType]
        | succ i =>
          rw [firstDue?_succ_of_not_wanted _ hw]
          exact ih i

/-- Which tag is the first depends on the names only. -/
theorem firstDue?_congr {tags tags' : List Tag} (h : tags.map Tag.name = tags'.map Tag.name)
    (wanted : Text → Bool) (type : Option TypeName) (i : Nat) :
    firstDue? wanted type tags i = firstDue? wanted type tags' i := by
  have hnames : ∀ ts : List Tag, firstDue? wanted type ts i =
      (ts.map Tag.name)[i]?.bind fun name =>
        if wanted name && !((ts.map Tag.name).take i).any wanted then type else none := by
    intro ts
    rw [List.getElem?_map, ← List.map_take, List.any_map]
    unfold firstDue?
    cases ts[i]? <;> rfl
  rw [hnames, hnames, h]

/-! ## All rules -/

/-- A tag of a parameter is not taken for the returned value, so the second rule leaves what the
    first has typed. -/
theorem getElem?_retype_callable (s : Signature) (tags : List Tag) (i : Nat) :
    (typeFound isReturn s.returns (typeParams s.params tags))[i]? =
      tags[i]?.map (giveType
        ((paramDue? s.params tags i).or (firstDue? isReturn s.returns tags i))) := by
  rw [getElem?_typeFound, firstDue?_congr (map_name_typeParams s.params tags),
    getElem?_typeParams]
  cases htag : tags[i]? with
  | none => rfl
  | some tag =>
    cases hparam : paramDue? s.params tags i with
    | none => rfl
    | some ty =>
      have hname : (tag.name == Tag.paramName) = true := by
        by_contra hne
        rw [paramDue?, htag, Option.bind_some, if_neg hne] at hparam
        cases hparam
      have hreturn : firstDue? isReturn s.returns tags i = none := by
        simp [firstDue?, htag, isReturn_of_param hname]
      rw [hreturn]
      rfl

/-- The rules give each tag the type that is due at its position. -/
theorem getElem?_retype (kind : DeclarationKind) (tags : List Tag) (i : Nat) :
    (retype kind tags)[i]? = tags[i]?.map (giveType (typeDue? kind tags i)) := by
  cases kind with
  | classLike => exact (map_giveType_none _).symm
  | method s => exact getElem?_retype_callable s tags i
  | function s => exact getElem?_retype_callable s tags i
  | field type => exact getElem?_typeFound (· == Tag.typeTagName) type tags i
  | getter type => exact getElem?_typeFound (· == Tag.typeTagName) type tags i
  | setter params => exact (map_giveType_none _).symm

/-- Parameters are counted past other tags, whether or not they show a type; only the first tag of
    the returned value takes the annotation. -/
example : (List.range 4).map (typeDue?
    (.method ⟨[⟨"a".toList, .number⟩, ⟨"b".toList, .string⟩], some .boolean⟩)
    [⟨Tag.paramName, "x".toList⟩, ⟨Tag.returnName, []⟩, ⟨Tag.paramName, "{T} y".toList⟩,
      ⟨Tag.returnsName, []⟩]) = [some .number, some .boolean, some .string, none] := by
  decide +kernel

/-- Tags that keep their places and names.  A value changes exactly where a type is due and the
    value does not open with one, and then the type stands in front of it. -/
structure TypedInPlace (kind : DeclarationKind) (old new : List Tag) : Prop where
  names : new.map Tag.name = old.map Tag.name
  changed_iff : ∀ (i : Nat) (a b : Tag), old[i]? = some a → new[i]? = some b →
    (b.value ≠ a.value ↔ a.value.head? ≠ some '{' ∧ (typeDue? kind old i).isSome)
  value_eq : ∀ (i : Nat) (a b : Tag) (ty : TypeName), old[i]? = some a → new[i]? = some b →
    b.value ≠ a.value → typeDue? kind old i = some ty →
      b.value = if a.value = [] then ty.braced else ty.braced ++ ' ' :: a.value

theorem value_ensureType_ne_iff (ty : TypeName) (tag : Tag) :
    (tag.ensureType ty).value ≠ tag.value ↔ tag.value.head? ≠ some '{' := by
  have htyped : (tag.ensureType ty).value.head? = some '{' :=
    beq_iff_eq.1 (Tag.hasTypePrefix_ensureType ty tag)
  constructor
  · intro hne hhead
    rw [Tag.ensureType_of_hasTypePrefix (beq_iff_eq.2 hhead)] at hne
    exact hne rfl
  · intro hhead hsame
    rw [hsame] at htyped
    exact hhead htyped

theorem value_ensureType_of_ne {ty : TypeName} {tag : Tag}
    (h : (tag.ensureType ty).value ≠ tag.value) :
    (tag.ensureType ty).value =
      if tag.value = [] then ty.braced else ty.braced ++ ' ' :: tag.value := by
  have hhead := (value_ensureType_ne_iff ty tag).1 h
  have huntyped : ¬ tag.hasTypePrefix = true := fun htyped => hhead (beq_iff_eq.1 htyped)
  rw [Tag.ensureType, if_neg huntyped, Tag.prefixType]
  simp only [List.isEmpty_iff]

theorem typedInPlace_retype (kind : DeclarationKind) (tags : List Tag) :
    TypedInPlace kind tags (retype kind tags) := by
  have hat : ∀ {i : Nat} {a b : Tag}, tags[i]? = some a → (retype kind tags)[i]? = some b →
      giveType (typeDue? kind tags i) a = b := by
    intro i a b ha hb
    rw [getElem?_retype, ha] at hb
    exact Option.some.inj hb
  refine ⟨map_name_of_retyped (forall₂_retype kind tags), ?_, ?_⟩
  · intro i a b ha hb
    rw [← hat ha hb]
    cases typeDue? kind tags i with
    | none => simp [giveType]
    | some ty => simpa [giveType] using value_ensureType_ne_iff ty a
  · intro i a b ty ha hb hne hdue
    rw [← hat ha hb, hdue] at hne ⊢
    exact value_ensureType_of_ne hne

/-! ## Mismatches -/

theorem paramCount_append_lineTag (tags : List Tag) (line : Nat) :
    paramCount (tags ++ [lineTag line]) = paramCount tags :=
  List.countP_append

theorem withParams_eq_error (decl : Declaration) {params : List Param} {tags : List Tag}
    (hsome : 0 < paramCount tags) (hne : paramCount tags ≠ params.length) (line : Nat) :
    withParams decl params (tags ++ [lineTag line]) =
      .error ⟨decl.name, decl.line, params.length, paramCount tags⟩ := by
  have hcount := paramCount_append_lineTag tags line
  unfold paramCount at hcount hsome hne ⊢
  unfold withParams
  dsimp only
  rw [hcount, if_neg (by omega), if_neg hne]

theorem exists_withParams_eq_ok (decl : Declaration) {params : List Param} {tags : List Tag}
    (h : paramCount tags = 0 ∨ paramCount tags = params.length) (line : Nat) :
    ∃ r, withParams decl params (tags ++ [lineTag line]) = .ok r := by
  have hcount := paramCount_append_lineTag tags line
  unfold paramCount at hcount h
  unfold withParams
  dsimp only
  rw [hcount]
  by_cases hnone : tags.countP (·.name == Tag.paramName) = 0
  · exact ⟨_, if_pos hnone⟩
  · rw [if_neg hnone, if_pos (h.resolve_left hnone)]
    exact ⟨_, rfl⟩

theorem synthesize_eq_error {decl : Declaration} {tags : List Tag} {s : Signature}
    (hkind : decl.kind.signature? = some s) (hsome : 0 < paramCount (kept tags))
    (hne : paramCount (kept tags) ≠ s.params.length) :
    synthesize decl tags =
      .error ⟨decl.name, decl.line, s.params.length, paramCount (kept tags)⟩ := by
  have herror := withParams_eq_error decl hsome hne decl.line
  unfold synthesize
  rw [numbered_eq]
  cases hk : decl.kind with
  | method s' | function s' =>
    obtain rfl : s' = s := by simpa [hk, DeclarationKind.signature?] using hkind
    simp only [herror]
    rfl
  | classLike | field | getter | setter => simp [hk, DeclarationKind.signature?] at hkind

/-- Without a mismatch synthesis succeeds: the old tags with their types, the line number, and the
    tags that were missing. -/
theorem synthesize_eq_ok {decl : Declaration} {tags : List Tag}
    (h : ∀ s, decl.kind.signature? = some s →
      paramCount (kept tags) = 0 ∨ paramCount (kept tags) = s.params.length) :
    synthesize decl tags =
      .ok (retype decl.kind (kept tags) ++ lineTag decl.line :: added decl.kind (kept tags)) := by
  have hok : ∃ r, synthesize decl tags = .ok r := by
    unfold synthesize
    rw [numbered_eq]
    cases hk : decl.kind with
    | method s | function s =>
      obtain ⟨r, hr⟩ := exists_withParams_eq_ok decl (h s (by rw [hk]; rfl)) decl.line
      exact ⟨withReturn s.returns r, by simp only [hr, Except.map]⟩
    | classLike | field | getter | setter => exact ⟨_, rfl⟩
  obtain ⟨r, hr⟩ := hok
  rw [hr, synthesize_eq_of_ok hr]

/-! ## In place and as a function -/

/-- The rules of a callable, in place: the second runs on what the first has made of the tags. -/
theorem run_updateParams_withReturn (decl : Declaration) (s : Signature) (tags : List Tag) :
    (updateParams decl s.params >>= fun _ => (modify (withReturn s.returns) : Rules)).run.run tags =
      match (withParams decl s.params tags).map (withReturn s.returns) with
      | .ok new => (.ok (), new)
      | .error e => (.error e, tags) := by
  have hget : (updateParams decl s.params >>=
        fun _ => (modify (withReturn s.returns) : Rules)).run.run tags =
      ((match withParams decl s.params tags with
        | .ok new => (set new : Rules)
        | .error e => throw e) >>=
          fun _ => (modify (withReturn s.returns) : Rules)).run.run tags :=
    rfl
  rw [hget]
  cases withParams decl s.params tags with
  | ok new => rfl
  | error e => rfl

/-- Synthesis in place leaves what synthesis answers; a mismatch leaves the renewed line number. -/
theorem updated_eq (decl : Declaration) (tags : List Tag) :
    updated decl tags =
      match synthesize decl tags with
      | .ok new => (.ok (), new)
      | .error e => (.error e, numbered decl.line tags) := by
  unfold updated update synthesize
  cases decl.kind with
  | classLike => rfl
  | method s => exact run_updateParams_withReturn decl s (numbered decl.line tags)
  | function s => exact run_updateParams_withReturn decl s (numbered decl.line tags)
  | field type => rfl
  | getter type => rfl
  | setter params => rfl

/-- The effect of synthesis.  It fails exactly for a callable whose tags document some parameters
    but not as many as it has; the failure gives both numbers, and in place the tags are left as
    they were but for a fresh line number.  Otherwise the old tags have the types that are due, and
    behind the line number stand the tags that were missing. -/
theorem synthesize_effect (decl : Declaration) (tags : List Tag) :
    (∀ s, decl.kind.signature? = some s → 0 < paramCount (kept tags) →
      paramCount (kept tags) ≠ s.params.length →
        synthesize decl tags =
          .error ⟨decl.name, decl.line, s.params.length, paramCount (kept tags)⟩ ∧
        updated decl tags =
          (.error ⟨decl.name, decl.line, s.params.length, paramCount (kept tags)⟩,
            kept tags ++ [lineTag decl.line])) ∧
    ((∀ s, decl.kind.signature? = some s →
        ¬ (0 < paramCount (kept tags) ∧ paramCount (kept tags) ≠ s.params.length)) →
      ∃ typed, TypedInPlace decl.kind (kept tags) typed ∧
        synthesize decl tags =
          .ok (typed ++ [lineTag decl.line] ++ added decl.kind (kept tags)) ∧
        updated decl tags =
          (.ok (), typed ++ [lineTag decl.line] ++ added decl.kind (kept tags))) := by
  constructor
  · intro s hkind hsome hne
    have herror := synthesize_eq_error hkind hsome hne
    refine ⟨herror, ?_⟩
    rw [updated_eq, herror, numbered_eq]
  · intro hfits
    have hcounts : ∀ s, decl.kind.signature? = some s →
        paramCount (kept tags) = 0 ∨ paramCount (kept tags) = s.params.length := by
      intro s hkind
      have hfit := hfits s hkind
      omega
    have hok := synthesize_eq_ok hcounts
    rw [← List.singleton_append, ← List.append_assoc] at hok
    refine ⟨retype decl.kind (kept tags), typedInPlace_retype decl.kind (kept tags), hok, ?_⟩
    rw [updated_eq, hok]

end Synthesis

end TypedDocs
