/-
  The result of tag synthesis.

  Synthesis keeps the tags of the old comment, but for its line numbers, and
  gives some of them a type; behind them come the line number and the tags
  that were missing (`synthesize_eq_of_ok`).  A tag that is given a type keeps
  its name, and only parameters, returned values and types are given one
  (`forall₂_retype`).
-/

import TypedDocs.Synthesis
import Mathlib.Data.List.Forall2

namespace TypedDocs

/-! ## What a declaration names -/

/-- The name of a type reference. -/
def TypeName.name? : TypeName → Option Text
  | .named name => some name
  | _ => none

namespace DeclarationKind

/-- The parameters of a callable or a setter. -/
def params : DeclarationKind → List Param
  | .method s => s.params
  | .function s => s.params
  | .setter ps => ps
  | _ => []

/-- The types of parameters and annotations. -/
def types : DeclarationKind → List TypeName
  | .classLike => []
  | .method s => s.params.map Param.type ++ s.returns.toList
  | .function s => s.params.map Param.type ++ s.returns.toList
  | .field type => type.toList
  | .getter type => type.toList
  | .setter ps => ps.map Param.type

/-- The names of parameters and of types. -/
def names (kind : DeclarationKind) : List Text :=
  kind.params.map Param.name ++ kind.types.filterMap TypeName.name?

theorem type_mem_types {kind : DeclarationKind} {p : Param} (h : p ∈ kind.params) :
    p.type ∈ kind.types := by
  cases kind with
  | classLike | field | getter => cases h
  | method s => exact List.mem_append_left _ (List.mem_map_of_mem h)
  | function s => exact List.mem_append_left _ (List.mem_map_of_mem h)
  | setter ps => exact List.mem_map_of_mem h

theorem name_mem_names {kind : DeclarationKind} {p : Param} (h : p ∈ kind.params) :
    p.name ∈ kind.names :=
  List.mem_append_left _ (List.mem_map_of_mem h)

/-- What holds of the names and of the types without one holds of the text of every type. -/
theorem text_of_mem_types {P : Text → Prop} {kind : DeclarationKind}
    (hplain : ∀ ty ∈ [TypeName.number, .string, .boolean, .undefined], P ty.text)
    (hnames : ∀ name ∈ kind.names, P name) {ty : TypeName} (hty : ty ∈ kind.types) :
    P ty.text := by
  cases ty with
  | named name =>
    refine hnames name (List.mem_append_right _ ?_)
    exact List.mem_filterMap.2 ⟨.named name, hty, rfl⟩
  | number | string | boolean | undefined => exact hplain _ (by decide)

end DeclarationKind

namespace Synthesis

/-! ## The parts of the result -/

/-- Whether a tag documents a returned value. -/
def isReturn (name : Text) : Bool :=
  name == Tag.returnName || name == Tag.returnsName

/-- The tags of the old comment that stay. -/
def kept (tags : List Tag) : List Tag :=
  tags.filter (·.name != Tag.lineNumberName)

/-- The tag of the line number. -/
def lineTag (line : Nat) : Tag :=
  ⟨Tag.lineNumberName, Nat.toDigits 10 line⟩

/-- Gives the first tag that `wanted` accepts a type. -/
def typeFound (wanted : Text → Bool) (type : Option TypeName) (tags : List Tag) : List Tag :=
  match type, tags with
  | none, tags => tags
  | _, [] => []
  | some ty, tag :: tags =>
    if wanted tag.name then tag.ensureType ty :: tags else tag :: typeFound wanted (some ty) tags

/-- The tag for a type, unless there is a tag that `wanted` accepts. -/
def missing (wanted : Text → Bool) (name : Text) (type : Option TypeName) (tags : List Tag) :
    List Tag :=
  match type with
  | none => []
  | some ty => if tags.any (wanted ·.name) then [] else [⟨name, ty.braced⟩]

/-- The tags for parameters, `@param {T} name` for each, unless there is one. -/
def missingParams (params : List Param) (tags : List Tag) : List Tag :=
  if tags.any (·.name == Tag.paramName) then []
  else params.map fun p => ⟨"@param".toList, '{' :: p.type.text ++ ['}', ' '] ++ p.name⟩

/-- The tags of the old comment with their types. -/
def retype (kind : DeclarationKind) (tags : List Tag) : List Tag :=
  match kind with
  | .classLike => tags
  | .method s => typeFound isReturn s.returns (typeParams s.params tags)
  | .function s => typeFound isReturn s.returns (typeParams s.params tags)
  | .field type => typeFound (· == Tag.typeTagName) type tags
  | .getter type => typeFound (· == Tag.typeTagName) type tags
  | .setter _ => tags

/-- The tags that were missing. -/
def added (kind : DeclarationKind) (tags : List Tag) : List Tag :=
  match kind with
  | .classLike => []
  | .method s => missingParams s.params tags ++ missing isReturn Tag.returnName s.returns tags
  | .function s => missingParams s.params tags ++ missing isReturn Tag.returnName s.returns tags
  | .field type => missing (· == Tag.typeTagName) Tag.typeTagName type tags
  | .getter type => missing (· == Tag.typeTagName) Tag.typeTagName type tags
  | .setter ps =>
    missing (· == Tag.typeTagName) Tag.typeTagName (ps.head?.map Param.type) tags

/-! ## Tags with types -/

/-- A tag after synthesis: the same, or with a type in front if `wanted` accepts its name. -/
def Retyped (wanted : Text → Bool) (types : List TypeName) (old new : Tag) : Prop :=
  new = old ∨ (wanted old.name = true ∧ ∃ ty ∈ types, new = old.prefixType ty)

theorem Retyped.name_eq {wanted : Text → Bool} {types : List TypeName} {old new : Tag}
    (h : Retyped wanted types old new) : new.name = old.name := by
  rcases h with rfl | ⟨-, ty, -, rfl⟩ <;> rfl

theorem Retyped.mono {wanted wanted' : Text → Bool} {types types' : List TypeName} {old new : Tag}
    (h : Retyped wanted types old new) (hw : ∀ n, wanted n = true → wanted' n = true)
    (ht : types ⊆ types') : Retyped wanted' types' old new := by
  rcases h with rfl | ⟨hold, ty, hty, rfl⟩
  · exact Or.inl rfl
  · exact Or.inr ⟨hw _ hold, ty, ht hty, rfl⟩

/-- Two passes over different names give at most one type to a tag. -/
theorem Retyped.trans {first second : Text → Bool} {types types' : List TypeName}
    {old mid new : Tag} (h : Retyped first types old mid) (h' : Retyped second types' mid new)
    (hne : ∀ n, first n = true → second n = false) :
    Retyped (fun n => first n || second n) (types ++ types') old new := by
  rcases h with rfl | ⟨hold, ty, hty, rfl⟩
  · exact h'.mono (fun n hn => by simp [hn]) (List.subset_append_right ..)
  · rcases h' with rfl | ⟨hmid, -⟩
    · exact Or.inr ⟨by simp [hold], ty, List.mem_append_left _ hty, rfl⟩
    · have hsame : second old.name = true := hmid
      rw [hne _ hold] at hsame
      cases hsame

theorem retyped_ensureType {wanted : Text → Bool} {tag : Tag} (h : wanted tag.name = true)
    (ty : TypeName) {types : List TypeName} (hty : ty ∈ types) :
    Retyped wanted types tag (tag.ensureType ty) := by
  unfold Tag.ensureType
  split
  · exact Or.inl rfl
  · exact Or.inr ⟨h, ty, hty, rfl⟩

theorem forall₂_retyped_refl (wanted : Text → Bool) (types : List TypeName) (tags : List Tag) :
    List.Forall₂ (Retyped wanted types) tags tags :=
  List.forall₂_same.2 fun _ _ => Or.inl rfl

theorem forall₂_typeParams (params : List Param) (tags : List Tag) :
    List.Forall₂ (Retyped (· == Tag.paramName) (params.map Param.type)) tags
      (typeParams params tags) := by
  fun_induction typeParams params tags with
  | case1 tags => exact forall₂_retyped_refl ..
  | case2 => exact List.Forall₂.nil
  | case3 p ps tag tags h ih =>
    refine List.Forall₂.cons (retyped_ensureType h p.type (by simp)) ?_
    exact ih.imp fun _ _ h => h.mono (fun _ hn => hn) (by simp)
  | case4 p ps tag tags h ih => exact List.Forall₂.cons (Or.inl rfl) ih

theorem forall₂_typeFound (wanted : Text → Bool) (type : Option TypeName) (tags : List Tag) :
    List.Forall₂ (Retyped wanted type.toList) tags (typeFound wanted type tags) := by
  cases type with
  | none =>
    rw [typeFound]
    exact forall₂_retyped_refl ..
  | some ty =>
    induction tags with
    | nil => exact List.Forall₂.nil
    | cons tag tags ih =>
      rw [typeFound]
      split
      case isTrue h =>
        have hhead := retyped_ensureType h ty (List.mem_singleton.2 rfl)
        exact List.Forall₂.cons hhead (forall₂_retyped_refl ..)
      case isFalse => exact List.Forall₂.cons (Or.inl rfl) ih

/-- Whether tags of a name are given types. -/
def isTyped (name : Text) : Bool :=
  name == Tag.paramName || isReturn name || name == Tag.typeTagName

theorem isReturn_of_param {name : Text} (h : (name == Tag.paramName) = true) :
    isReturn name = false := by
  rw [beq_iff_eq.1 h]
  decide

theorem forall₂_retype_callable (s : Signature) (tags : List Tag) :
    List.Forall₂ (Retyped isTyped (s.params.map Param.type ++ s.returns.toList)) tags
      (typeFound isReturn s.returns (typeParams s.params tags)) := by
  have hparams := forall₂_typeParams s.params tags
  have hreturn := forall₂_typeFound isReturn s.returns (typeParams s.params tags)
  -- The first pass types parameters only, the second returned values only.
  generalize typeParams s.params tags = mid at hparams hreturn
  generalize typeFound isReturn s.returns mid = new at hreturn
  induction hparams generalizing new with
  | nil =>
    cases hreturn
    exact List.Forall₂.nil
  | cons hhead _ ih =>
    obtain ⟨b, bs, hb, hbs, rfl⟩ := List.forall₂_cons_left_iff.1 hreturn
    refine List.Forall₂.cons ?_ (ih bs hbs)
    exact (hhead.trans hb fun _ => isReturn_of_param).mono
      (fun n hn => by simp only [isTyped, hn, Bool.true_or]) (List.Subset.refl _)

/-- Every tag of the old comment stays in its place with its name. -/
theorem forall₂_retype (kind : DeclarationKind) (tags : List Tag) :
    List.Forall₂ (Retyped isTyped kind.types) tags (retype kind tags) := by
  have hannotation : ∀ type : Option TypeName, List.Forall₂ (Retyped isTyped type.toList) tags
      (typeFound (· == Tag.typeTagName) type tags) := fun type =>
    (forall₂_typeFound (· == Tag.typeTagName) type tags).imp fun _ _ h =>
      h.mono (fun n hn => by simp [isTyped, beq_iff_eq.1 hn]) (List.Subset.refl _)
  cases kind with
  | classLike => exact forall₂_retyped_refl ..
  | method s => exact forall₂_retype_callable s tags
  | function s => exact forall₂_retype_callable s tags
  | field type => exact hannotation type
  | getter type => exact hannotation type
  | setter ps => exact forall₂_retyped_refl ..

/-! ## Synthesis in parts -/

theorem typeParams_append {rest : List Tag}
    (hrest : ∀ tag ∈ rest, (tag.name == Tag.paramName) = false) (params : List Param)
    (tags : List Tag) : typeParams params (tags ++ rest) = typeParams params tags ++ rest := by
  induction tags generalizing params with
  | nil =>
    induction rest with
    | nil => cases params <;> rfl
    | cons tag rest ih =>
      have htail := ih fun t ht => hrest t (List.mem_cons_of_mem _ ht)
      cases params with
      | nil => rfl
      | cons p ps =>
        have hskip : typeParams (p :: ps) (tag :: rest) = tag :: typeParams (p :: ps) rest := by
          rw [typeParams, if_neg (by simp [hrest tag List.mem_cons_self])]
        exact hskip.trans (congrArg (tag :: ·) htail)
  | cons tag tags ih =>
    cases params with
    | nil => rfl
    | cons p ps =>
      rw [List.cons_append, typeParams, typeParams]
      split
      · rw [ih, List.cons_append]
      · rw [ih, List.cons_append]

/-- Without a written parameter nothing is typed. -/
theorem typeParams_eq_self {tags : List Tag}
    (h : ∀ tag ∈ tags, (tag.name == Tag.paramName) = false) (params : List Param) :
    typeParams params tags = tags := by
  have hnil : typeParams params [] = [] := by cases params <;> rfl
  have happend := typeParams_append h params []
  rwa [hnil, List.nil_append] at happend

theorem typeFirst_append (wanted : Text → Bool) (name : Text) (ty : TypeName) {rest : List Tag}
    (hrest : ∀ tag ∈ rest, wanted tag.name = false) (tags : List Tag) :
    typeFirst wanted name ty (tags ++ rest) =
      typeFound wanted (some ty) tags ++ rest ++ missing wanted name (some ty) tags := by
  induction tags with
  | nil =>
    induction rest with
    | nil => rfl
    | cons tag rest ih =>
      have htail := ih fun t ht => hrest t (List.mem_cons_of_mem _ ht)
      have hskip : typeFirst wanted name ty (tag :: rest) = tag :: typeFirst wanted name ty rest := by
        rw [typeFirst, if_neg (by simp [hrest tag List.mem_cons_self])]
      exact hskip.trans (congrArg (tag :: ·) htail)
  | cons tag tags ih =>
    rw [List.cons_append, typeFirst, typeFound]
    split
    case isTrue h => simp [missing, h]
    case isFalse h =>
      rw [ih]
      simp [missing, h]

/-- Tags that are given types keep their places and names. -/
theorem map_name_of_retyped {wanted : Text → Bool} {types : List TypeName} {old new : List Tag}
    (h : List.Forall₂ (Retyped wanted types) old new) : new.map Tag.name = old.map Tag.name := by
  induction h with
  | nil => rfl
  | cons hhead _ ih => rw [List.map_cons, List.map_cons, hhead.name_eq, ih]

theorem map_name_typeParams (params : List Param) (tags : List Tag) :
    (typeParams params tags).map Tag.name = tags.map Tag.name :=
  map_name_of_retyped (forall₂_typeParams params tags)

/-- Whether a tag is missing depends on the names only. -/
theorem missing_congr {tags tags' : List Tag} (h : tags.map Tag.name = tags'.map Tag.name)
    (wanted : Text → Bool) (name : Text) (type : Option TypeName) :
    missing wanted name type tags = missing wanted name type tags' := by
  have hany : tags.any (wanted ·.name) = tags'.any (wanted ·.name) := by
    have hmap := congrArg (List.any · wanted) h
    simpa only [List.any_map, Function.comp_def] using hmap
  unfold missing
  rw [hany]

theorem numbered_eq (line : Nat) (tags : List Tag) :
    numbered line tags = kept tags ++ [lineTag line] :=
  rfl

theorem paramTag_eq (p : Param) :
    paramTag p = ⟨"@param".toList, '{' :: p.type.text ++ ['}', ' '] ++ p.name⟩ := by
  simp [paramTag, Tag.paramName, TypeName.braced]

/-- Without a written parameter every parameter is given its tag. -/
theorem missingParams_eq_map {tags : List Tag}
    (h : ∀ tag ∈ tags, (tag.name == Tag.paramName) = false) (params : List Param) :
    missingParams params tags = params.map paramTag := by
  rw [missingParams, if_neg (by simpa using h)]
  exact List.map_congr_left fun p _ => (paramTag_eq p).symm

theorem withParams_eq_of_ok {decl : Declaration} {params : List Param} {tags r : List Tag}
    {line : Nat} (h : withParams decl params (tags ++ [lineTag line]) = .ok r) :
    r = typeParams params tags ++ lineTag line :: missingParams params tags := by
  have hline : ∀ tag ∈ [lineTag line], (tag.name == Tag.paramName) = false := by
    intro tag htag
    rw [List.mem_singleton.1 htag]
    rfl
  have hcount : [lineTag line].countP (·.name == Tag.paramName) = 0 := rfl
  unfold withParams at h
  rw [List.countP_append, hcount, Nat.add_zero] at h
  dsimp only at h
  split at h
  case isTrue hnone =>
    -- No parameter is written: nothing is typed and all are added.
    have hnone' : ∀ tag ∈ tags, (tag.name == Tag.paramName) = false := by
      simpa using List.countP_eq_zero.1 hnone
    cases h
    rw [typeParams_eq_self hnone', missingParams_eq_map hnone']
    simp
  case isFalse hsome =>
    split at h
    case isTrue =>
      -- As many are written as there are: they are typed in place.
      cases h
      have hany : tags.any (·.name == Tag.paramName) = true := by
        rw [List.any_eq_true]
        simpa using hsome
      rw [typeParams_append hline, missingParams, if_pos hany]
    case isFalse => cases h

theorem withReturn_eq (returns : Option TypeName) {tags rest : List Tag}
    (hrest : ∀ tag ∈ rest, isReturn tag.name = false) :
    withReturn returns (tags ++ rest) =
      typeFound isReturn returns tags ++ rest ++ missing isReturn Tag.returnName returns tags := by
  cases returns with
  | none => simp [withReturn, typeFound, missing]
  | some ty => exact typeFirst_append isReturn Tag.returnName ty hrest tags

theorem withType_eq (type : Option TypeName) (tags : List Tag) (line : Nat) :
    withType type (tags ++ [lineTag line]) =
      typeFound (· == Tag.typeTagName) type tags ++
        lineTag line :: missing (· == Tag.typeTagName) Tag.typeTagName type tags := by
  cases type with
  | none => simp [withType, typeFound, missing]
  | some ty =>
    have hline : ∀ tag ∈ [lineTag line], (tag.name == Tag.typeTagName) = false := by
      intro tag htag
      rw [List.mem_singleton.1 htag]
      rfl
    have h := typeFirst_append (· == Tag.typeTagName) Tag.typeTagName ty hline tags
    rwa [List.append_assoc] at h

theorem withSetter_eq (params : List Param) (tags : List Tag) (line : Nat) :
    withSetter params (tags ++ [lineTag line]) =
      tags ++ lineTag line :: missing (· == Tag.typeTagName) Tag.typeTagName
        (params.head?.map Param.type) tags := by
  have hline : (Tag.lineNumberName == Tag.typeTagName) = false := by decide
  cases params with
  | nil => simp [withSetter, missing]
  | cons p ps =>
    simp only [withSetter, missing, List.head?_cons, Option.map_some, List.any_append,
      List.any_cons, List.any_nil, lineTag, hline, Bool.or_false]
    split <;> simp

theorem mem_missingParams {params : List Param} {tags : List Tag} {tag : Tag}
    (h : tag ∈ missingParams params tags) : ∃ p ∈ params, tag = paramTag p := by
  unfold missingParams at h
  split at h
  · cases h
  · obtain ⟨p, hp, rfl⟩ := List.mem_map.1 h
    exact ⟨p, hp, (paramTag_eq p).symm⟩

/-- Parameters first, then the returned value: the line number stays between
    the old tags and the new ones. -/
theorem callable_eq_of_ok {decl : Declaration} {s : Signature} {tags r : List Tag} {line : Nat}
    (h : (withParams decl s.params (tags ++ [lineTag line])).map (withReturn s.returns) = .ok r) :
    r = typeFound isReturn s.returns (typeParams s.params tags) ++
      lineTag line :: (missingParams s.params tags ++
        missing isReturn Tag.returnName s.returns tags) := by
  cases hparams : withParams decl s.params (tags ++ [lineTag line]) with
  | error e => simp [hparams, Except.map] at h
  | ok mid =>
    have hr : withReturn s.returns mid = r := by simpa [hparams, Except.map] using h
    rw [withParams_eq_of_ok hparams] at hr
    -- Neither the line number nor an added parameter is taken for the returned value.
    have hrest : ∀ tag ∈ lineTag line :: missingParams s.params tags,
        isReturn tag.name = false := by
      intro tag htag
      rcases List.mem_cons.1 htag with rfl | htag
      · rfl
      · obtain ⟨p, -, rfl⟩ := mem_missingParams htag
        rfl
    rw [withReturn_eq _ hrest, missing_congr (map_name_typeParams ..)] at hr
    rw [← hr, List.append_assoc, List.cons_append]

/-- Synthesis keeps the old tags in front, then writes the line number and what
    was missing. -/
theorem synthesize_eq_of_ok {decl : Declaration} {tags r : List Tag}
    (h : synthesize decl tags = .ok r) :
    r = retype decl.kind (kept tags) ++ lineTag decl.line :: added decl.kind (kept tags) := by
  unfold synthesize at h
  rw [numbered_eq] at h
  cases hkind : decl.kind with
  | classLike =>
    simp only [hkind] at h
    cases h
    rfl
  | method s =>
    simp only [hkind] at h
    exact callable_eq_of_ok h
  | function s =>
    simp only [hkind] at h
    exact callable_eq_of_ok h
  | field type =>
    simp only [hkind] at h
    cases h
    exact withType_eq ..
  | getter type =>
    simp only [hkind] at h
    cases h
    exact withType_eq ..
  | setter ps =>
    simp only [hkind] at h
    cases h
    exact withSetter_eq ..

theorem synthesize_ne_nil {decl : Declaration} {tags r : List Tag}
    (h : synthesize decl tags = .ok r) : r ≠ [] := by
  rw [synthesize_eq_of_ok h]
  simp

/-! ## The tags of the result -/

/-- The names of the tags that synthesis can add. -/
def addedNames : List Text :=
  [Tag.lineNumberName, Tag.paramName, Tag.returnName, Tag.typeTagName]

/-- A tag that synthesis adds for a declaration: a type, and a name behind it for a parameter. -/
structure Written (kind : DeclarationKind) (tag : Tag) : Prop where
  name_mem : tag.name ∈ addedNames
  value_eq : ∃ ty ∈ kind.types, tag.value = ty.braced ∨
    ∃ name ∈ kind.names, tag.value = ty.braced ++ ' ' :: name

theorem written_paramTag {kind : DeclarationKind} {p : Param} (h : p ∈ kind.params) :
    Written kind (paramTag p) where
  name_mem := List.mem_of_elem_eq_true rfl
  value_eq := ⟨p.type, DeclarationKind.type_mem_types h, Or.inr
    ⟨p.name, DeclarationKind.name_mem_names h, rfl⟩⟩

theorem written_type {kind : DeclarationKind} {name : Text} (hname : name ∈ addedNames)
    {ty : TypeName} (hty : ty ∈ kind.types) : Written kind ⟨name, ty.braced⟩ where
  name_mem := hname
  value_eq := ⟨ty, hty, Or.inl rfl⟩

theorem mem_missing {wanted : Text → Bool} {name : Text} {type : Option TypeName}
    {tags : List Tag} {tag : Tag} (h : tag ∈ missing wanted name type tags) :
    ∃ ty ∈ type, tag = ⟨name, ty.braced⟩ := by
  cases type with
  | none => cases h
  | some ty =>
    rw [missing] at h
    split at h
    · cases h
    · exact ⟨ty, rfl, List.mem_singleton.1 h⟩

theorem written_of_mem_added {kind : DeclarationKind} {tags : List Tag} {tag : Tag}
    (h : tag ∈ added kind tags) : Written kind tag := by
  cases kind with
  | classLike => cases h
  | method s =>
    rcases List.mem_append.1 h with h | h
    · obtain ⟨p, hp, rfl⟩ := mem_missingParams h
      exact written_paramTag hp
    · obtain ⟨ty, hty, rfl⟩ := mem_missing h
      exact written_type (by decide) (List.mem_append_right _ (Option.mem_toList.2 hty))
  | function s =>
    rcases List.mem_append.1 h with h | h
    · obtain ⟨p, hp, rfl⟩ := mem_missingParams h
      exact written_paramTag hp
    · obtain ⟨ty, hty, rfl⟩ := mem_missing h
      exact written_type (by decide) (List.mem_append_right _ (Option.mem_toList.2 hty))
  | field type =>
    rw [added] at h
    obtain ⟨ty, hty, rfl⟩ := mem_missing h
    exact written_type (by decide) (Option.mem_toList.2 hty)
  | getter type =>
    rw [added] at h
    obtain ⟨ty, hty, rfl⟩ := mem_missing h
    exact written_type (by decide) (Option.mem_toList.2 hty)
  | setter ps =>
    rw [added] at h
    obtain ⟨ty, hty, rfl⟩ := mem_missing h
    obtain ⟨p, hp, rfl⟩ := Option.map_eq_some_iff.1 hty
    exact written_type (by decide) (List.mem_map_of_mem (List.mem_of_mem_head? hp))

theorem retyped_of_mem_retype {kind : DeclarationKind} {tags : List Tag} {tag : Tag}
    (h : tag ∈ retype kind tags) : ∃ old ∈ tags, Retyped isTyped kind.types old tag := by
  have hall := forall₂_retype kind tags
  generalize retype kind tags = new at h hall
  induction hall with
  | nil => cases h
  | cons hhead _ ih =>
    rcases List.mem_cons.1 h with rfl | h
    · exact ⟨_, List.mem_cons_self .., hhead⟩
    · obtain ⟨old, hold, hretyped⟩ := ih h
      exact ⟨old, List.mem_cons_of_mem _ hold, hretyped⟩

/-- What holds of the old tags, however they are typed, of the line number and of every tag that
    can be added holds of the result. -/
theorem forall_mem_synthesize {Q : Tag → Prop} {decl : Declaration} {old new : List Tag}
    (hold : ∀ tag ∈ old, Q tag)
    (htype : ∀ tag, Q tag → ∀ ty ∈ decl.kind.types, Q (tag.prefixType ty))
    (hline : Q (lineTag decl.line)) (hadded : ∀ tag, Written decl.kind tag → Q tag)
    (h : synthesize decl old = .ok new) : ∀ tag ∈ new, Q tag := by
  intro tag htag
  rw [synthesize_eq_of_ok h, List.mem_append, List.mem_cons] at htag
  rcases htag with htag | rfl | htag
  · obtain ⟨t, ht, hretyped⟩ := retyped_of_mem_retype htag
    have hkept : Q t := hold t (List.mem_of_mem_filter ht)
    rcases hretyped with rfl | ⟨-, ty, hty, rfl⟩
    · exact hkept
    · exact htype t hkept ty hty
  · exact hline
  · exact hadded tag (written_of_mem_added htag)

end Synthesis

end TypedDocs
