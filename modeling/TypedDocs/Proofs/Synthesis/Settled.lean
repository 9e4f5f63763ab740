/-
  Tags that synthesis leaves alone.

  Tags are settled for a declaration when its types leave nothing to say: each
  parameter has a typed `@param`, and the tag that shows the returned value or
  the type is there and shows one.  Synthesis settles tags
  (`settled_kept_of_synthesize`), and of settled tags it changes nothing but
  the line number (`synthesize_of_settled`), however often it is run
  (`foldlM_synthesize_of_settled`).
-/

import TypedDocs.Proofs.Synthesis.Result

namespace TypedDocs

/-! ## Tags that show a type -/

theorem Tag.hasTypePrefix_prefixType (ty : TypeName) (tag : Tag) :
    (tag.prefixType ty).hasTypePrefix = true := by
  unfold Tag.prefixType Tag.hasTypePrefix
  dsimp only
  split <;> rfl

theorem Tag.ensureType_of_hasTypePrefix {tag : Tag} (h : tag.hasTypePrefix = true)
    (ty : TypeName) : tag.ensureType ty = tag :=
  if_pos h

theorem Tag.hasTypePrefix_ensureType (ty : TypeName) (tag : Tag) :
    (tag.ensureType ty).hasTypePrefix = true := by
  unfold Tag.ensureType
  split
  case isTrue h => exact h
  case isFalse => exact Tag.hasTypePrefix_prefixType ty tag

@[simp] theorem Tag.name_ensureType (ty : TypeName) (tag : Tag) :
    (tag.ensureType ty).name = tag.name := by
  unfold Tag.ensureType
  split <;> rfl

namespace Synthesis

/-! ## Settled tags -/

/-- Each parameter has a tag, and the tags of parameters show types. -/
structure ParamsSettled (params : List Param) (tags : List Tag) : Prop where
  count : tags.countP (·.name == Tag.paramName) = params.length
  typed : ∀ tag ∈ tags, tag.name = Tag.paramName → tag.hasTypePrefix = true

/-- The first tag that `wanted` accepts is there and shows a type, if there is one to show. -/
def TypeSettled (wanted : Text → Bool) (type : Option TypeName) (tags : List Tag) : Prop :=
  type.isSome = true →
    ∃ tag, tags.find? (wanted ·.name) = some tag ∧ tag.hasTypePrefix = true

/-- The types of a declaration leave nothing to say about its tags. -/
def Settled (kind : DeclarationKind) (tags : List Tag) : Prop :=
  match kind with
  | .classLike => True
  | .method s => ParamsSettled s.params tags ∧ TypeSettled isReturn s.returns tags
  | .function s => ParamsSettled s.params tags ∧ TypeSettled isReturn s.returns tags
  | .field type => TypeSettled (· == Tag.typeTagName) type tags
  | .getter type => TypeSettled (· == Tag.typeTagName) type tags
  | .setter params => params ≠ [] → tags.any (·.name == Tag.typeTagName) = true

/-! ## Settled tags stay -/

theorem typeParams_of_typed (params : List Param) {tags : List Tag}
    (h : ∀ tag ∈ tags, tag.name = Tag.paramName → tag.hasTypePrefix = true) :
    typeParams params tags = tags := by
  fun_induction typeParams params tags with
  | case1 => rfl
  | case2 => rfl
  | case3 p ps tag tags hparam ih =>
    obtain ⟨htag, htags⟩ := List.forall_mem_cons.1 h
    rw [Tag.ensureType_of_hasTypePrefix (htag (beq_iff_eq.1 hparam)), ih htags]
  | case4 p ps tag tags _ ih => rw [ih (List.forall_mem_cons.1 h).2]

theorem typeFound_of_settled {wanted : Text → Bool} {type : Option TypeName} {tags : List Tag}
    (h : TypeSettled wanted type tags) : typeFound wanted type tags = tags := by
  cases type with
  | none => rw [typeFound]
  | some ty =>
    obtain ⟨found, hfound, htyped⟩ := h rfl
    induction tags with
    | nil => rfl
    | cons tag tags ih =>
      rw [typeFound]
      split
      case isTrue hw =>
        rw [List.find?_cons_of_pos (p := fun t : Tag => wanted t.name) hw, Option.some.injEq] at hfound
        rw [hfound, Tag.ensureType_of_hasTypePrefix htyped]
      case isFalse hw =>
        rw [List.find?_cons_of_neg (p := fun t : Tag => wanted t.name) hw] at hfound
        rw [ih (fun _ => ⟨found, hfound, htyped⟩) hfound]

theorem missing_of_settled {wanted : Text → Bool} {type : Option TypeName} {tags : List Tag}
    (h : TypeSettled wanted type tags) (name : Text) : missing wanted name type tags = [] := by
  cases type with
  | none => rfl
  | some ty =>
    obtain ⟨found, hfound, -⟩ := h rfl
    have hwanted := List.find?_some (p := fun t : Tag => wanted t.name) hfound
    have hany : tags.any (wanted ·.name) = true :=
      List.any_eq_true.2 ⟨found, List.mem_of_find?_eq_some hfound, hwanted⟩
    rw [missing, if_pos hany]

theorem withParams_of_settled (decl : Declaration) {params : List Param} {tags : List Tag}
    (h : ParamsSettled params tags) (line : Nat) :
    withParams decl params (tags ++ [lineTag line]) = .ok (tags ++ [lineTag line]) := by
  have hcount : (tags ++ [lineTag line]).countP (·.name == Tag.paramName) = params.length := by
    rw [List.countP_append, h.count]
    rfl
  have htyped : ∀ tag ∈ tags ++ [lineTag line], tag.name = Tag.paramName →
      tag.hasTypePrefix = true := by
    intro tag htag hname
    rcases List.mem_append.1 htag with htag | htag
    · exact h.typed tag htag hname
    · have hline : Tag.lineNumberName ≠ Tag.paramName := by decide
      rw [List.mem_singleton.1 htag] at hname
      exact absurd hname hline
  unfold withParams
  dsimp only
  rw [hcount, if_pos rfl, typeParams_of_typed params htyped]
  split
  case isTrue hnone =>
    -- No tag is written for the parameters because there are none.
    rw [List.length_eq_zero_iff.1 hnone, List.map_nil, List.append_nil]
  case isFalse => rfl

theorem callable_of_settled (decl : Declaration) {s : Signature} {tags : List Tag}
    (hparams : ParamsSettled s.params tags) (hreturns : TypeSettled isReturn s.returns tags)
    (line : Nat) :
    (withParams decl s.params (tags ++ [lineTag line])).map (withReturn s.returns) =
      .ok (tags ++ [lineTag line]) := by
  have hline : ∀ tag ∈ [lineTag line], isReturn tag.name = false := by
    intro tag htag
    rw [List.mem_singleton.1 htag]
    rfl
  rw [withParams_of_settled decl hparams, Except.map, withReturn_eq _ hline,
    typeFound_of_settled hreturns, missing_of_settled hreturns, List.append_nil]

/-- Of settled tags, synthesis changes nothing but the line number. -/
theorem synthesize_of_settled {decl : Declaration} {tags : List Tag}
    (h : Settled decl.kind (kept tags)) :
    synthesize decl tags = .ok (numbered decl.line tags) := by
  unfold synthesize
  rw [numbered_eq]
  cases hkind : decl.kind with
  | classLike => rfl
  | method s =>
    rw [hkind] at h
    exact callable_of_settled decl h.1 h.2 decl.line
  | function s =>
    rw [hkind] at h
    exact callable_of_settled decl h.1 h.2 decl.line
  | field type =>
    rw [hkind] at h
    have htype : TypeSettled (· == Tag.typeTagName) type (kept tags) := h
    simp only [withType_eq, typeFound_of_settled htype, missing_of_settled htype]
  | getter type =>
    rw [hkind] at h
    have htype : TypeSettled (· == Tag.typeTagName) type (kept tags) := h
    simp only [withType_eq, typeFound_of_settled htype, missing_of_settled htype]
  | setter params =>
    rw [hkind] at h
    have hany : params ≠ [] → (kept tags).any (·.name == Tag.typeTagName) = true := h
    cases params with
    | nil => rfl
    | cons p ps => simp only [withSetter_eq, missing, hany (by simp), List.head?_cons,
        Option.map_some, if_true]

/-! ## Synthesis settles -/

/-- With as many parameters as tags for them, all of these tags are typed. -/
theorem typed_typeParams {params : List Param} {tags : List Tag}
    (h : tags.countP (·.name == Tag.paramName) ≤ params.length) :
    ∀ tag ∈ typeParams params tags, tag.name = Tag.paramName → tag.hasTypePrefix = true := by
  fun_induction typeParams params tags with
  | case1 tags =>
    intro tag htag hname
    have hnone := List.countP_eq_zero.1 (Nat.le_zero.1 h) tag htag
    exact absurd (beq_iff_eq.2 hname) hnone
  | case2 => simp
  | case3 p ps tag tags hparam ih =>
    rw [List.countP_cons_of_pos (p := fun t : Tag => t.name == Tag.paramName) hparam,
      List.length_cons, Nat.add_le_add_iff_right] at h
    exact List.forall_mem_cons.2 ⟨fun _ => Tag.hasTypePrefix_ensureType p.type tag, ih h⟩
  | case4 p ps tag tags hparam ih =>
    rw [List.countP_cons_of_neg (p := fun t : Tag => t.name == Tag.paramName) hparam] at h
    refine List.forall_mem_cons.2 ⟨fun hname => ?_, ih h⟩
    exact absurd (beq_iff_eq.2 hname) hparam

/-- Giving types to other tags leaves the tags of parameters typed. -/
theorem typed_typeFound {wanted : Text → Bool} {type : Option TypeName} {tags : List Tag}
    (h : ∀ tag ∈ tags, tag.name = Tag.paramName → tag.hasTypePrefix = true) :
    ∀ tag ∈ typeFound wanted type tags, tag.name = Tag.paramName → tag.hasTypePrefix = true := by
  have hall := forall₂_typeFound wanted type tags
  generalize typeFound wanted type tags = new at hall
  induction hall with
  | nil => simp
  | cons hhead _ ih =>
    obtain ⟨hold, hrest⟩ := List.forall_mem_cons.1 h
    refine List.forall_mem_cons.2 ⟨?_, ih hrest⟩
    rcases hhead with rfl | ⟨-, ty, -, rfl⟩
    · exact hold
    · exact fun _ => Tag.hasTypePrefix_prefixType ty _

/-- The first tag is typed, or the missing one is added behind tags that are not taken for it. -/
theorem typeSettled_typeFound (wanted : Text → Bool) {name : Text} (hname : wanted name = true)
    (type : Option TypeName) (tags rest : List Tag)
    (hrest : ∀ tag ∈ rest, wanted tag.name = false) :
    TypeSettled wanted type
      (typeFound wanted type tags ++ (rest ++ missing wanted name type tags)) := by
  cases type with
  | none => exact fun h => by cases h
  | some ty =>
    intro _
    induction tags with
    | nil =>
      refine ⟨⟨name, ty.braced⟩, ?_, rfl⟩
      have hskip : rest.find? (wanted ·.name) = none := List.find?_eq_none.2 (by simpa using hrest)
      have hadded : missing wanted name (some ty) [] = [⟨name, ty.braced⟩] := rfl
      have hfound : typeFound wanted (some ty) [] = [] := rfl
      rw [hadded, hfound, List.nil_append, List.find?_append, hskip, Option.none_or]
      exact List.find?_cons_of_pos hname
    | cons tag tags ih =>
      rw [typeFound]
      split
      case isTrue hw =>
        refine ⟨tag.ensureType ty, ?_, Tag.hasTypePrefix_ensureType ty tag⟩
        exact List.find?_cons_of_pos (by simpa using hw)
      case isFalse hw =>
        have hsame : missing wanted name (some ty) (tag :: tags) =
            missing wanted name (some ty) tags := by
          simp [missing, hw]
        rw [hsame, List.cons_append, List.find?_cons_of_neg (p := fun t : Tag => wanted t.name) hw]
        exact ih

/-- How many tags have a wanted name depends on the names only. -/
theorem countP_name_congr {tags tags' : List Tag} (h : tags.map Tag.name = tags'.map Tag.name)
    (wanted : Text → Bool) : tags.countP (wanted ·.name) = tags'.countP (wanted ·.name) := by
  have hcount := congrArg (List.countP wanted) h
  simpa only [List.countP_map, Function.comp_def] using hcount

theorem map_name_typeFound (wanted : Text → Bool) (type : Option TypeName) (tags : List Tag) :
    (typeFound wanted type tags).map Tag.name = tags.map Tag.name :=
  map_name_of_retyped (forall₂_typeFound wanted type tags)

/-- Synthesis asks for no tag of a parameter, or for one of each. -/
theorem countP_of_withParams_ok {decl : Declaration} {params : List Param} {tags r : List Tag}
    {line : Nat} (h : withParams decl params (tags ++ [lineTag line]) = .ok r) :
    tags.countP (·.name == Tag.paramName) = 0 ∨
      tags.countP (·.name == Tag.paramName) = params.length := by
  have hline : [lineTag line].countP (·.name == Tag.paramName) = 0 := rfl
  unfold withParams at h
  rw [List.countP_append, hline, Nat.add_zero] at h
  dsimp only at h
  split at h
  case isTrue hnone => exact Or.inl hnone
  case isFalse =>
    split at h
    case isTrue hall => exact Or.inr hall
    case isFalse => cases h

theorem countP_missingParams (params : List Param) {tags : List Tag}
    (h : tags.countP (·.name == Tag.paramName) = 0 ∨
      tags.countP (·.name == Tag.paramName) = params.length) :
    tags.countP (·.name == Tag.paramName) +
      (missingParams params tags).countP (·.name == Tag.paramName) = params.length := by
  have hadded : (params.map paramTag).countP (·.name == Tag.paramName) = params.length := by
    rw [List.countP_map]
    exact List.countP_eq_length.2 fun _ _ => rfl
  by_cases hany : tags.any (·.name == Tag.paramName) = true
  · have hpos : 0 < tags.countP (·.name == Tag.paramName) := by
      rw [List.countP_pos_iff]
      exact List.any_eq_true.1 hany
    rw [missingParams, if_pos hany, List.countP_nil]
    omega
  · have hnone : ∀ tag ∈ tags, (tag.name == Tag.paramName) = false := by simpa using hany
    have hzero : tags.countP (·.name == Tag.paramName) = 0 := by
      rw [List.countP_eq_zero]
      simpa using hnone
    rw [missingParams_eq_map hnone, hadded, hzero, Nat.zero_add]

/-- The tags of a callable are settled by a synthesis that accepts its parameters. -/
theorem callable_settled {s : Signature} {tags : List Tag}
    (h : tags.countP (·.name == Tag.paramName) = 0 ∨
      tags.countP (·.name == Tag.paramName) = s.params.length) :
    ParamsSettled s.params (typeFound isReturn s.returns (typeParams s.params tags) ++
        (missingParams s.params tags ++ missing isReturn Tag.returnName s.returns tags)) ∧
      TypeSettled isReturn s.returns (typeFound isReturn s.returns (typeParams s.params tags) ++
        (missingParams s.params tags ++ missing isReturn Tag.returnName s.returns tags)) := by
  have hreturn : ∀ tag ∈ missing isReturn Tag.returnName s.returns tags,
      tag.name = Tag.returnName := by
    intro tag htag
    obtain ⟨ty, -, rfl⟩ := mem_missing htag
    rfl
  have hne : Tag.returnName ≠ Tag.paramName := by decide
  refine ⟨⟨?_, ?_⟩, ?_⟩
  · have hnames := (map_name_typeFound isReturn s.returns (typeParams s.params tags)).trans
      (map_name_typeParams s.params tags)
    have hzero : (missing isReturn Tag.returnName s.returns tags).countP
        (·.name == Tag.paramName) = 0 := by
      rw [List.countP_eq_zero]
      intro tag htag
      simpa [hreturn tag htag] using hne
    rw [List.countP_append, List.countP_append, hzero, Nat.add_zero,
      countP_name_congr hnames (· == Tag.paramName)]
    exact countP_missingParams s.params h
  · intro tag htag hname
    rcases List.mem_append.1 htag with htag | htag
    · have hle : tags.countP (·.name == Tag.paramName) ≤ s.params.length := by omega
      exact typed_typeFound (typed_typeParams hle) tag htag hname
    · rcases List.mem_append.1 htag with htag | htag
      · obtain ⟨p, -, rfl⟩ := mem_missingParams htag
        rfl
      · exact absurd ((hreturn tag htag).symm.trans hname) hne
  · rw [← missing_congr (map_name_typeParams s.params tags)]
    refine typeSettled_typeFound isReturn rfl s.returns (typeParams s.params tags) _ ?_
    intro tag htag
    obtain ⟨p, -, rfl⟩ := mem_missingParams htag
    rfl

/-- Only parameters, returned values and types are added. -/
theorem isTyped_of_mem_added {kind : DeclarationKind} {tags : List Tag} {tag : Tag}
    (h : tag ∈ added kind tags) : isTyped tag.name = true := by
  have hmissing : ∀ {wanted : Text → Bool} {name : Text} {type : Option TypeName},
      isTyped name = true → tag ∈ missing wanted name type tags → isTyped tag.name = true := by
    intro wanted name type hname hmem
    obtain ⟨ty, -, rfl⟩ := mem_missing hmem
    exact hname
  have hcallable : ∀ s : Signature, tag ∈ missingParams s.params tags ++
      missing isReturn Tag.returnName s.returns tags → isTyped tag.name = true := by
    intro s hmem
    rcases List.mem_append.1 hmem with hmem | hmem
    · obtain ⟨p, -, rfl⟩ := mem_missingParams hmem
      rfl
    · exact hmissing rfl hmem
  cases kind with
  | classLike => cases h
  | method s => exact hcallable s h
  | function s => exact hcallable s h
  | field type =>
    rw [added] at h
    exact hmissing rfl h
  | getter type =>
    rw [added] at h
    exact hmissing rfl h
  | setter params =>
    rw [added] at h
    exact hmissing rfl h

theorem kept_append (tags tags' : List Tag) : kept (tags ++ tags') = kept tags ++ kept tags' :=
  List.filter_append ..

theorem kept_of_forall_ne {tags : List Tag} (h : ∀ tag ∈ tags, tag.name ≠ Tag.lineNumberName) :
    kept tags = tags :=
  List.filter_eq_self.2 fun tag htag => by simpa using h tag htag

/-- Old tags that are kept are not given the name of the line number. -/
theorem name_ne_of_mem_retype {kind : DeclarationKind} {tags : List Tag} {tag : Tag}
    (h : tag ∈ retype kind (kept tags)) : tag.name ≠ Tag.lineNumberName := by
  obtain ⟨old, hold, hretyped⟩ := retyped_of_mem_retype h
  rw [hretyped.name_eq]
  simpa using (List.mem_filter.1 hold).2

theorem name_ne_of_mem_added {kind : DeclarationKind} {tags : List Tag} {tag : Tag}
    (h : tag ∈ added kind tags) : tag.name ≠ Tag.lineNumberName := by
  intro hname
  have htyped := isTyped_of_mem_added h
  rw [hname] at htyped
  cases htyped

/-- Behind a synthesis, the tags but for the line number are the typed ones and the added ones. -/
theorem kept_of_synthesize {decl : Declaration} {tags r : List Tag}
    (h : synthesize decl tags = .ok r) :
    kept r = retype decl.kind (kept tags) ++ added decl.kind (kept tags) := by
  rw [synthesize_eq_of_ok h, kept_append, kept_of_forall_ne fun _ => name_ne_of_mem_retype]
  exact congrArg _ (kept_of_forall_ne fun _ => name_ne_of_mem_added)

/-- Synthesis settles the tags. -/
theorem settled_kept_of_synthesize {decl : Declaration} {tags r : List Tag}
    (h : synthesize decl tags = .ok r) : Settled decl.kind (kept r) := by
  have hcallable : ∀ {s : Signature} {mid : Except TagMismatch (List Tag)},
      mid = withParams decl s.params (kept tags ++ [lineTag decl.line]) →
      mid.map (withReturn s.returns) = .ok r →
      (kept tags).countP (·.name == Tag.paramName) = 0 ∨
        (kept tags).countP (·.name == Tag.paramName) = s.params.length := by
    rintro s (e | mid) hmid hr
    · cases hr
    · exact countP_of_withParams_ok hmid.symm
  have hannotation : ∀ type : Option TypeName, TypeSettled (· == Tag.typeTagName) type
      (typeFound (· == Tag.typeTagName) type (kept tags) ++
        missing (· == Tag.typeTagName) Tag.typeTagName type (kept tags)) := fun type =>
    typeSettled_typeFound (· == Tag.typeTagName) rfl type (kept tags) [] (by simp)
  rw [kept_of_synthesize h]
  unfold synthesize at h
  rw [numbered_eq] at h
  cases hkind : decl.kind with
  | classLike => trivial
  | method s =>
    simp only [hkind] at h
    exact callable_settled (hcallable rfl h)
  | function s =>
    simp only [hkind] at h
    exact callable_settled (hcallable rfl h)
  | field type => exact hannotation type
  | getter type => exact hannotation type
  | setter params =>
    intro hne
    obtain ⟨p, ps, rfl⟩ := List.exists_cons_of_ne_nil hne
    unfold retype added missing
    dsimp only [List.head?_cons, Option.map_some]
    split
    case isTrue hany => rw [List.any_append, hany, Bool.true_or]
    case isFalse => rw [List.any_append, List.any_cons, beq_self_eq_true, Bool.true_or, Bool.or_true]

/-! ## Synthesis again -/

theorem kept_numbered (line : Nat) (tags : List Tag) : kept (numbered line tags) = kept tags := by
  have hline : kept [lineTag line] = [] := rfl
  have hkept : kept (kept tags) = kept tags := List.filter_filter .. |>.trans (by simp [kept])
  rw [numbered_eq, kept_append, hline, List.append_nil, hkept]

theorem numbered_numbered (line line' : Nat) (tags : List Tag) :
    numbered line' (numbered line tags) = numbered line' tags := by
  rw [numbered_eq, kept_numbered, numbered_eq]

/-- After synthesis there is one line number, that of the declaration. -/
theorem filter_lineNumber_of_synthesize {decl : Declaration} {tags r : List Tag}
    (h : synthesize decl tags = .ok r) :
    r.filter (·.name == Tag.lineNumberName) = [lineTag decl.line] := by
  have hnone : ∀ {ts : List Tag}, (∀ tag ∈ ts, tag.name ≠ Tag.lineNumberName) →
      ts.filter (·.name == Tag.lineNumberName) = [] := fun hne =>
    List.filter_eq_nil_iff.2 fun tag htag => by simpa using hne tag htag
  rw [synthesize_eq_of_ok h, List.filter_append, hnone fun _ => name_ne_of_mem_retype,
    List.nil_append, List.filter_cons_of_pos rfl, hnone fun _ => name_ne_of_mem_added]

/-- However often settled tags are synthesized, at whichever lines, the last line number is all that
    changes. -/
theorem foldlM_synthesize_of_settled {decl : Declaration} {tags : List Tag}
    (h : Settled decl.kind (kept tags)) (lines : List Nat) (last : Nat) :
    (lines ++ [last]).foldlM (fun tags line => synthesize { decl with line := line } tags) tags =
      .ok (numbered last tags) := by
  induction lines generalizing tags with
  | nil =>
    have hlast : synthesize { decl with line := last } tags = .ok (numbered last tags) :=
      synthesize_of_settled h
    exact (bind_pure _).trans hlast
  | cons line lines ih =>
    have hstep : synthesize { decl with line := line } tags = .ok (numbered line tags) :=
      synthesize_of_settled h
    have hstill : Settled decl.kind (kept (numbered line tags)) := by rwa [kept_numbered]
    have hrest := ih hstill
    rw [numbered_numbered] at hrest
    rw [List.cons_append, List.foldlM_cons, hstep]
    exact hrest

/-- Synthesis is idempotent but for the line number: a second one, at whichever line, moves the line
    number to the end and renews it, and from then on nothing changes any more. -/
theorem synthesize_again (decl : Declaration) (tags r : List Tag)
    (h : synthesize decl tags = .ok r) (line : Nat) :
    r.filter (·.name == Tag.lineNumberName) = [lineTag decl.line] ∧
      synthesize { decl with line := line } r = .ok (kept r ++ [lineTag line]) ∧
      ∀ k, (List.replicate k line).foldlM
          (fun tags line => synthesize { decl with line := line } tags)
          (kept r ++ [lineTag line]) = .ok (kept r ++ [lineTag line]) := by
  have hsettled := settled_kept_of_synthesize h
  have hsecond : synthesize { decl with line := line } r = .ok (kept r ++ [lineTag line]) :=
    synthesize_of_settled hsettled
  refine ⟨filter_lineNumber_of_synthesize h, hsecond, fun k => ?_⟩
  cases k with
  | zero => rfl
  | succ k =>
    have hstill : Settled decl.kind (kept (numbered line r)) := by rwa [kept_numbered]
    have hrun := foldlM_synthesize_of_settled hstill (List.replicate k line) line
    rwa [← List.replicate_succ', numbered_numbered, numbered_eq] at hrun

/-- A method whose returned value is documented twice and whose parameters are not documented. -/
def mixDeclaration : Declaration where
  name := "mix".toList
  kind := .method ⟨[⟨"a".toList, .number⟩, ⟨"b".toList, .named "Paint".toList⟩], some .boolean⟩
  line := 4
  start := 20
  indent := []
  inline := false
  doc := none

def mixTags : List Tag :=
  [⟨Tag.returnsName, "whether it held".toList⟩, ⟨Tag.lineNumberName, "1".toList⟩,
    ⟨Tag.returnName, "again".toList⟩]

def mixResult : List Tag :=
  [⟨Tag.returnsName, "{boolean} whether it held".toList⟩, ⟨Tag.returnName, "again".toList⟩,
    ⟨Tag.lineNumberName, "4".toList⟩, ⟨Tag.paramName, "{number} a".toList⟩,
    ⟨Tag.paramName, "{Paint} b".toList⟩]

theorem synthesize_again_mix :
    synthesize mixDeclaration mixTags = .ok mixResult ∧
      synthesize { mixDeclaration with line := 9 } mixResult =
        .ok (kept mixResult ++ [lineTag 9]) := by
  have hfirst : synthesize mixDeclaration mixTags = .ok mixResult := by decide +kernel
  exact ⟨hfirst, (synthesize_again mixDeclaration mixTags mixResult hfirst 9).2.1⟩

end Synthesis

end TypedDocs
