/-
  What a type is named after.

  A type leads to its base: an annotation to the type behind the colon, a
  reference to the node in its `name` role, and so on until a node is reached
  that stands for itself.  The name of the type is that of the base, if the
  base is an identifier or one of three keywords, and undefined otherwise
  (`typeName_iff_base`).  Nothing beside that way is looked at, so type
  arguments and qualifiers can be exchanged for anything.
-/

import TypedDocs.Proofs.Survey.WellFormed

namespace TypedDocs

namespace Outline

/-! ## The way to the base -/

/-- Whether a type is named after one of its children: an annotation, a qualified name or a
    reference with arguments. -/
def borrowsName (t : Outline) : Bool :=
  t.kind == .typeAscription || t.kind == .nestedTypeIdent || t.kind == .genericType

/-- The child that a type is named after: the first construct of an annotation, or the name of a
    reference.  What an annotation holds is a type, so an annotation in an annotation names
    nothing. -/
def namesake? (t : Outline) : Option Outline :=
  match t.kind with
  | .typeAscription => t.namedKids.head?.filter fun k => k.kind != .typeAscription
  | .nestedTypeIdent | .genericType => t.child? .name
  | _ => none

/-- From namesake to namesake, a type leads to its base. -/
inductive BaseOf : Outline → Outline → Prop
  | self {t : Outline} (h : t.borrowsName = false) : BaseOf t t
  | next {t k b : Outline} (h : t.namesake? = some k) (hbase : BaseOf k b) : BaseOf t b

theorem namesake?_mem_kids {t k : Outline} (h : t.namesake? = some k) : k ∈ t.kids := by
  unfold namesake? at h
  split at h
  · have hhead := (Option.filter_eq_some_iff.1 h).1
    exact (List.mem_filter.1 (List.mem_of_mem_head? hhead)).1
  · exact List.mem_of_find?_eq_some h
  · exact List.mem_of_find?_eq_some h
  · cases h

theorem borrowsName_of_namesake? {t k : Outline} (h : t.namesake? = some k) :
    t.borrowsName = true := by
  unfold namesake? at h
  split at h
  case h_4 => cases h
  all_goals simp [borrowsName, *]

end Outline

open Outline

variable {source source' : Text} {t t' b : Outline}

/-! ## The name of a base -/

/-- The name of a type that stands for itself. -/
def baseName (source : Text) (b : Outline) : TypeName :=
  match b.kind with
  | .typeIdent => .named (b.text source)
  | .predefinedType => predefinedTypeName (b.text source)
  | _ => .undefined

theorem predefinedTypeName_ne_named (text s : Text) : predefinedTypeName text ≠ .named s := by
  unfold predefinedTypeName
  split_ifs <;> simp

/-- The names that are also keywords. -/
def keywordNames : List TypeName :=
  [.number, .string, .boolean]

/-- A keyword among the three is named as it is written, and no other is. -/
theorem predefinedTypeName_eq_iff {text : Text} {name : TypeName} (hname : name ∈ keywordNames) :
    predefinedTypeName text = name ↔ text = name.text := by
  constructor
  · intro h
    unfold predefinedTypeName at h
    split_ifs at h with hnumber hstring hboolean
    · exact h ▸ eq_of_beq hnumber
    · exact h ▸ eq_of_beq hstring
    · exact h ▸ eq_of_beq hboolean
    · subst h
      exact absurd hname (by decide)
  · rintro rfl
    simp only [keywordNames, List.mem_cons, List.not_mem_nil, or_false] at hname
    rcases hname with rfl | rfl | rfl <;> rfl

theorem baseName_eq_named_iff {s : Text} :
    baseName source b = .named s ↔ b.kind = .typeIdent ∧ b.text source = s := by
  unfold baseName
  split
  case h_1 h => simp [h]
  case h_2 h => simp [h, predefinedTypeName_ne_named]
  case h_3 h _ => exact iff_of_false (by simp) fun hident => h hident.1

theorem baseName_eq_keyword_iff {name : TypeName} (hname : name ∈ keywordNames) :
    baseName source b = name ↔ b.kind = .predefinedType ∧ b.text source = name.text := by
  have hother : name ≠ .undefined ∧ ∀ s, name ≠ .named s := by
    simp only [keywordNames, List.mem_cons, List.not_mem_nil, or_false] at hname
    rcases hname with rfl | rfl | rfl <;> simp
  unfold baseName
  split
  case h_1 h => simp [h, (hother.2 _).symm]
  case h_2 h => simp [h, predefinedTypeName_eq_iff hname]
  case h_3 _ h => exact iff_of_false hother.1.symm fun hkeyword => h hkeyword.1

/-! ## The name of a type -/

theorem typeName_eq_step (source : Text) (t : Outline) :
    typeName source t = typeNameStep source t (t.kids.map (typeName source)) := by
  obtain ⟨label, span, kids⟩ := t
  unfold typeName
  rw [Tree.fold, Tree.foldList_eq_map]

/-- The first child of a sort, with the name of its type. -/
theorem find?_zip_typeName (p : Outline → Bool) (kids : List Outline) :
    (kids.zip (kids.map (typeName source))).find? (fun k => p k.1) =
      (kids.find? p).map fun k => (k, typeName source k) := by
  rw [← List.map_prod_left_eq_zip, List.find?_map]
  rfl

/-- A type has the name of its namesake, or its own name if it does not borrow one. -/
theorem typeName_eq (source : Text) (t : Outline) :
    typeName source t =
      if t.borrowsName then (t.namesake?.map (typeName source)).getD .undefined
      else baseName source t := by
  rw [typeName_eq_step, typeNameStep]
  simp only [find?_zip_typeName Outline.isNamed,
    find?_zip_typeName fun k : Outline => k.label.role == some Role.name, Option.map_map]
  unfold namesake? baseName borrowsName
  cases hkind : t.kind
  case typeAscription =>
    rw [namedKids, List.head?_filter]
    cases t.kids.find? isNamed with
    | none => rfl
    | some k =>
      -- An annotation in an annotation has a name of its own, which is not asked for.
      by_cases hk : k.kind = .typeAscription
      · simp [Option.filter, hk]
      · simp [Option.filter, hk]
  all_goals rfl

theorem Outline.BaseOf.typeName_eq (h : BaseOf t b) : typeName source t = baseName source b := by
  induction h with
  | self h => rw [TypedDocs.typeName_eq, if_neg (by simp [h])]
  | next h _ ih =>
    rw [TypedDocs.typeName_eq, if_pos (borrowsName_of_namesake? h), h, Option.map_some,
      Option.getD_some, ih]

/-- A type that leads nowhere is undefined. -/
theorem typeName_eq_undefined (h : ∀ b, ¬ BaseOf t b) : typeName source t = .undefined := by
  induction t using Tree.induct with
  | node label span kids ih =>
    have hborrows : borrowsName ⟨label, span, kids⟩ = true := by
      by_contra hself
      exact h _ (.self (Bool.eq_false_iff.2 hself))
    rw [TypedDocs.typeName_eq, if_pos hborrows]
    cases hk : namesake? ⟨label, span, kids⟩ with
    | none => rfl
    | some k =>
      have hnowhere : ∀ b, ¬ BaseOf k b := fun b hb => h b (.next hk hb)
      exact ih k (namesake?_mem_kids hk) hnowhere

/-- A type has the name of the base it leads to; leading nowhere, it has none. -/
theorem typeName_eq_iff {name : TypeName} (hname : name ≠ .undefined) :
    typeName source t = name ↔ ∃ b, BaseOf t b ∧ baseName source b = name := by
  constructor
  · intro h
    by_cases hbase : ∃ b, BaseOf t b
    · obtain ⟨b, hb⟩ := hbase
      exact ⟨b, hb, by rw [← hb.typeName_eq, h]⟩
    · have hundefined : typeName source t = .undefined := typeName_eq_undefined (not_exists.1 hbase)
      exact absurd (h.symm.trans hundefined) hname
  · rintro ⟨b, hb, rfl⟩
    exact hb.typeName_eq

/-! ## What stands beside the way -/

/-- The second type is the first one, in a text of its own, with everything exchanged that stands
    beside the way to the base: the arguments of a reference, its qualifier, and all else but the
    child it is named after. -/
inductive SameWay (source source' : Text) : Outline → Outline → Prop
  | self {t t' : Outline} (hkind : t'.kind = t.kind) (hself : t.borrowsName = false)
      (htext : t'.text source' = t.text source) : SameWay source source' t t'
  | lost {t t' : Outline} (hkind : t'.kind = t.kind) (hborrows : t.borrowsName = true)
      (h : t.namesake? = none) (h' : t'.namesake? = none) : SameWay source source' t t'
  | next {t t' k k' : Outline} (hkind : t'.kind = t.kind) (h : t.namesake? = some k)
      (h' : t'.namesake? = some k') (hway : SameWay source source' k k') :
      SameWay source source' t t'

theorem SameWay.refl (source : Text) (t : Outline) : SameWay source source t t := by
  induction t using Tree.induct with
  | node label span kids ih =>
    cases hborrows : borrowsName ⟨label, span, kids⟩ with
    | false => exact .self rfl hborrows rfl
    | true =>
      cases hk : namesake? ⟨label, span, kids⟩ with
      | none => exact .lost rfl hborrows hk hk
      | some k => exact .next rfl hk hk (ih k (namesake?_mem_kids hk))

/-- In a reference, everything but the child it is named after can be exchanged. -/
theorem SameWay.of_namesake? (hkind : t'.kind = t.kind) (hborrows : t.borrowsName = true)
    (h : t'.namesake? = t.namesake?) : SameWay source source t t' := by
  cases hk : t.namesake? with
  | none => exact .lost hkind hborrows hk (h.trans hk)
  | some k => exact .next hkind hk (h.trans hk) (.refl source k)

theorem borrowsName_congr (h : t'.kind = t.kind) : t'.borrowsName = t.borrowsName := by
  rw [borrowsName, borrowsName, h]

theorem SameWay.typeName_eq (h : SameWay source source' t t') :
    typeName source' t' = typeName source t := by
  induction h with
  | @self t t' hkind hself htext =>
    have hself' : t'.borrowsName = false := (borrowsName_congr hkind).trans hself
    rw [TypedDocs.typeName_eq, TypedDocs.typeName_eq, if_neg (by simp [hself']),
      if_neg (by simp [hself]), baseName, baseName, hkind, htext]
  | lost hkind hborrows h h' =>
    have hborrows' := (borrowsName_congr hkind).trans hborrows
    rw [TypedDocs.typeName_eq, TypedDocs.typeName_eq, if_pos hborrows', if_pos hborrows, h, h']
    rfl
  | next hkind h h' _ ih =>
    rw [TypedDocs.typeName_eq, TypedDocs.typeName_eq, if_pos (borrowsName_of_namesake? h'),
      if_pos (borrowsName_of_namesake? h), h, h', Option.map_some, Option.map_some, ih]

/-! ## Types that can be missing -/

/-- The name of a type that need not be written; a missing one is undefined. -/
def typeNameAt (source : Text) (node : Option Outline) : TypeName :=
  (node.map (typeName source)).getD .undefined

theorem typeNameAt_eq_iff {node : Option Outline} {name : TypeName} (hname : name ≠ .undefined) :
    typeNameAt source node = name ↔ ∃ t ∈ node, ∃ b, BaseOf t b ∧ baseName source b = name := by
  cases node with
  | none => exact iff_of_false hname.symm (by simp)
  | some t =>
    rw [typeNameAt, Option.map_some, Option.getD_some, typeName_eq_iff hname]
    simp

/-- A type is named after its base: with the text of an identifier or with one of three keywords.
    A type with no such base, and a missing one, is undefined.  What stands beside the way to the
    base makes no difference. -/
theorem typeName_iff_base (source : Text) (node : Option Outline) :
    (∀ s, typeNameAt source node = .named s ↔
      ∃ t ∈ node, ∃ b, BaseOf t b ∧ b.kind = .typeIdent ∧ b.text source = s) ∧
    (∀ name ∈ keywordNames, typeNameAt source node = name ↔
      ∃ t ∈ node, ∃ b, BaseOf t b ∧ b.kind = .predefinedType ∧ b.text source = name.text) ∧
    (typeNameAt source node = .undefined ↔ ¬ ∃ t ∈ node, ∃ b, BaseOf t b ∧
      (b.kind = .typeIdent ∨
        b.kind = .predefinedType ∧ ∃ name ∈ keywordNames, b.text source = name.text)) ∧
    ∀ source' node', Option.Rel (SameWay source source') node node' →
      typeNameAt source' node' = typeNameAt source node := by
  have hnamed : ∀ s, typeNameAt source node = .named s ↔
      ∃ t ∈ node, ∃ b, BaseOf t b ∧ b.kind = .typeIdent ∧ b.text source = s := by
    intro s
    simp only [typeNameAt_eq_iff (by simp : TypeName.named s ≠ .undefined), baseName_eq_named_iff]
  have hkeyword : ∀ name ∈ keywordNames, typeNameAt source node = name ↔
      ∃ t ∈ node, ∃ b, BaseOf t b ∧ b.kind = .predefinedType ∧ b.text source = name.text := by
    intro name hname
    have hne : name ≠ .undefined := by
      rintro rfl
      exact absurd hname (by decide)
    simp only [typeNameAt_eq_iff hne, baseName_eq_keyword_iff hname]
  refine ⟨hnamed, hkeyword, ⟨?_, ?_⟩, ?_⟩
  · rintro hundefined ⟨t, ht, b, hb, hident | ⟨hkind, name, hname, htext⟩⟩
    · have hs := (hnamed _).2 ⟨t, ht, b, hb, hident, rfl⟩
      rw [hundefined] at hs
      cases hs
    · have hk := (hkeyword name hname).2 ⟨t, ht, b, hb, hkind, htext⟩
      rw [hundefined] at hk
      subst hk
      exact absurd hname (by decide)
  · intro hnone
    -- Any other name comes from a base.
    by_contra hne
    obtain ⟨t, ht, b, hb, hname⟩ := (typeNameAt_eq_iff hne).1 rfl
    refine hnone ⟨t, ht, b, hb, ?_⟩
    cases hcase : typeNameAt source node with
    | named s => exact .inl (baseName_eq_named_iff.1 (hname.trans hcase)).1
    | undefined => exact absurd hcase hne
    | _ =>
      have hkeyword' := (baseName_eq_keyword_iff (by decide)).1 (hname.trans hcase)
      exact .inr ⟨hkeyword'.1, _, by decide, hkeyword'.2⟩
  · rintro source' node' (⟨hway⟩ | _)
    · exact hway.typeName_eq
    · rfl

/-! ## A qualified reference with arguments -/

/-- A reference to `Map` behind a colon, with a qualifier and arguments. -/
def mapSource : Text :=
  ": a.Map<string>".toList

/-- The same reference with another qualifier and other arguments. -/
def remapSource : Text :=
  ": b.c.Map<[], U>".toList

/-- The tree of such a reference whose qualifier starts at 2, given where its name starts and
    stops. -/
def mapType (start stop size : Nat) (qualifier arguments : List Outline) : Outline :=
  ⟨⟨.typeAscription, some .type⟩, ⟨0, size⟩, [
    ⟨⟨.token ":", none⟩, ⟨0, 1⟩, []⟩,
    ⟨⟨.genericType, none⟩, ⟨2, size⟩, [
      ⟨⟨.nestedTypeIdent, some .name⟩, ⟨2, stop⟩,
        [⟨⟨.other, none⟩, ⟨2, start - 1⟩, qualifier⟩, ⟨⟨.token ".", none⟩, ⟨start - 1, start⟩, []⟩,
          ⟨⟨.typeIdent, some .name⟩, ⟨start, stop⟩, []⟩]⟩,
      ⟨⟨.other, none⟩, ⟨stop, size⟩, arguments⟩]⟩]⟩

def mapNode : Outline :=
  mapType 4 7 15 [] [⟨⟨.predefinedType, none⟩, ⟨8, 14⟩, []⟩]

def remapNode : Outline :=
  mapType 6 9 16 [⟨⟨.identifier, none⟩, ⟨2, 3⟩, []⟩]
    [⟨⟨.other, none⟩, ⟨10, 12⟩, []⟩, ⟨⟨.typeIdent, none⟩, ⟨14, 15⟩, []⟩]

theorem typeName_iff_base_map :
    Option.Rel (SameWay mapSource remapSource) (some mapNode) (some remapNode) ∧
      typeNameAt mapSource (some mapNode) = .named "Map".toList ∧
      typeNameAt remapSource (some remapNode) = .named "Map".toList := by
  obtain ⟨hnamed, -, -, hway⟩ := typeName_iff_base mapSource (some mapNode)
  have hbase : BaseOf mapNode ⟨⟨.typeIdent, some .name⟩, ⟨4, 7⟩, []⟩ :=
    .next rfl (.next rfl (.next rfl (.self rfl)))
  have hmap : typeNameAt mapSource (some mapNode) = .named "Map".toList :=
    (hnamed _).2 ⟨_, rfl, _, hbase, rfl, by decide⟩
  have hsame : Option.Rel (SameWay mapSource remapSource) (some mapNode) (some remapNode) := by
    refine .some (.next rfl rfl rfl (.next rfl rfl rfl (.next rfl rfl rfl (.self rfl rfl ?_))))
    decide
  exact ⟨hsame, hmap, (hway _ _ hsame).trans hmap⟩

end TypedDocs
