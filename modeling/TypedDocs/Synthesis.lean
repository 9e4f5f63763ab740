/-
  Tag synthesis: the types of a declaration are merged into its tags.

    class             line number only
    method, function  a `@param` per parameter, then `@return`
    field, getter     `@type` from the annotation
    setter            `@type` from the first parameter, unless there is one

  A type that a tag already shows is never replaced.
-/

import TypedDocs.Declaration

namespace TypedDocs

/-- The written `@param` tags do not fit the parameters of a declaration. -/
structure TagMismatch where
  name : Text
  line : Nat
  params : Nat
  tags : Nat
  deriving DecidableEq, Repr

/-- The wording of a mismatch. -/
def TagMismatch.message (e : TagMismatch) : String :=
  "mismatch params and comments: `" ++ String.ofList e.name ++ "` (line " ++ toString e.line ++
    ") has " ++ toString e.params ++ " parameter(s) but " ++ toString e.tags ++ " @param tag(s)"

namespace Synthesis

/-- Replaces any recorded line number by the current one, at the end. -/
def numbered (line : Nat) (tags : List Tag) : List Tag :=
  tags.filter (·.name != Tag.lineNumberName) ++ [⟨Tag.lineNumberName, Nat.toDigits 10 line⟩]

/-- The tag written for a parameter that has none. -/
def paramTag (param : Param) : Tag :=
  ⟨Tag.paramName, param.type.braced ++ ' ' :: param.name⟩

/-- Gives the `@param` tags, in order, the types of the parameters. -/
def typeParams : List Param → List Tag → List Tag
  | [], tags => tags
  | _, [] => []
  | p :: ps, tag :: tags =>
    if tag.name == Tag.paramName then tag.ensureType p.type :: typeParams ps tags
    else tag :: typeParams (p :: ps) tags

/-- Gives the first tag that `wanted` accepts a type, or adds the tag `name`. -/
def typeFirst (wanted : Text → Bool) (name : Text) (ty : TypeName) : List Tag → List Tag
  | [] => [⟨name, ty.braced⟩]
  | tag :: tags =>
    if wanted tag.name then tag.ensureType ty :: tags
    else tag :: typeFirst wanted name ty tags

/-- Adds a `@param` per parameter, or types the written ones if they are as many. -/
def withParams (decl : Declaration) (params : List Param) (tags : List Tag) :
    Except TagMismatch (List Tag) :=
  let written := tags.countP (·.name == Tag.paramName)
  if written = 0 then .ok (tags ++ params.map paramTag)
  else if written = params.length then .ok (typeParams params tags)
  else .error ⟨decl.name, decl.line, params.length, written⟩

/-- Types the returned value, under whichever spelling it is documented. -/
def withReturn (returns : Option TypeName) (tags : List Tag) : List Tag :=
  match returns with
  | none => tags
  | some ty => typeFirst (fun n => n == Tag.returnName || n == Tag.returnsName) Tag.returnName ty tags

/-- Types a field or a getter. -/
def withType (type : Option TypeName) (tags : List Tag) : List Tag :=
  match type with
  | none => tags
  | some ty => typeFirst (· == Tag.typeTagName) Tag.typeTagName ty tags

/-- Types a setter by its first parameter unless a `@type` is written. -/
def withSetter (params : List Param) (tags : List Tag) : List Tag :=
  match params.head? with
  | none => tags
  | some p =>
    if tags.any (·.name == Tag.typeTagName) then tags
    else tags ++ [⟨Tag.typeTagName, p.type.braced⟩]

/-- The tags of a declaration's new comment, from those of its old one. -/
def synthesize (decl : Declaration) (tags : List Tag) : Except TagMismatch (List Tag) :=
  let tags := numbered decl.line tags
  match decl.kind with
  | .classLike => .ok tags
  | .method s => (withParams decl s.params tags).map (withReturn s.returns)
  | .function s => (withParams decl s.params tags).map (withReturn s.returns)
  | .field type => .ok (withType type tags)
  | .getter type => .ok (withType type tags)
  | .setter params => .ok (withSetter params tags)

/-! ## Synthesis in place -/

/-- Rules that renew a list of tags.  A mismatch ends them and leaves the list as it is by then. -/
abbrev Rules :=
  ExceptT TagMismatch (StateM (List Tag)) Unit

/-- The `@param` tags of a callable, in place. -/
def updateParams (decl : Declaration) (params : List Param) : Rules := do
  match withParams decl params (← get) with
  | .ok tags => set tags
  | .error e => throw e

/-- Merges the types of a declaration into a list of tags, in place. -/
def update (decl : Declaration) : Rules := do
  modify (numbered decl.line)
  match decl.kind with
  | .classLike => pure ()
  | .method s => do
    updateParams decl s.params
    modify (withReturn s.returns)
  | .function s => do
    updateParams decl s.params
    modify (withReturn s.returns)
  | .field type => modify (withType type)
  | .getter type => modify (withType type)
  | .setter params => modify (withSetter params)

/-- How a synthesis in place ends, and the tags it leaves. -/
def updated (decl : Declaration) (tags : List Tag) : Except TagMismatch Unit × List Tag :=
  (update decl).run.run tags

end Synthesis

end TypedDocs
