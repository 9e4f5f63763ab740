/-
  Finding the declarations of an outline.

  Every place of the outline is looked at, in document order.  A place of one
  of the six kinds becomes a `Declaration`, with the types its annotations
  name, the line of its name and the documentation comment that precedes it.
-/

import TypedDocs.Declaration
import TypedDocs.TypeNames

namespace TypedDocs.Survey

open Outline

variable (source : Text)

/-! ## Signatures -/

/-- The type written in a role of a node. -/
def typeInRole (role : Role) (t : Outline) : Option TypeName :=
  (t.child? role).map (typeName source)

/-- The name of a parameter; a pattern has none. -/
def paramName (pattern : Outline) : Text :=
  match pattern.kind with
  | .identifier => pattern.text source
  | .restPattern =>
    match pattern.namedKids with
    | n :: _ => if n.kind == .identifier then n.text source else "undefined".toList
    | [] => "undefined".toList
  | _ => "undefined".toList

/-- A parameter; what is no parameter, or binds `this`, gives none. -/
def param? (t : Outline) : Option Param :=
  if t.kind == .requiredParam || t.kind == .optionalParam then
    match t.child? .pattern with
    | some pattern =>
      if pattern.kind == .this then none
      else some ⟨paramName source pattern, (typeInRole source .type t).getD .undefined⟩
    | none => none
  else none

/-- The parameters of a callable. -/
def params (t : Outline) : List Param :=
  match t.child? .parameters with
  | some list => list.namedKids.filterMap (param? source)
  | none => []

/-- The signature of a callable. -/
def signature (t : Outline) : Signature :=
  ⟨params source t, typeInRole source .returnType t⟩

/-- What kind of member a method is. -/
def memberKind (t : Outline) : DeclarationKind :=
  if t.hasToken "get" then .getter (typeInRole source .returnType t)
  else if t.hasToken "set" then .setter (params source t)
  else .method (signature source t)

/-! ## Kinds -/

/-- Whether a node is a constructor. -/
def isConstructor (t : Outline) : Bool :=
  (t.kind == .methodDef || t.kind == .methodSig || t.kind == .abstractMethodSig) &&
    ((t.child? .name).map fun n => n.text source == "constructor".toList).getD false

/-- What a place declares, if it is one of the documented kinds. -/
def kind? (p : Place) : Option DeclarationKind :=
  let t := p.here
  if isConstructor source t then none
  else match t.kind with
    | .classDecl | .abstractClassDecl => some .classLike
    | .methodDef | .abstractMethodSig => some (memberKind source t)
    | .methodSig =>
      if (p.parent?.map (·.here.kind == .classBody)).getD false then some (memberKind source t)
      else none
    | .fieldDef => some (.field (typeInRole source .type t))
    | .functionDecl | .generatorDecl | .functionSig => some (.function (signature source t))
    | _ => none

/-! ## Comments -/

/-- Whether a node only wraps a declaration. -/
def isWrapper (t : Outline) : Bool :=
  t.kind == .exportStmt || t.kind == .ambientDecl

/-- The siblings before a node or before the outermost of the wrappers around
it, with the start of what they precede. -/
def anchor (here : Outline) (before : List Outline) :
    List (Outline × List Outline) → Nat × List Outline
  | [] => (here.span.start, before)
  | (t, bs) :: above =>
    if isWrapper t then anchor t bs above else (here.span.start, before)

/-- Passes decorators, the nearest first; the start moves to the first of them. -/
def passDecorators (start : Nat) : List Outline → Nat × List Outline
  | [] => (start, [])
  | t :: ts => if t.kind == .decorator then passDecorators t.span.start ts else (start, t :: ts)

/-- Passes comments that are no documentation. -/
def passPlainComments : List Outline → List Outline
  | [] => []
  | t :: ts =>
    if t.kind == .comment && !t.isDocComment source then passPlainComments ts else t :: ts

/-- Where a declaration starts, and its documentation comment.  The comment has
to be the first thing on its line. -/
def locate (p : Place) : Nat × Option Span :=
  let (start, before) := anchor p.here p.before p.above
  let (start, before) := passDecorators start before
  let doc := match passPlainComments source before with
    | [] => none
    | t :: _ =>
      if t.isDocComment source && (source.startsLine? t.span.start).getD false then some t.span
      else none
  (start, doc)

/-! ## Declarations -/

/-- The name of a declaration and where it stops; without one, where the declaration starts. -/
def nameOf (t : Outline) : Text × Nat :=
  match t.child? .name with
  | some n => (n.text source, n.span.stop)
  | none => ("(anonymous)".toList, t.span.start)

/-- The declaration at a place. -/
def declaration? (p : Place) : Option Declaration :=
  (kind? source p).map fun kind =>
    let (name, nameEnd) := nameOf source p.here
    let (start, doc) := locate source p
    { name := name
      kind := kind
      line := (source.lineOf? nameEnd).getD 0
      start := start
      indent := (source.lineIndent? start).getD []
      inline := !(source.startsLine? start).getD true
      doc := doc }

/-- The declarations of an outline, in document order. -/
def declarations (t : Outline) : List Declaration :=
  t.places.filterMap (declaration? source)

end TypedDocs.Survey
