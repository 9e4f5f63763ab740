/-
  The outline of a source text: the tree in which declarations are found.

  An outline is a lossless tree.  Named nodes stand for constructs, unnamed
  nodes for the words and marks between them, and comments are nodes of their
  own, placed in the smallest construct around them.  A child can have a role
  in its parent.
-/

import TypedDocs.Tree

namespace TypedDocs

namespace Outline

/-- What a node of an outline stands for. -/
inductive Kind where
  | program
  | classDecl
  | abstractClassDecl
  | classBody
  | methodDef
  | methodSig
  | abstractMethodSig
  | fieldDef
  | functionDecl
  | generatorDecl
  | functionSig
  | exportStmt
  | ambientDecl
  | decorator
  | comment
  | params
  | requiredParam
  | optionalParam
  | identifier
  | restPattern
  | this
  | variableDecl
  | declarator
  | typeAscription
  | predefinedType
  | typeIdent
  | nestedTypeIdent
  | genericType
  /-- A construct that documentation does not ask about. -/
  | other
  /-- A word or a mark between constructs. -/
  | token (text : String)
  deriving DecidableEq, Repr, Inhabited

/-- The role of a node in its parent. -/
inductive Role where
  | name
  | parameters
  | returnType
  | type
  | pattern
  deriving DecidableEq, Repr, Inhabited

/-- The label of a node: what it stands for and its role. -/
structure Label where
  kind : Kind
  role : Option Role
  deriving DecidableEq, Repr, Inhabited

end Outline

/-- A tree of constructs, words, marks and comments. -/
abbrev Outline := Tree Outline.Label

namespace Outline

/-- What the node stands for. -/
def kind (t : Outline) : Kind :=
  t.label.kind

/-- Whether the node is a construct or a comment. -/
def isNamed (t : Outline) : Bool :=
  match t.kind with
  | .token _ => false
  | _ => true

/-- The constructs and comments among the children. -/
def namedKids (t : Outline) : List Outline :=
  t.kids.filter isNamed

/-- The first child in a role. -/
def child? (role : Role) (t : Outline) : Option Outline :=
  t.kids.find? fun k => k.label.role == some role

/-- Whether a word or a mark stands directly inside a node. -/
def hasToken (text : String) (t : Outline) : Bool :=
  t.kids.any fun k : Outline => k.kind == .token text

/-- The text a node covers. -/
def text (source : Text) (t : Outline) : Text :=
  source.sliceOf t.span

/-- Whether a node is a documentation comment: it opens with two stars and is not empty. -/
def isDocComment (source : Text) (t : Outline) : Bool :=
  t.kind == .comment && "/**".toList.isPrefixOf (t.text source) && t.text source != "/**/".toList

/-! ## Places -/

/-- A node with its surroundings: the siblings before it, the nearest first, and
the places of its ancestors, the nearest first. -/
structure Place where
  here : Outline
  before : List Outline
  above : List (Outline × List Outline)

/-- The place of the parent. -/
def Place.parent? (p : Place) : Option Place :=
  match p.above with
  | [] => none
  | (t, before) :: above => some ⟨t, before, above⟩

mutual

/-- Every place of a tree, parents before children, children in order. -/
def placesFrom (above : List (Outline × List Outline)) (before : List Outline) :
    Outline → List Place
  | ⟨label, span, kids⟩ =>
    ⟨⟨label, span, kids⟩, before, above⟩ ::
      placesOfKids ((⟨label, span, kids⟩, before) :: above) [] kids

/-- Every place of the children of a node. -/
def placesOfKids (above : List (Outline × List Outline)) (before : List Outline) :
    List Outline → List Place
  | [] => []
  | t :: ts => placesFrom above before t ++ placesOfKids above (t :: before) ts

end

/-- Every place of an outline, in document order. -/
def places (t : Outline) : List Place :=
  placesFrom [] [] t

/-- The type written for the first variable of an outline, behind its colon. -/
def firstAscription? (t : Outline) : Option Outline := do
  let decl ← t.namedKids.head?
  let declarator ← namedKids decl |>.head?
  child? .type declarator

/-- The comments of an outline, in document order. -/
def comments (t : Outline) : List Outline :=
  t.preorder.filter fun k : Outline => k.kind == .comment

end Outline

end TypedDocs
