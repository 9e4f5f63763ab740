/-
  Documented declarations.

  Six kinds of declaration carry a documentation comment that shows types:
  classes, methods, fields, getters, setters and functions.  A `Declaration`
  says what is needed to write its comment and where the comment goes.
-/

import TypedDocs.Comment.Tag

namespace TypedDocs

/-- A parameter as it is written in a signature. -/
structure Param where
  name : Text
  type : TypeName
  deriving DecidableEq, Repr

/-- The parameters of a callable and the type it is annotated to return. -/
structure Signature where
  params : List Param
  returns : Option TypeName
  deriving DecidableEq, Repr

/-- What kind of thing is declared. -/
inductive DeclarationKind where
  | classLike
  | method (signature : Signature)
  | field (type : Option TypeName)
  | getter (type : Option TypeName)
  | setter (params : List Param)
  | function (signature : Signature)
  deriving DecidableEq, Repr

/-- A declaration found in a source text. -/
structure Declaration where
  name : Text
  kind : DeclarationKind
  /-- The line of the name, counted from one. -/
  line : Nat
  /-- The offset where the declaration begins, decorators included. -/
  start : Nat
  /-- The indentation of the line that `start` stands on. -/
  indent : Text
  /-- Whether other text stands before `start` on its line. -/
  inline : Bool
  /-- The documentation comment that belongs to the declaration. -/
  doc : Option Span
  deriving DecidableEq, Repr

/-- The span that the new comment takes: the old comment, or no text at all
right before the declaration. -/
def Declaration.commentSpan (decl : Declaration) : Span :=
  decl.doc.getD ⟨decl.start, decl.start⟩

end TypedDocs
