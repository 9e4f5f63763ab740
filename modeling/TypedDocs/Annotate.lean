/-
  Annotating documentation comments.

  For each declaration of a text, the tags of its old comment are merged with
  its types and written as a new comment, in place of the old one or before
  the declaration.  Declarations are taken from the last to the first, so of
  several mismatches the last one in the text is reported.
-/

import TypedDocs.Survey
import TypedDocs.Comment.Build
import TypedDocs.Comment.Parse
import TypedDocs.Edit
import TypedDocs.Synthesis

namespace TypedDocs

/-- Why the comments of a text cannot be annotated. -/
inductive AnnotateError where
  | mismatch (cause : TagMismatch)
  | edit (cause : EditError)
  deriving DecidableEq, Repr

/-- The message of an error. -/
def AnnotateError.message : AnnotateError → String
  | .mismatch e => e.message
  | .edit (.overlap a b) => "overlapping edits at " ++ a.show ++ " and " ++ b.show
  | .edit .badCut => "edit outside of the text"

namespace Annotate

/-- The tags of a declaration's old comment. -/
def oldTags (source : Text) (decl : Declaration) : List Tag :=
  match decl.doc with
  | some span => Comment.parse (source.sliceOf span)
  | none => []

/-- The text that takes the place of the old comment.  A new comment gets a line of its own. -/
def placed (decl : Declaration) (block : Text) : Text :=
  match decl.doc, decl.inline with
  | some _, _ => block
  | none, false => block ++ '\n' :: decl.indent
  | none, true => '\n' :: decl.indent ++ block ++ '\n' :: decl.indent

/-- The edit that gives a declaration its new comment. -/
def commentEdit (source : Text) (decl : Declaration) : Except TagMismatch Edit :=
  (Synthesis.synthesize decl (oldTags source decl)).map fun tags =>
    ⟨decl.commentSpan, placed decl (Comment.build tags decl.indent)⟩

/-- Declarations from the last to the first. -/
def lastFirst (decls : List Declaration) : List Declaration :=
  decls.mergeSort fun a b => b.start ≤ a.start

/-- The edits of several declarations, or the first mismatch among them. -/
def commentEdits (source : Text) (decls : List Declaration) : Except TagMismatch (List Edit) :=
  decls.mapM (commentEdit source)

/-- Annotates the comments of a text whose declarations are given. -/
def annotateDeclarations (source : Text) (decls : List Declaration) : Except AnnotateError Text :=
  match commentEdits source (lastFirst decls) with
  | .error e => .error (.mismatch e)
  | .ok edits =>
    match Edit.apply source edits with
    | .error e => .error (.edit e)
    | .ok text => .ok text

/-- Annotates the comments of a text along an outline of it. -/
def annotateOutline (source : Text) (outline : Outline) : Except AnnotateError Text :=
  annotateDeclarations source (Survey.declarations source outline)

end Annotate

end TypedDocs
