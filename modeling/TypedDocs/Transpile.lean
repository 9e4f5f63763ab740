/-
  From a typed source to a plain script with documentation.

  First the documentation comments are annotated, so that they say what the
  types say; then the types go.
-/

import TypedDocs.Annotate
import TypedDocs.Script.Lower
import TypedDocs.Script.Outline

namespace TypedDocs

open Script (LowerError LowerOptions)

/-- Why a source cannot be transpiled. -/
inductive TranspileError where
  /-- A documentation comment does not fit. -/
  | annotate (e : AnnotateError)
  /-- The source cannot be lowered. -/
  | lower (e : LowerError)
  deriving DecidableEq, Repr

/-- Whether an error is one that nothing is prepared for. -/
def TranspileError.isCrash : TranspileError → Bool
  | .annotate (.edit .badCut) => true
  | .lower .byteOrderMark | .lower .quotedName => true
  | _ => false

/-- The message of an error. -/
def TranspileError.message : TranspileError → String
  | .annotate e => e.message
  | .lower .malformed => "failed to parse source: not a script"
  | .lower .unsupported => "failed to transpile: not a script that can be lowered"
  | .lower .byteOrderMark => "failed to parse source: byte order mark"
  | .lower .quotedName => "failed to transpile: name in quotes"

/-- Annotates the documentation comments of a source. -/
def annotateComments (jsx : Bool) (source : Text) : Except AnnotateError Text :=
  Annotate.annotateOutline source (Script.outlineOf jsx source)

/-- Annotates the documentation comments of a source and lowers the result. -/
def transpile (options : LowerOptions) (source : Text) : Except TranspileError Text :=
  match annotateComments options.jsx source with
  | .error e => .error (.annotate e)
  | .ok text =>
    match Script.lower options text with
    | .error e => .error (.lower e)
    | .ok out => .ok out.toList

end TypedDocs
