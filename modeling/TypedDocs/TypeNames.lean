/-
  The name a type annotation gives to a documentation comment.

  Numbers, strings and booleans have names of their own.  A reference is known
  by its last identifier, without qualifier and type arguments.  Every other
  shape is undefined.
-/

import TypedDocs.Comment.Tag
import TypedDocs.Outline

namespace TypedDocs

open Outline

/-- The name of a predefined type. -/
def predefinedTypeName (text : Text) : TypeName :=
  if text == "number".toList then .number
  else if text == "string".toList then .string
  else if text == "boolean".toList then .boolean
  else .undefined

/-- The name of a type, from the node itself and the names of its children. -/
def typeNameStep (source : Text) (t : Outline) (inner : List TypeName) : TypeName :=
  let kids : List (Outline × TypeName) := t.kids.zip inner
  let named := kids.find? (·.1.isNamed)
  let byRole := kids.find? (·.1.label.role == some .name)
  match t.kind with
  | .typeAscription =>
    match named with
    | some (k, n) => if k.kind == .typeAscription then .undefined else n
    | none => .undefined
  | .predefinedType => predefinedTypeName (t.text source)
  | .typeIdent => .named (t.text source)
  | .nestedTypeIdent => (byRole.map (·.2)).getD .undefined
  | .genericType => (byRole.map (·.2)).getD .undefined
  | _ => .undefined

/-- The name of a type or of a type behind a colon. -/
def typeName (source : Text) (t : Outline) : TypeName :=
  t.fold (typeNameStep source)

end TypedDocs
