/-
  Tags of a documentation comment.

  A documentation comment is read as an ordered list of tags.  A tag has a
  name, written with its `@`, and a value of free text that may open with a
  type in braces.
-/

import TypedDocs.Text.Basic

namespace TypedDocs

/-! ## Type names -/

/-- The type a tag can show for an annotation. -/
inductive TypeName where
  | number
  | string
  | boolean
  /-- The base identifier of a type reference. -/
  | named (name : Text)
  /-- No annotation, or a shape that has no single name. -/
  | undefined
  deriving DecidableEq, Repr, Inhabited

/-- The type as it is written inside the braces of a tag. -/
def TypeName.text : TypeName → Text
  | .number => "number".toList
  | .string => "string".toList
  | .boolean => "boolean".toList
  | .named name => name
  | .undefined => "undefined".toList

/-- The type between braces. -/
def TypeName.braced (ty : TypeName) : Text :=
  '{' :: ty.text ++ ['}']

/-! ## Tags -/

/-- One `@name value` entry of a documentation comment. -/
structure Tag where
  name : Text
  value : Text
  deriving DecidableEq, Repr, Inhabited

namespace Tag

/-- The tag that holds the text before the first written tag. -/
def descName : Text := "@desc".toList

/-- The tag that records where a declaration stands. -/
def lineNumberName : Text := "@lineNumber".toList

/-- The tag of one parameter. -/
def paramName : Text := "@param".toList

/-- The tag of the returned value. -/
def returnName : Text := "@return".toList

/-- The second spelling under which a returned value is documented. -/
def returnsName : Text := "@returns".toList

/-- The tag of a field, a getter or a setter. -/
def typeTagName : Text := "@type".toList

/-- Whether the value opens with a type in braces. -/
def hasTypePrefix (tag : Tag) : Bool :=
  tag.value.head? == some '{'

/-- Puts a type in braces before the value and keeps the value's text. -/
def prefixType (ty : TypeName) (tag : Tag) : Tag :=
  { tag with value := if tag.value.isEmpty then ty.braced else ty.braced ++ ' ' :: tag.value }

/-- Puts a type in braces before the value unless the value has one. -/
def ensureType (ty : TypeName) (tag : Tag) : Tag :=
  if tag.hasTypePrefix then tag else tag.prefixType ty

end Tag

end TypedDocs
