/-
  Writing tags as a documentation comment.

  Each line of the block stands behind ` * `, an empty one behind ` *`.  A
  description in first place is written without its name.
-/

import TypedDocs.Comment.Tag

namespace TypedDocs.Comment

open Text

/-- One line of the block, with its newline. -/
def decorate (indent line : Text) : Text :=
  indent ++ (if line.isEmpty then " *".toList else " * ".toList ++ line) ++ ['\n']

/-- The line that opens a tag: its name and the first line of its value. -/
def headLine (bare : Bool) (name first : Text) : Text :=
  if bare then first
  else if first.isEmpty then name
  else name ++ ' ' :: first

/-- The lines of one tag; `bare` leaves its name out. -/
def tagLines (bare : Bool) (tag : Tag) : List Text :=
  match lines tag.value with
  | [] => [headLine bare tag.name []]
  | first :: rest => headLine bare tag.name first :: rest

/-- The lines of a tag list; a description in first place is bare. -/
def contentLines : List Tag → List Text
  | [] => []
  | tag :: tags =>
    tagLines (tag.name == Tag.descName) tag ++ tags.flatMap (tagLines false)

/-- The comment that holds `tags`; every line after the first is indented. -/
def build (tags : List Tag) (indent : Text) : Text :=
  if tags.isEmpty then "/** */".toList
  else "/**\n".toList ++ (contentLines tags).flatMap (decorate indent) ++ indent ++ " */".toList

end TypedDocs.Comment
