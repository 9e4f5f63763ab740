/-
  Reading a documentation comment into tags.

  The comment loses its opening `/**` and its closing `*/`, every line loses
  its decoration (indentation, one star, one blank) and its trailing white
  space.  A line `@word` alone or `@word` followed by a blank opens a tag; all
  other lines continue the tag above them.  Lines between two lines of three
  backticks never open a tag.  What stands before the first tag is the
  description.
-/

import TypedDocs.Comment.Tag
import TypedDocs.Text.Blank
import TypedDocs.Text.Word

namespace TypedDocs.Comment

open Text

/-! ## Lines -/

/-- Drops the decoration of a line: indentation, one star, one blank. -/
def undecorate (line : Text) : Text :=
  let body := line.dropWhile isIndent
  let body := match body with
    | '*' :: rest => rest
    | rest => rest
  match body with
  | c :: rest => if isIndent c then rest else c :: rest
  | [] => []

/-- A line without decoration and without white space at its end. -/
def cleanLine (line : Text) : Text :=
  trimEnd (undecorate line)

/-- The name and the first value text of a line that opens a tag. -/
def tagLine? : Text → Option (Text × Text)
  | '@' :: rest =>
    let word := rest.takeWhile isWord
    if word.isEmpty then none
    else match rest.dropWhile isWord with
      | [] => some ('@' :: word, [])
      | c :: value => if isIndent c then some ('@' :: word, value) else none
  | _ => none

/-- Whether a line opens or closes a fence of code. -/
def isFence (line : Text) : Bool :=
  "```".toList.isPrefixOf (trimStart line)

/-! ## Blocks -/

/-- A tag name with the lines that belong to it. -/
structure Block where
  name : Text
  lines : List Text
  deriving DecidableEq, Repr

/-- The tag of a block: its lines joined, without white space around them. -/
def Block.tag (block : Block) : Tag :=
  ⟨block.name, trim (unlines block.lines)⟩

/-- Distributes clean lines over blocks.  `fenced` says whether the lines stand
inside a fence; `current` is the block that is still open. -/
def blocks (fenced : Bool) (current : Block) : List Text → List Block
  | [] => [current]
  | line :: rest =>
    match if fenced then none else tagLine? line with
    | some (name, value) => current :: blocks fenced ⟨name, [value]⟩ rest
    | none =>
      blocks (fenced != isFence line) { current with lines := current.lines ++ [line] } rest

/-! ## Comments -/

/-- The text between the marks of a comment, with plain newlines. -/
def body (comment : Text) : Text :=
  let inner := (stripPrefix? "/**".toList comment).getD comment
  unixLines ((stripSuffix? "*/".toList inner).getD inner)

/-- A description without text says nothing. -/
def isSilent (tag : Tag) : Bool :=
  tag.name == Tag.descName && tag.value.isEmpty

/-- The tags of a comment, in order.  Silent descriptions at the front are left out. -/
def parse (comment : Text) : List Tag :=
  let clean := (lines (body comment)).map cleanLine
  ((blocks false ⟨Tag.descName, []⟩ clean).map Block.tag).dropWhile isSilent

end TypedDocs.Comment
