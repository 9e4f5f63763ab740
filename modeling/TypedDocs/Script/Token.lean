/-
  Tokens and comments of a script.

  A token keeps the text it was read from, so nothing is lost between reading
  and printing.  A comment belongs to the token it stands by: to the one before
  it when it trails that token on the same line, otherwise to the one after it.
-/

import TypedDocs.Text.Basic

namespace TypedDocs.Script

/-! ## Tokens -/

/-- What sort of token it is. -/
inductive TokenKind where
  /-- An identifier or a keyword. -/
  | word
  /-- A name with its `#`. -/
  | privateName
  | number
  | bigint
  | string
  | regex
  /-- A piece of a template up to its end or to the next `${`. -/
  | chunk
  | punct
  /-- A name of an element or an attribute. -/
  | elementName
  /-- Text between the tags of an element. -/
  | elementText
  | eof
  /-- A character that begins no token. -/
  | stray
  deriving DecidableEq, Repr, Inhabited

/-- A token of a script. -/
structure Token where
  kind : TokenKind
  text : String
  span : Span
  /-- Whether a line ends between the previous token and this one. -/
  newlineBefore : Bool
  /-- Whether it is a word that is written with escapes, so that it is never a keyword. -/
  isEscaped : Bool
  deriving Repr, Inhabited

/-! ## Comments -/

/-- The token a comment belongs to: where the next one starts or the previous one stops. -/
inductive CommentHome where
  | leading (offset : Nat)
  | trailing (offset : Nat)
  deriving DecidableEq, Repr, Inhabited

/-- A comment, with its marks. -/
structure Comment where
  span : Span
  isBlock : Bool
  text : Text
  home : CommentHome
  deriving Repr, Inhabited

/-! ## Words -/

/-- Words that can never name a binding. -/
def reservedWords : List String :=
  ["break", "case", "catch", "class", "const", "continue", "debugger", "default", "delete", "do",
    "else", "enum", "export", "extends", "false", "finally", "for", "function", "if", "import",
    "in", "instanceof", "new", "null", "return", "super", "switch", "this", "throw", "true",
    "try", "typeof", "var", "void", "while", "with"]

/-- Whether a word is reserved. -/
def isReserved (w : String) : Bool :=
  reservedWords.contains w

/-- Words that a program can bind but not refer to. -/
def guardedWords : List String :=
  ["implements", "interface", "package", "private", "protected", "public", "yield"]

namespace Token

/-- Whether the token is this punctuation mark. -/
def isPunct (t : Token) (p : String) : Bool :=
  t.kind == .punct && t.text == p

/-- Whether the token is a word that can be a keyword. -/
def isPlainWord (t : Token) : Bool :=
  t.kind == .word && !t.isEscaped

/-- Whether the token is this word. -/
def isWord (t : Token) (w : String) : Bool :=
  t.isPlainWord && t.text == w

/-- Whether the token can name a binding. -/
def isName (t : Token) : Bool :=
  t.kind == .word && (t.isEscaped || !isReserved t.text)

/-- Whether the token can refer to a binding of a program. -/
def isReferable (t : Token) : Bool :=
  t.isName && (t.isEscaped || !guardedWords.contains t.text)

/-- Whether the token is a name wherever it stands in a program, and nothing but a name. -/
def isFree (t : Token) : Bool :=
  t.isReferable && (t.isEscaped || (t.text != "let" && t.text != "await"))

end Token

end TypedDocs.Script
