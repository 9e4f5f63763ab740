/-
  Cutting a script into tokens.

  What a slash, a brace or an angle bracket begins depends on where it stands,
  so tokens are cut one at a time, on demand.  `scan` reads in the usual way, a
  slash being an operator; `regex?`, `chunk?`, `elementText`, `elementName` and
  `elementString?` read what only a parser can ask for.  Every function works
  on the text that is left and gives back what it took and what remains.

  A text that only has to show its outline may use more characters in words and
  between tokens than one that has to make sense as a program; `exact` tells
  the two apart.
-/

import TypedDocs.Script.Token
import TypedDocs.Text.Blank
import TypedDocs.Text.Escape
import TypedDocs.Text.Identifier

namespace TypedDocs.Script

/-! ## Character classes -/

/-- Characters that end a line. -/
def isLineEnd (c : Char) : Bool :=
  c == '\n' || c == '\r' || c.toNat == 0x2028 || c.toNat == 0x2029

/-- Characters that may stand between tokens. -/
def isSpace (c : Char) : Bool :=
  Text.isBlank c || c.toNat == 0xFEFF || c.toNat == 0x200B || c.toNat == 0x2060

/-- Characters that may stand between the tokens of a program. -/
def isExactSpace (c : Char) : Bool :=
  Text.isBlank c || c.toNat == 0xFEFF

/-- Characters that can begin an identifier. -/
def isIdentStart (exact : Bool) (c : Char) : Bool :=
  c.isAlpha || c == '_' || c == '$' ||
    (0x80 ≤ c.toNat && if exact then Text.beginsIdentifier c else !isSpace c)

/-- Characters that can stand inside an identifier. -/
def isIdentPart (exact : Bool) (c : Char) : Bool :=
  isIdentStart exact c || c.isDigit || (exact && 0x80 ≤ c.toNat && Text.continuesIdentifier c)

/-- Whether digits in base sixteen write the code of a character. -/
def isCodePoint (digits : Text) : Bool :=
  ((Text.inBase? 16 digits).map fun n => decide (n ≤ 0x10FFFF)).getD false

/-- The length of the escape at the front of a text, zero if there is none.  In a program it has
to stand for a character. -/
def escapeLength (exact : Bool) (s : Text) : Nat :=
  match s with
  | '\\' :: 'u' :: '{' :: t =>
    let digits := t.takeWhile Text.isHexDigit
    let n := digits.length
    if 0 < n && (t.drop n).head? == some '}' && (!exact || isCodePoint digits) then n + 4 else 0
  | '\\' :: 'u' :: t =>
    if (t.take 4).length == 4 && (t.take 4).all Text.isHexDigit then 6 else 0
  | _ => 0

/-- The characters of a word at the front of a text, and the rest; `skip` of them belong to an
escape. -/
def wordTail (exact : Bool) : Nat → Text → Text → Text × Text
  | _, acc, [] => (acc.reverse, [])
  | skip + 1, acc, c :: s => wordTail exact skip (c :: acc) s
  | 0, acc, c :: s =>
    if isIdentPart exact c then wordTail exact 0 (c :: acc) s
    else match escapeLength exact (c :: s) with
      | 0 => (acc.reverse, c :: s)
      | n + 1 => wordTail exact n (c :: acc) s

/-- Whether a word begins at the front of a text. -/
def opensWord (exact : Bool) (s : Text) : Bool :=
  match s with
  | c :: _ => isIdentStart exact c || (c == '\\' && 0 < escapeLength exact s)
  | [] => false

/-! ## Comments -/

/-- The inside of a block comment up to and with its closing mark, and the rest. -/
def blockTail? : Text → Text → Option (Text × Text)
  | _, [] => none
  | acc, '*' :: '/' :: s => some (('/' :: '*' :: acc).reverse, s)
  | acc, c :: s => blockTail? (c :: acc) s

/-- A comment as it was read, before it is known which token it belongs to. -/
structure RawComment where
  span : Span
  isBlock : Bool
  text : Text
  /-- Whether a line ended between the previous token and the comment. -/
  newlineBefore : Bool
  /-- Whether a semicolon follows. -/
  beforeSemicolon : Bool
  deriving Repr, Inhabited

/-- What was skipped before a token. -/
structure Gap where
  rest : Text
  pos : Nat
  newline : Bool
  comments : List RawComment
  /-- Whether a block comment is never closed. -/
  unclosed : Bool
  deriving Repr, Inhabited

/-- The hole that begins at an offset. -/
def holeAt (holes : List Span) (pos : Nat) : Option Span :=
  holes.find? fun h => h.start == pos && h.start < h.stop

/-- Drops characters until an offset is reached. -/
def dropTo (stop : Nat) : Nat → Text → Text × Nat
  | pos, [] => ([], pos)
  | pos, c :: s => if pos < stop then dropTo stop (pos + c.utf8Size) s else (c :: s, pos)

/-- Whether a semicolon is the next thing after blanks. -/
def semicolonNext (s : Text) : Bool :=
  (s.dropWhile isSpace).head? == some ';'

/-- What decides how a gap between tokens is read. -/
structure GapRules where
  holes : List Span
  exact : Bool
  /-- Whether an operand or a statement is expected, so that no operator begins in the gap. -/
  expectsOperand : Bool

namespace GapRules

/-- Characters that may stand in the gap. -/
def isSpace (r : GapRules) (c : Char) : Bool :=
  if r.exact then isExactSpace c else Script.isSpace c

/-- Whether a comment in the manner of markup begins at the front of a text. -/
def opensMarkup (r : GapRules) (newline : Bool) (s : Text) : Bool :=
  match s with
  | '<' :: '!' :: '-' :: '-' :: _ => r.exact || r.expectsOperand
  | '-' :: '-' :: '>' :: _ => if r.exact then newline else r.expectsOperand
  | _ => false

end GapRules

/-- A comment to the end of its line, behind a mark of some length. -/
def lineComment (markLength : Nat) (g : Gap) : RawComment × Gap :=
  let taken := g.rest.takeWhile (!isLineEnd ·)
  let stop := g.pos + Text.size taken
  (⟨⟨g.pos, stop⟩, false, '/' :: '/' :: taken.drop markLength, g.newline, false⟩,
    { g with rest := g.rest.dropWhile (!isLineEnd ·), pos := stop })

/-- Skips blanks, comments and the given holes.  A comment in the manner of markup
is one of the comments of a program, and nothing at all in an outline.  A line that ends
inside a comment ends a statement of a program, but none of an outline. -/
def skipGap (r : GapRules) : Nat → Gap → Gap
  | 0, g => g
  | fuel + 1, g =>
    match holeAt r.holes g.pos with
    | some h =>
      let (rest, pos) := dropTo h.stop g.pos g.rest
      skipGap r fuel { g with rest := rest, pos := pos }
    | none =>
      if r.opensMarkup g.newline g.rest then
        let (c, next) := lineComment (if g.rest.head? == some '<' then 4 else 3) g
        skipGap r fuel (if r.exact then { next with comments := c :: g.comments } else next)
      else match g.rest with
      | '/' :: '/' :: _ =>
        let (c, next) := lineComment 2 g
        skipGap r fuel { next with comments := c :: g.comments }
      | '/' :: '*' :: s =>
        match blockTail? [] s with
        | some (tail, rest) =>
          let text := '/' :: '*' :: tail
          let stop := g.pos + Text.size text
          let c : RawComment := ⟨⟨g.pos, stop⟩, true, text, g.newline, semicolonNext rest⟩
          skipGap r fuel
            { g with
              rest := rest, pos := stop, newline := g.newline || (r.exact && text.any isLineEnd),
              comments := c :: g.comments }
        | none => { g with rest := [], pos := g.pos + Text.size g.rest, unclosed := true }
      | c :: s =>
        if r.isSpace c then
          skipGap r fuel
            { g with rest := s, pos := g.pos + c.utf8Size, newline := g.newline || isLineEnd c }
        else g
      | [] => g

/-! ## Tokens -/

/-- The punctuation marks, longer ones before their own beginnings.  A mark that
begins with a closing angle bracket is put together by the parser. -/
def punctMarks : List String :=
  ["...", "===", "!==", "**=", "<<=", "&&=", "||=", "??=",
    "=>", "==", "!=", "<=", "<<", "&&", "||", "??", "?.", "++", "--", "+=", "-=", "*=", "/=",
    "%=", "&=", "|=", "^=", "**",
    "\x7b", "\x7d", "(", ")", "[", "]", ";", ",", "<", ">", "+", "-", "*", "/", "%", "&", "|",
    "^", "!", "~", "?", ":", "=", ".", "@", "#"]

/-- The longest punctuation mark at the front. -/
def punct? (s : Text) : Option (String × Text) :=
  punctMarks.findSome? fun p =>
    match Text.stripPrefix? p.toList s with
    | some rest =>
      -- A question mark before a fraction is a conditional.
      if p == "?." && (rest.head?.map Char.isDigit).getD false then none else some (p, rest)
    | none => none

/-- Characters of digits in any base, with their separators. -/
def isDigitPart (c : Char) : Bool :=
  c.isAlphanum || c == '_'

/-- Decimal digits with separators. -/
def isDecimalPart (c : Char) : Bool :=
  c.isDigit || c == '_'

/-- The exponent of a decimal number, when there is one. -/
def exponentPart (s : Text) : Text × Text :=
  match s with
  | e :: t =>
    if e == 'e' || e == 'E' then
      let (sign, t) := match t with
        | '+' :: t => (['+'], t)
        | '-' :: t => (['-'], t)
        | t => ([], t)
      let ds := t.takeWhile isDecimalPart
      if ds.isEmpty then ([], s) else (e :: sign ++ ds, t.dropWhile isDecimalPart)
    else ([], s)
  | [] => ([], [])

/-- A number, and whether it is a big one. -/
def number (s : Text) : Text × Bool × Text :=
  let based := match s with
    | '0' :: b :: _ => b == 'x' || b == 'X' || b == 'o' || b == 'O' || b == 'b' || b == 'B'
    | _ => false
  if based then
    let t := s.takeWhile isDigitPart
    (t, t.getLast? == some 'n', s.dropWhile isDigitPart)
  else
    let whole := s.takeWhile isDecimalPart
    let s := s.dropWhile isDecimalPart
    match s with
    | 'n' :: s => (whole ++ ['n'], true, s)
    | s =>
      let (frac, s) := match s with
        | '.' :: t => ('.' :: t.takeWhile isDecimalPart, t.dropWhile isDecimalPart)
        | t => ([], t)
      let (exp, s) := exponentPart s
      (whole ++ frac ++ exp, false, s)

/-- The rest of a quoted string with its closing quote; `none` when the line ends first. -/
def quoted? (q : Char) : Text → Text → Option (Text × Text)
  | _, [] => none
  | acc, '\\' :: '\r' :: '\n' :: s => quoted? q ('\n' :: '\r' :: '\\' :: acc) s
  | acc, '\\' :: c :: s => quoted? q (c :: '\\' :: acc) s
  | acc, c :: s =>
    if c = q then some ((c :: acc).reverse, s)
    else if c = '\n' || c = '\r' then none
    else quoted? q (c :: acc) s

/-- The rest of a template chunk, with the mark that ends it. -/
def chunkTail? : Text → Text → Option (Text × Text)
  | _, [] => none
  | acc, '\\' :: c :: s => chunkTail? (c :: '\\' :: acc) s
  | acc, '$' :: '{' :: s => some (('{' :: '$' :: acc).reverse, s)
  | acc, c :: s => if c = '`' then some ((c :: acc).reverse, s) else chunkTail? (c :: acc) s

/-- What a scanner took: kind, text and the rest. -/
abbrev Scanned := TokenKind × Text × Text

/-- A template chunk, from the backquote or the brace it follows. -/
def chunk? (s : Text) : Option Scanned :=
  match s with
  | c :: s => (chunkTail? [c] s).map fun (t, s) => (.chunk, t, s)
  | [] => none

/-- Whether a number as it is written is one that a program can have. -/
def isGoodNumber (n : Text) : Bool :=
  let digits (base : Nat) (ds : Text) : Bool :=
    let ds := if ds.getLast? == some 'n' then ds.dropLast else ds
    !ds.isEmpty && (Text.inBase? base (ds.filter (· != '_'))).isSome
  match n with
  | '0' :: b :: ds =>
    if b == 'x' || b == 'X' then digits 16 ds
    else if b == 'o' || b == 'O' then digits 8 ds
    else if b == 'b' || b == 'B' then digits 2 ds
    else true
  | _ => true

/-- The token at the front of a text that begins with no blank. -/
def scan (exact : Bool) (s : Text) : Scanned :=
  match s with
  | [] => (.eof, [], [])
  | c :: t =>
    if opensWord exact s then
      let (w, rest) := wordTail exact 0 [] s
      (.word, w, rest)
    else if c == '#' && opensWord exact t then
      let (w, rest) := wordTail exact 0 [] t
      (.privateName, '#' :: w, rest)
    else if c.isDigit || (c == '.' && (t.head?.map Char.isDigit).getD false) then
      let (n, big, rest) := number s
      -- In a program no word begins right behind a number.
      if exact && (opensWord exact rest || !isGoodNumber n) then (.stray, n, rest)
      else (if big then .bigint else .number, n, rest)
    else if c == '"' || c == '\'' then
      match quoted? c [c] t with
      | some (q, rest) => (.string, q, rest)
      | none => (.stray, s.takeWhile (!isLineEnd ·), s.dropWhile (!isLineEnd ·))
    else if c == '`' then
      (chunk? s).getD (.stray, [c], t)
    else match punct? s with
      | some (p, rest) => (.punct, p.toList, rest)
      | none => (.stray, [c], t)

/-- The rest of a regular expression up to its closing slash. -/
def regexTail? : Bool → Text → Text → Option (Text × Text)
  | _, _, [] => none
  | inClass, acc, '\\' :: c :: s => if isLineEnd c then none else regexTail? inClass (c :: '\\' :: acc) s
  | inClass, acc, c :: s =>
    if isLineEnd c then none
    else if c == '/' && !inClass then some ((c :: acc).reverse, s)
    else if c == '[' then regexTail? true (c :: acc) s
    else if c == ']' then regexTail? false (c :: acc) s
    else regexTail? inClass (c :: acc) s

/-- A regular expression with its flags, from its opening slash. -/
def regex? (s : Text) : Option Scanned :=
  match s with
  | '/' :: s =>
    (regexTail? false ['/'] s).map fun (t, s) =>
      let (flags, rest) := wordTail false 0 [] s
      (.regex, t ++ flags, rest)
  | _ => none

/-- Text between tags, up to the next tag or brace; possibly empty. -/
def elementText (s : Text) : Scanned :=
  let inside := fun c => c != '<' && c != '{'
  (.elementText, s.takeWhile inside, s.dropWhile inside)

/-- The name of an element or an attribute, which may hold dashes. -/
def elementName (s : Text) : Scanned :=
  let inside := fun c => isIdentPart false c || c == '-'
  (.elementName, s.takeWhile inside, s.dropWhile inside)

/-- The string value of an attribute, which knows no escapes. -/
def elementString? (s : Text) : Option Scanned :=
  match s with
  | q :: t =>
    let inside := t.takeWhile (· != q)
    match t.dropWhile (· != q) with
    | _ :: rest => some (.string, q :: inside ++ [q], rest)
    | [] => none
  | [] => none

end TypedDocs.Script
