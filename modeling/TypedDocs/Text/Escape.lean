/-
  Escapes: characters that a literal writes with a backslash.

  `unescape` reads the inside of a quoted text and `escape` writes it.  A
  character beyond the first plane may be written as two halves; a half is no
  character, so it stays the escape that names it, both ways.
-/

import TypedDocs.Text.Basic

namespace TypedDocs.Text

/-! ## Digits in some base -/

/-- The value of a digit; letters go on from ten. -/
def digitValue (c : Char) : Nat :=
  if c.isDigit then c.toNat - '0'.toNat
  else if c.isLower then c.toNat - 'a'.toNat + 10
  else c.toNat - 'A'.toNat + 10

/-- Whether a character is a digit in base sixteen. -/
def isHexDigit (c : Char) : Bool :=
  c.isAlphanum && digitValue c < 16

/-- The number that digits write in a base. -/
def inBase? (base : Nat) (ds : Text) : Option Nat :=
  if ds.all fun c => c.isAlphanum && digitValue c < base then
    some (ds.foldl (fun n c => n * base + digitValue c) 0)
  else none

/-! ## Escapes -/

/-- The character that an escape of one character stands for. -/
def simpleEscape (c : Char) : Text :=
  match c with
  | 'n' => ['\n']
  | 't' => ['\t']
  | 'r' => ['\r']
  | 'b' => [Char.ofNat 8]
  | 'v' => [Char.ofNat 11]
  | 'f' => [Char.ofNat 12]
  | '0' => [Char.ofNat 0]
  | '\n' | '\r' => []
  | c => if c.toNat == 0x2028 || c.toNat == 0x2029 then [] else [c]

/-- Whether a code names half of a character. -/
def isHalf (n : Nat) : Bool :=
  0xD800 ≤ n && n < 0xE000

/-- What an escape by the code of a character stands for: the character, or the escape itself if
it names half of one. -/
def codeEscape (isBraced : Bool) (digits : Text) : Text :=
  let code := digits.foldl (fun n c => n * 16 + digitValue c) 0
  if isHalf code then '\\' :: 'u' :: (if isBraced then '{' :: digits ++ ['}'] else digits)
  else [Char.ofNat code]

/-- What is left to read of an escape: nothing, its first character, digits (those already read,
latest first), or the rest of a line end. -/
inductive EscapeState where
  | plain
  | escape
  | digits (left : Nat) (taken : Text)
  | braced (taken : Text)
  | lineEnd

/-- The text that the rest of a literal stands for. -/
def unescapeFrom : EscapeState → Text → Text
  | _, [] => []
  | .plain, '\\' :: s => unescapeFrom .escape s
  | .plain, c :: s => c :: unescapeFrom .plain s
  | .escape, 'x' :: s => unescapeFrom (.digits 2 []) s
  | .escape, 'u' :: s => unescapeFrom (.digits 4 []) s
  | .escape, '\r' :: s => unescapeFrom .lineEnd s
  | .escape, c :: s => simpleEscape c ++ unescapeFrom .plain s
  | .digits _ _, '{' :: s => unescapeFrom (.braced []) s
  | .digits 1 ds, c :: s => codeEscape false (c :: ds).reverse ++ unescapeFrom .plain s
  | .digits n ds, c :: s => unescapeFrom (.digits (n - 1) (c :: ds)) s
  | .braced ds, '}' :: s => codeEscape true ds.reverse ++ unescapeFrom .plain s
  | .braced ds, c :: s => unescapeFrom (.braced (c :: ds)) s
  | .lineEnd, '\n' :: s => unescapeFrom .plain s
  | .lineEnd, '\\' :: s => unescapeFrom .escape s
  | .lineEnd, c :: s => c :: unescapeFrom .plain s

/-- The text that the inside of a literal stands for. -/
def unescape (s : Text) : Text :=
  unescapeFrom .plain s

/-! ## Writing a text as a literal -/

/-- Whether the text behind a backslash makes an escape of it that names half of a character. -/
def namesHalf (s : Text) : Bool :=
  let isHalfCode (ds : Text) : Bool := ds.length == 4 && ((inBase? 16 ds).map isHalf).getD false
  match s with
  | 'u' :: '{' :: s => isHalfCode (s.take 4)
  | 'u' :: s => isHalfCode (s.take 4)
  | _ => false

/-- How a character before `next` is written between quotes.  Only what could be misread is
escaped: quotes, backslashes, line ends, marks of byte order and controls other than tabs. -/
def escapeChar (quote c : Char) (next : Text) : Text :=
  if c == quote then ['\\', c]
  else if c == '\\' then if namesHalf next then ['\\'] else ['\\', '\\']
  else match c.toNat with
    | 0x00 =>
      -- A digit would be taken for more of the escape.
      if (next.head?.map Char.isDigit).getD false then "\\x00".toList else ['\\', '0']
    | 0x08 => ['\\', 'b']
    | 0x09 => [c]
    | 0x0A => ['\\', 'n']
    | 0x0B => ['\\', 'v']
    | 0x0C => ['\\', 'f']
    | 0x0D => ['\\', 'r']
    | 0x2028 => "\\u2028".toList
    | 0x2029 => "\\u2029".toList
    | 0xFEFF => "\\uFEFF".toList
    | n => if n < 0x20 then ['\\', 'x', Nat.digitChar (n / 16), Nat.digitChar (n % 16)] else [c]

/-- The inside of a literal that stands for a text. -/
def escape (quote : Char) : Text → Text
  | [] => []
  | c :: s => escapeChar quote c s ++ escape quote s

end TypedDocs.Text
