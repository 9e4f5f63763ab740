/-
  The machinery of the script parser.

  A parser is a function of a `State`: the current token, the text behind it
  and what was read so far.  States are values, so reading ahead and trying an
  alternative need no undoing.  The grammar's rules call each other through a
  `Rule`; `TypedDocs.Script.Parser` closes the circle with a step count that
  the length of the text bounds.
-/

import TypedDocs.Script.Lexer
import TypedDocs.Script.Node

namespace TypedDocs.Script

/-- Where a statement stands, which decides what it may be. -/
inductive Place where
  /-- At the top of a program or of a namespace. -/
  | top
  /-- Among the statements of a block. -/
  | body
  /-- Alone, as a branch or the body of a loop. -/
  | single
  deriving DecidableEq, Repr

/-- The rules of the grammar that other rules come back to. -/
inductive Rule where
  | statement (place : Place)
  | block
  | expression (noIn : Bool)
  | assignment (noIn : Bool)
  | binary (noIn : Bool) (precedence : Nat)
  | unary
  /-- A callee, with or without calls. -/
  | chain (withCalls : Bool)
  | pattern
  | type
  /-- A type that is no conditional one. -/
  | plainType
  | element
  | decorator
  deriving DecidableEq, Repr

/-- Things the grammar reads but the language forbids. -/
inductive Fault where
  /-- A rule of the language is broken; the text has no meaning. -/
  | forbidden (offset : Nat)
  /-- A rule of the language is broken, although it is plain what is meant. -/
  | rejected (offset : Nat)
  /-- A literal that is never closed. -/
  | unclosed (offset : Nat)
  deriving DecidableEq, Repr

/-- Where a fault is. -/
def Fault.offset : Fault → Nat
  | .forbidden p | .rejected p | .unclosed p => p

/-- Where reading stopped, and the last token passed before that. -/
structure Failure where
  token : Token
  last : Token
  deriving Repr, Inhabited

/-- What the parser knows at a token. -/
structure State where
  /-- Spans of text that are passed over. -/
  holes : List Span
  /-- Whether angle brackets open elements. -/
  jsx : Bool
  /-- Whether the text has to make sense as a program, and not only to show its outline. -/
  exact : Bool
  /-- The text from the current token on. -/
  here : Text
  /-- The text behind the current token. -/
  rest : Text
  token : Token
  /-- Where the previous token stops. -/
  prevStop : Nat
  /-- Tokens passed, the latest first. -/
  tokens : List Token
  /-- Comments passed, the latest first. -/
  comments : List Comment
  faults : List Fault
  /-- The farthest token at which an alternative failed. -/
  farthest : Token
  inGenerator : Bool
  inAsync : Bool
  /-- Whether what is declared exists elsewhere. -/
  inAmbient : Bool
  /-- Whether a type is one that another one is compared with. -/
  inBound : Bool
  /-- Whether a colon after parentheses cannot open a return type. -/
  noReturnType : Bool
  deriving Inhabited

/-- A parser. -/
abbrev P := StateT State (Except Failure)

namespace P

variable {α : Type}

/-! ## Comments -/

/-- Operators between two operands never have a comment of their own. -/
def isOperatorMark (t : Token) : Bool :=
  t.kind == .punct &&
    ["==", "!=", "===", "!==", "<", "<=", ">", ">=", "<<", ">>", ">>>", "+", "-", "*", "/", "%",
      "|", "^", "&", "**", "||", "&&", "??"].contains t.text

/-- Words that never have a comment of their own. -/
def bareWords : List String :=
  ["let", "await", "yield"] ++ reservedWords.erase "enum"

/-- Whether a block comment on the same line can belong to a token before it. -/
def takesBlock (t : Token) : Bool :=
  match t.kind with
  | .number | .bigint | .string | .regex | .privateName => true
  | .word => t.isEscaped || !bareWords.contains t.text
  | .chunk => t.text.endsWith "$\x7b"
  | .punct => t.text == "\x7d" || t.text == "\x7b" || t.text == ";"
  | _ => false

/-- The token a comment belongs to. -/
def homeOf (prev : Option Token) (next : Token) (c : RawComment) : CommentHome :=
  let before := match prev with
    | none => none
    | some t =>
      if c.isBlock then
        if c.beforeSemicolon || (!c.newlineBefore && takesBlock t) then some t.span.stop else none
      else if !c.newlineBefore && !isOperatorMark t then some t.span.stop
      else none
  match before, prev with
  | none, none => if c.beforeSemicolon then .trailing 0 else .leading next.span.start
  | some stop, _ => .trailing stop
  | none, some t => if next.kind == .eof then .trailing t.span.stop else .leading next.span.start

/-! ## Tokens -/

/-- Makes the token of what a scanner took. -/
def tokenOf (pos : Nat) (newline : Bool) (kind : TokenKind) (text : Text) : Token :=
  ⟨kind, String.ofList text, ⟨pos, pos + Text.size text⟩, newline, false⟩

/-- A token of a program: a word means what its escapes stand for. -/
def exactToken (t : Token) : Token :=
  if (t.kind == .word || t.kind == .privateName) && t.text.contains '\\' then
    { t with text := String.ofList (Text.unescape t.text.toList), isEscaped := true }
  else t

/-- Whether an operand or a statement has to follow a token, so that no operator can. -/
def expectsOperand (prev : Option Token) : Bool :=
  match prev with
  | none => true
  | some t =>
    match t.kind with
    | .word => isReserved t.text && !(["this", "super", "null", "true", "false"].contains t.text)
    | .punct => t.text != ")" && t.text != "]"
    | .chunk => t.text.endsWith "$\x7b"
    | _ => false

/-- What is left to see of the characters behind a backslash. -/
def hasOldEscape : Text → Bool
  | '\\' :: '0' :: c :: s => (c.isDigit && c.toNat < '8'.toNat) || hasOldEscape (c :: s)
  | '\\' :: c :: s => (c.isDigit && '0' < c && c < '8') || hasOldEscape s
  | _ :: s => hasOldEscape s
  | [] => false

/-- Whether the escapes of a literal are all ones that mean something. -/
def hasGoodEscapes : Text → Bool
  | '\\' :: 'x' :: s => (s.take 2).length == 2 && (s.take 2).all Text.isHexDigit && hasGoodEscapes s
  | '\\' :: 'u' :: s => 0 < escapeLength true ('\\' :: 'u' :: s) && hasGoodEscapes s
  | '\\' :: _ :: s => hasGoodEscapes s
  | _ :: s => hasGoodEscapes s
  | [] => true

/-- What a program may not write although it is plain what is meant: numbers and escapes in
base eight, as they once were. -/
def isOldFashioned (t : Token) : Bool :=
  match t.kind, t.text.toList with
  | .number, '0' :: c :: _ => c.isDigit || c == '_'
  | .string, cs => hasOldEscape cs
  | _, _ => false

/-- Reads the token behind a gap that starts at an offset. -/
def readFrom (s : State) (prev : Option Token) (pos : Nat) (text : Text) : State :=
  let gap := skipGap ⟨s.holes, s.exact, expectsOperand prev⟩ (text.length + s.holes.length + 1)
    ⟨text, pos, prev.isNone, [], false⟩
  let (kind, taken, rest) := scan s.exact gap.rest
  -- A string that its line does not close is still a string in a program.
  let unclosed := s.exact && kind == .stray && (taken.head?.map fun c => c == '"' || c == '\'').getD false
  let isBad := s.exact && kind == .string && !hasGoodEscapes taken
  let kind := if unclosed then .string else if isBad then .stray else kind
  let token := tokenOf gap.pos gap.newline kind taken
  let token := if s.exact then exactToken token else token
  let found := gap.comments.map fun c =>
    (⟨c.span, c.isBlock, c.text, homeOf prev token c⟩ : Comment)
  let faults :=
    (if unclosed || (gap.unclosed && !s.exact) then [.unclosed gap.pos] else []) ++
    (if s.exact && isOldFashioned token then [.rejected gap.pos] else [])
  { s with
    here := gap.rest, rest := rest, token := token, faults := faults ++ s.faults
    comments := found ++ s.comments }

/-- The state before the first token of a text. -/
def start (holes : List Span) (jsx exact : Bool) (text : Text) : State :=
  let s : State :=
    { holes := holes, jsx := jsx, exact := exact, here := text, rest := text, token := default, prevStop := 0
      tokens := [], comments := [], faults := [], farthest := default
      inGenerator := false, inAsync := !exact, inAmbient := false, inBound := false, noReturnType := false }
  readFrom s none 0 text

/-- The current token. -/
def tok : P Token := return (← get).token

/-- Passes the current token. -/
def advance : P Unit := modify fun s =>
  let t := s.token
  readFrom { s with prevStop := t.span.stop, tokens := t :: s.tokens } (some t) t.span.stop s.rest

/-- Passes the current token and reads the next one, right behind it, in a special way. -/
def advanceWith (scanner : Text → Option Scanned) : P Unit := do
  let s ← get
  match scanner s.rest with
  | some (kind, taken, rest) =>
    let t := s.token
    set { s with
      prevStop := t.span.stop, tokens := t :: s.tokens, here := s.rest, rest := rest
      token := tokenOf t.span.stop false kind taken }
  | none => throw ⟨s.token, s.token⟩

/-- Reads the current token again in a special way.  What was wrong with it before counts no more. -/
def rescan (scanner : Text → Option Scanned) : P Unit := do
  let s ← get
  match scanner s.here with
  | some (kind, taken, rest) =>
    set { s with
      rest := rest, token := tokenOf s.token.span.start s.token.newlineBefore kind taken
      faults := s.faults.filter (·.offset != s.token.span.start) }
  | none => throw ⟨s.token, s.token⟩

/-- The later of two tokens. -/
def later (a b : Token) : Token :=
  if a.span.start < b.span.start then b else a

/-- Gives up; the failure names the farthest token that was looked at. -/
def fail : P α := do
  let s ← get
  throw ⟨later s.farthest s.token, s.tokens.headD s.token⟩

/-- Notes that the language forbids something. -/
def note (f : Fault) : P Unit := modify fun s => { s with faults := f :: s.faults }

/-- Tries a parser; on failure nothing is passed. -/
def attempt (p : P α) : P (Option α) := fun s =>
  match p s with
  | .ok (a, s') => .ok (some a, { s' with farthest := later s.farthest s'.farthest })
  | .error e => .ok (none, { s with farthest := later s.farthest e.token })

/-- What a parser would find, without passing anything. -/
def peek (p : P α) : P (Option α) := fun s =>
  match p s with
  | .ok (a, _) => .ok (some a, s)
  | .error _ => .ok (none, s)

/-- The token behind the current one. -/
def nextTok : P Token := fun s =>
  match (do advance; tok : P Token) s with
  | .ok (t, _) => .ok (t, s)
  | .error e => .error e

/-! ## Marks and words -/

/-- Whether the current token is a mark. -/
def atMark (p : String) : P Bool := return (← tok).isPunct p

/-- Whether the current token is a word. -/
def atWord (w : String) : P Bool := return (← tok).isWord w

/-- Whether the current token is one of some marks. -/
def atAnyMark (ps : List String) : P Bool := do
  let t ← tok
  return t.kind == .punct && ps.contains t.text

/-- Whether the current token is one of some words. -/
def atAnyWord (ws : List String) : P Bool := do
  let t ← tok
  return t.isPlainWord && ws.contains t.text

/-- Passes a mark if it is there. -/
def eatMark (p : String) : P Bool := do
  if ← atMark p then advance; return true else return false

/-- Passes a word if it is there. -/
def eatWord (w : String) : P Bool := do
  if ← atWord w then advance; return true else return false

/-- Passes a mark that has to be there. -/
def mark (p : String) : P Unit := do
  if ← atMark p then advance else fail

/-- Passes a word that has to be there. -/
def word (w : String) : P Unit := do
  if ← atWord w then advance else fail

/-! ## Nodes -/

/-- Where the current token starts. -/
def here : P Nat := return (← tok).span.start

/-- A node from an offset to the last token passed. -/
def node (kind : Kind) (start : Nat) (kids : List Node) : P Node :=
  return ⟨kind, ⟨start, (← get).prevStop⟩, kids⟩

/-- A node from an offset to the end of the current token, which is not passed. -/
def nodeHere (kind : Kind) (start : Nat) (kids : List Node) : P Node :=
  return ⟨kind, ⟨start, (← tok).span.stop⟩, kids⟩

/-- A node of the current token alone, which is passed. -/
def leaf (kind : Kind) : P Node := do
  let t ← tok
  advance
  return ⟨kind, t.span, []⟩

/-- An absent node at the current token. -/
def missing : P Node := return Node.absent (← here)

/-! ## Repetition -/

/-- Runs a parser while it finds something; the count bounds the rounds. -/
def manyUpTo (p : P (Option α)) : Nat → List α → P (List α)
  | 0, acc => return acc.reverse
  | n + 1, acc => do
    match ← p with
    | some a => manyUpTo p n (a :: acc)
    | none => return acc.reverse

/-- Runs a parser while it finds something.  Each find passes a token, so the
length of the text bounds the rounds. -/
def many (p : P (Option α)) : P (List α) := do
  let s ← get
  manyUpTo p (s.here.length + 2) []

/-- Changes a value while a parser has a next one. -/
def growUpTo (p : α → P (Option α)) : Nat → α → P α
  | 0, a => return a
  | n + 1, a => do
    match ← p a with
    | some b => growUpTo p n b
    | none => return a

/-- Changes a value while a parser has a next one. -/
def grow (p : α → P (Option α)) (a : α) : P α := do
  let s ← get
  growUpTo p (s.here.length + 2) a

/-- Collects what a parser finds, round by round, until it says that it is done. -/
def collect (p : P (List α × Bool)) : P (List α) := do
  let (found, _) ← grow
    (fun (acc : List α × Bool) => do
      if acc.2 then return none
      let (more, done) ← p
      return some (acc.1 ++ more, done))
    ([], false)
  return found

/-- Items with commas between them, up to a closing mark, which is passed.  A
comma may stand behind the last one. -/
def commaList (close : String) (item : P α) : P (List α) := do
  let items ← many do
    if ← atMark close then return none
    let a ← item
    if !(← atMark close) then mark ","
    return some a
  mark close
  return items

/-- Whether the text has to make sense as a program. -/
def isExact : P Bool := return (← get).exact

/-- Notes that a program may not be as it is, although it is plain what is meant. -/
def reject (offset : Nat) : P Unit := do
  if ← isExact then note (.rejected offset)

/-- Whether what a brace opened ends here: at a closing brace, or where the text ends. -/
def atClose : P Bool := do
  return (← atMark "\x7d") || (← tok).kind == .eof

/-- Ends what a brace opened.  A text can be read to its end without the closing brace. -/
def closeBrace : P Unit := do
  let t ← tok
  if t.kind == .eof then note (.rejected t.span.start) else mark "\x7d"

/-- Runs a parser with some parts of the state changed and puts them back. -/
def inContext (enter leave : State → State) (p : P α) : P α := do
  modify enter
  let a ← p
  modify leave
  return a

/-- Runs a parser inside a function of some sort. -/
def inFunction (flags : FunctionFlags) (p : P α) : P α := do
  let s ← get
  inContext
    (fun t => { t with inGenerator := flags.isGenerator, inAsync := flags.isAsync, noReturnType := false })
    (fun t => { t with
      inGenerator := s.inGenerator, inAsync := s.inAsync, noReturnType := s.noReturnType })
    p

/-- Ends a statement: a semicolon, or a place where none is needed. -/
def semicolon : P Unit := do
  if ← eatMark ";" then return
  let t ← tok
  if t.newlineBefore || t.isPunct "\x7d" || t.kind == .eof then return
  fail

/-! ## Names -/

/-- A name of something. -/
def nameNode : P Node := do
  let t ← tok
  if t.isName then leaf (.ident t.text globalScope) else fail

/-- A name that gets bound.  A program can bind `this`, and it binds `await` only for what exists
elsewhere. -/
def bindingName : P Node := do
  let s ← get
  if s.exact && s.token.isWord "await" && !s.inAmbient then fail
  if s.exact && s.token.isWord "this" then leaf (.ident "this" globalScope) else nameNode

/-- A name that gets bound and can be left out. -/
def optionalName : P Node := do
  let s ← get
  let t := s.token
  let isThere := if s.exact then t.isFree || t.isWord "this" else t.kind == .word
  if isThere then bindingName else missing

/-- Whether a token is a name and nothing else. -/
def isPlainName (t : Token) : P Bool :=
  return if ← isExact then t.isFree else t.isName

/-- Whether a token can refer to a binding. -/
def mayRefer (t : Token) : P Bool :=
  return if ← isExact then t.isReferable else t.isName

/-- A name that refers to a binding. -/
def reference : P Node := do
  if ← mayRefer (← tok) then nameNode else fail

/-- Any word, reserved or not. -/
def anyWord : P Node := do
  let t ← tok
  if t.kind == .word then leaf (.ident t.text globalScope) else fail

/-- The name of something that has no value.  In a program any word will do. -/
def declaredName : P Node := do
  if ← isExact then anyWord else nameNode

/-- A string. -/
def stringNode : P Node := do
  let t ← tok
  if t.kind == .string then leaf (.string t.text) else fail

end P

end TypedDocs.Script
