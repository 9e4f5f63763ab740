/-
  The grammar of types.

  Types say nothing about what a script does, so only the shapes that a
  documentation comment can name are told apart: predefined types, names,
  qualified names and names with type arguments.
-/

import TypedDocs.Script.Parser.Signature

namespace TypedDocs.Script.P

variable (self : Rule → P Node)

/-- The words that are types of their own. -/
def predefinedTypes : List String :=
  ["any", "number", "boolean", "string", "symbol", "void", "unknown", "never", "object"]

/-- Other words that a program has as types of their own. -/
def exactTypes : List String := ["null", "bigint", "undefined", "intrinsic"]

/-! ## Tuples and templates -/

/-- How an element of a tuple type shows by its own type whether it can be left out. -/
inductive ItemSort where
  | required
  | optional
  | rest
  deriving DecidableEq, Repr

/-- One element of a tuple type of an outline. -/
def outlineItem : P ItemSort := do
  let _ ← eatMark "..."
  let named ← attempt do
    let _ ← anyWord
    let _ ← eatMark "?"
    mark ":"
  let _ ← self .type
  if named.isNone then let _ ← eatMark "?"
  return .required

/-- One element of a tuple type of a program. -/
def exactItem : P ItemSort := do
  let _ ← attempt do
    let _ ← eatMark "..."
    let _ ← anyWord
    let _ ← eatMark "?"
    mark ":"
  let isRest ← eatMark "..."
  let _ ← self .type
  if isRest then return .rest
  return if ← eatMark "?" then .optional else .required

/-- The elements of a tuple type behind the opening bracket.  In a program none is required behind
one that can be left out. -/
def tupleItems : P Unit := do
  if ← isExact then
    let items ← commaList "]" (exactItem self)
    if (items.dropWhile (· != .optional)).contains .required then fail
  else let _ ← commaList "]" (outlineItem self)

/-- A template literal type, or the rest of one. -/
def templateType : P Unit := do
  let _ ← many do
    let t ← tok
    if t.kind == .chunk then
      if t.text.endsWith "$\x7b" then
        advance
        let _ ← self .type
        if ← atMark "\x7d" then rescan chunk? else fail
        return some ()
      else
        advance
        return none
    else fail
  return

/-! ## Names -/

/-- The dots and names behind a name, with the last name on its own.  A program can be read
without the last one. -/
def qualifiedType (start : Nat) (first : Node) : P Node :=
  grow
    (fun left => do
      if ← eatMark "." then
        let t ← tok
        if t.kind == .word then
          let name ← leaf .typeIdent
          return some (← node .nestedType start [left, name])
        else if (← isExact) && t.kind != .privateName && !t.isPunct "#" then
          reject t.span.start
          return none
        else fail
      else return none)
    first

/-- Reserved words that a program can have in the place of a type's name. -/
def typeWords : List String := ["void", "null", "break"]

/-- A type given by its name, with any type arguments. -/
def typeReference : P Node := do
  let start ← here
  let exact ← isExact
  if exact then eatIdleModifier
  let t ← tok
  if start < t.span.start then
    if t.kind != .word then fail
  else if exact then
    if !(t.isName && !t.isWord "let") && !typeWords.contains t.text then fail
  else if !t.isName then fail
  if t.isWord "void" then reject start
  let first ← leaf .typeIdent
  let named ← qualifiedType start first
  if (← atMark "<") && !(← tok).newlineBefore then
    let args ← typeArguments self
    node .genericType start [named, args]
  else return named

/-- What an imported type is imported from.  A program names one thing, whatever it is. -/
def importedFrom : P Unit := do
  mark "("
  if ← isExact then
    advance
    mark ")"
  else let _ ← commaList ")" (self .type)

/-- The names behind that of a value whose type is asked for.  Only an outline knows private ones. -/
def queriedNames (start : Nat) : P Unit := do
  if ← isExact then let _ ← qualifiedType start (Node.absent start)
  else
    let _ ← many do
      if ← eatMark "." then
        let t ← tok
        if t.kind == .privateName then let _ ← leaf (.privateName t.text) else let _ ← anyWord
        return some ()
      else return none

/-- `typeof` with a name, or an imported type. -/
def queriedType : P Node := do
  let start ← here
  let _ ← eatWord "typeof"
  if ← eatWord "import" then importedFrom self else let _ ← anyWord
  queriedNames start
  if (← atMark "<") && !(← tok).newlineBefore then let _ ← typeArguments self
  node .otherType start []

/-- `this` as a type; in a program a predicate can follow it. -/
def thisType (start : Nat) : P Node := do
  word "this"
  let t ← tok
  if (← isExact) && t.isWord "is" && !t.newlineBefore then
    advance
    let _ ← self .type
  node .otherType start []

/-- `asserts this`, and possibly what is asserted of it. -/
def assertedThis (start : Nat) : P Node := do
  word "asserts"
  word "this"
  if ← eatWord "is" then let _ ← self .type
  node .otherType start []

/-- A number with its sign as a type. -/
def signedType (start : Nat) : P Node := do
  advance
  let t ← tok
  if t.kind == .number || t.kind == .bigint then advance else fail
  node .otherType start []

/-- A type without operators around it.  An outline may leave a type open. -/
def primaryType : P Node := do
  let start ← here
  let t ← tok
  match t.kind with
  | .string | .number | .bigint => leaf .otherType
  | .chunk =>
    templateType self
    node .otherType start []
  | .punct =>
    match t.text with
    | "(" =>
      advance
      let _ ← self .type
      mark ")"
      node .otherType start []
    | "[" =>
      advance
      tupleItems self
      node .otherType start []
    | "\x7b" => objectType self
    | "-" => signedType start
    | "+" => if ← isExact then fail else signedType start
    | "*" => if ← isExact then fail else leaf .otherType
    | _ => fail
  | .word =>
    let next ← nextTok
    let exact ← isExact
    let dotted := next.isPunct "."
    if predefinedTypes.contains t.text && !dotted then leaf .predefinedType
    else if exact && exactTypes.contains t.text && !dotted then leaf .otherType
    else if exact && dotted && (typeWords ++ exactTypes).contains t.text then typeReference self
    else if exact && t.isWord "asserts" && next.isWord "this" then assertedThis self start
    else match t.text with
      | "this" => thisType self start
      | "true" | "false" | "null" | "undefined" => leaf .otherType
      | "const" => if ← isExact then fail else leaf .otherType
      | "typeof" | "import" => queriedType self
      | _ => typeReference self
  | _ => fail

/-- A type with brackets behind it. -/
def postfixType : P Node := do
  let start ← here
  let t ← primaryType self
  grow
    (fun _ => do
      if (← atMark "[") && !(← tok).newlineBefore then
        advance
        if !(← eatMark "]") then
          let _ ← self .type
          mark "]"
        return some (← node .otherType start [])
      else return none)
    t

/-- `infer` with a name and possibly a bound.  An outline can be read without the name. -/
def inferType (start : Nat) : P Node := do
  word "infer"
  if (← isExact) || (← tok).isName then let _ ← declaredName else note (.rejected start)
  -- A bound that a question mark follows is one of a conditional type, unless there can be none.
  let inBound := (← get).inBound
  let _ ← attempt do
    word "extends"
    let _ ← self .plainType
    if !inBound && (← atMark "?") then fail
  node .otherType start []

/-- Whether a type can begin at a token. -/
def beginsType (t : Token) : Bool :=
  match t.kind with
  | .eof => false
  | .word => t.text != "extends"
  | .punct => ["(", "[", "\x7b", "<", "-", "+", "?", "*", "|", "&"].contains t.text
  | _ => true

/-- One operator in front of a type, which is a word, or in an outline a question mark. -/
def typeOperator : P (Option Unit) := do
  let isOperator := (← atAnyWord ["keyof", "unique", "readonly"]) || (!(← isExact) && (← atMark "?"))
  if isOperator then
    advance
    return some ()
  else return none

/-- A type behind operators.  Each round passes one of them.  An outline can be read without the
type. -/
def operatorType : P Node := do
  let start ← here
  let ops ← many typeOperator
  let isMissing := !(← isExact) && !ops.isEmpty && !beginsType (← tok)
  if isMissing then note (.rejected start)
  let t ←
    if isMissing then missing
    else if ← atWord "infer" then inferType self start
    else postfixType self
  if ops.isEmpty then return t else node .otherType start [t]

/-- Types with a mark between neighbours, which may also stand in front. -/
def joinedType (sep : String) (item : P Node) : P Node := do
  let start ← here
  let led ← eatMark sep
  let first ← item
  let others ← many do
    if ← eatMark sep then return some (← item) else return none
  if led || !others.isEmpty then node .otherType start (first :: others) else return first

/-- The type of a function or a constructor. -/
def functionType : P Node := do
  let start ← here
  let _ ← eatWord "abstract"
  let _ ← eatWord "new"
  let _ ← typeParameters self
  let _ ← signatureParams self
  mark "=>"
  if (← predicate? self).isNone then let _ ← self .type
  node .otherType start []

/-- A function type, a union or anything below them. -/
def plainType : P Node := do
  let wordy ← pure ((← atWord "new") || ((← atWord "abstract") && (← nextTok).isWord "new"))
  if wordy || (← atMark "<") then functionType self
  else
    let fn ← if ← atMark "(" then attempt (functionType self) else pure none
    match fn with
    | some t => return t
    | none => joinedType "|" (joinedType "&" (operatorType self))

/-- A type, possibly a conditional one. -/
def anyType : P Node := do
  let start ← here
  let s ← get
  let within (inBound : Bool) (p : P Node) : P Node :=
    inContext (fun t => { t with inBound := inBound }) (fun t => { t with inBound := s.inBound }) p
  let t ← within false (plainType self)
  if (← atWord "extends") && !(← tok).newlineBefore then
    advance
    let bound ← within true (self .plainType)
    mark "?"
    let yes ← self .type
    mark ":"
    let no ← self .type
    node .otherType start [t, bound, yes, no]
  else return t

end TypedDocs.Script.P
