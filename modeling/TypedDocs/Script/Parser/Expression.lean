/-
  The grammar of expressions and elements.
-/

import TypedDocs.Script.Parser.Member

namespace TypedDocs.Script.P

variable (self : Rule → P Node)

/-! ## Templates -/

/-- The text of a chunk token without its marks. -/
def chunkText (text : String) : String :=
  let inner := text.toList.drop 1
  let closing := if text.endsWith "$\x7b" then 2 else 1
  String.ofList (inner.take (inner.length - closing))

/-- A template: chunks and expressions as far as the chunk that ends it.  Behind a tag its
escapes need not mean anything. -/
def template (tagged : Bool) : P Node := do
  let start ← here
  let strict := (← isExact) && !tagged
  let kids ← collect do
    let t ← tok
    if t.kind != .chunk then fail
    if strict && (hasOldEscape t.text.toList || !hasGoodEscapes t.text.toList) then fail
    let piece ← leaf (.chunk (chunkText t.text))
    if t.text.endsWith "$\x7b" then
      let e ← self (.expression false)
      if ← atMark "\x7d" then rescan chunk? else fail
      return ([piece, e], false)
    else return ([piece], true)
  node .template start kids

/-! ## Elements -/

/-- Reads the current word as a name that may hold dashes, and passes it. -/
def dashedWord : P String := do
  if (← tok).kind != .word then fail
  rescan fun s => some (elementName s)
  let t ← tok
  advance
  return t.text

/-- A name of one word, or of two with a colon between them. -/
def qualifiedWord : P String := do
  let first ← dashedWord
  if ← eatMark ":" then return first ++ ":" ++ (← dashedWord) else return first

/-- The name of an attribute. -/
def attributeNameNode : P Node := do
  let start ← here
  let name ← qualifiedWord
  node (.elementName name) start []

/-- The name of an element: words with dots or one colon between them. -/
def elementNameNode : P Node := do
  let start ← here
  let first ← qualifiedWord
  let parts ← many do
    if ← eatMark "." then return some ("." ++ (← dashedWord)) else return none
  node (.elementName (first ++ String.join parts)) start []

/-- The value of an attribute.  Dots in front of an expression mean nothing here; only an outline
can be without one. -/
def attributeValue : P Node := do
  let start ← here
  let t ← tok
  if t.kind == .string then leaf (.string t.text)
  else if ← eatMark "\x7b" then
    let _ ← eatMark "..."
    let isEmpty := !(← isExact) && (← atMark "\x7d")
    let e ← if isEmpty then missing else self (.expression false)
    mark "\x7d"
    node .elementExpr start [e]
  else
    let e ← self .element
    advance
    return e

/-- One attribute of an element. -/
def attributeNode : P Node := do
  let start ← here
  if ← eatMark "\x7b" then
    mark "..."
    let e ← self (.assignment false)
    mark "\x7d"
    node .spreadAttribute start [e]
  else
    let name ← attributeNameNode
    if ← eatMark "=" then
      let quoted := ((← get).here.head?.map fun c => c == '"' || c == '\'').getD false
      if quoted then rescan elementString?
      let value ← attributeValue self
      node .attribute start [name, value]
    else
      let value ← missing
      node .attribute start [name, value]

/-- An expression between braces as a child; its closing brace is the last token passed over
in the manner of element text. -/
def elementExprChild : P Node := do
  let start ← here
  mark "\x7b"
  let inner ←
    if ← atMark "\x7d" then missing
    else
      let dots ← here
      let isSpread ← eatMark "..."
      let e ← self (.expression false)
      if isSpread then node .spread dots [e] else pure e
  if !(← atMark "\x7d") then fail
  let n ← nodeHere .elementExpr start [inner]
  advanceWith fun s => some (elementText s)
  return n

/-- What stands between the tags of an element.  It begins at the bracket that ends the
opening tag and stops at the one that begins the closing tag. -/
def elementChildren : P (List Node) := do
  advanceWith fun s => some (elementText s)
  collect do
    let t ← tok
    let text : List Node := if t.text.isEmpty then [] else [⟨.elementText t.text, t.span, []⟩]
    advance
    if ← atMark "\x7b" then
      let e ← elementExprChild self
      return (text ++ [e], false)
    else if ← atMark "<" then
      if (← nextTok).isPunct "/" then return (text, true)
      let e ← self .element
      advanceWith fun s => some (elementText s)
      return (text ++ [e], false)
    else fail

/-- An element or a fragment.  The bracket that ends it is left as the current token. -/
def elementNode : P Node := do
  let start ← here
  mark "<"
  let name ← if ← atMark ">" then missing else elementNameNode
  if ← atMark "<" then let _ ← typeArguments self
  let attrs ← many do
    if (← atMark ">") || (← atMark "/") then return none
    return some (← attributeNode self)
  let selfClosing ← eatMark "/"
  if !(← atMark ">") then fail
  let opening ← nodeHere (.openTag selfClosing) start (name :: attrs)
  if selfClosing then nodeHere .element start [opening]
  else
    let kids ← elementChildren self
    let closeStart ← here
    mark "<"
    mark "/"
    let closeName ← if ← atMark ">" then missing else elementNameNode
    if (← isExact) && closeName.label != name.label then fail
    if !(← atMark ">") then fail
    let closing ← nodeHere .closeTag closeStart [closeName]
    nodeHere .element start (opening :: kids ++ [closing])

/-! ## Arrow functions -/

/-- The body of an arrow function. -/
def arrowBody (flags : FunctionFlags) (noIn : Bool) : P Node := do
  if ← atMark "\x7b" then functionBody self flags
  else
    let s ← get
    inContext (fun t => { t with inAsync := flags.isAsync, inGenerator := false })
      (fun t => { t with inAsync := s.inAsync, inGenerator := s.inGenerator })
      (self (.assignment noIn))

/-- The arrow itself stands on the line of the parameters. -/
def arrowMark : P Unit := do
  if (← tok).newlineBefore then fail
  mark "=>"

/-- Whether a parameter can be one of an arrow function of a program, which is read as an
expression first: it refers to no guarded word, and only a name has a type or can be left out. -/
def isArrowParam (p : Node) : Bool :=
  let target := p.kid 1
  let isOptional := match p.label with
    | .param flags => flags.isOptional
    | _ => false
  let named := if target.isRest then target.kid 0 else target
  !(target.boundApart.any guardedWords.contains) && !(isOptional && named.name?.isNone) &&
    !(target.label == .this && !(p.kid 2).isAbsent)

/-- The parameter that is left once a program has read it as an expression. -/
def arrowParam (p : Node) : Node :=
  let target := p.kid 1
  { p with kids := p.kids.set 1 (if target.label == .this then target.toInvalid else target.reread) }

/-- The parameters of an arrow function of a program.  Only the last one takes the rest. -/
def arrowParams (ps : Node) : P Node := do
  if ps.kids.all isArrowParam then
    let early := ps.kids.dropLast.filter fun p : Node => !(p.kid 1).isRest
    return { ps with kids := (early ++ ps.kids.getLast?.toList).map arrowParam }
  else fail

/-- An arrow function whose parameters stand in parentheses. -/
def parenArrow (noIn : Bool) : P Node := do
  let start ← here
  let isAsync ←
    if (← atWord "async") then
      advance
      if (← tok).newlineBefore then fail
      pure true
    else pure false
  let flags : FunctionFlags := ⟨isAsync, false⟩
  let _ ← typeParameters self
  let ps ← parameters self .arrow
  let ps ← if ← isExact then arrowParams ps else pure ps
  let ret ← if (← get).noReturnType then missing else optionalReturn self
  arrowMark
  let body ← arrowBody self flags noIn
  node (.arrow isAsync) start [ps, ret, body]

/-- An arrow function with one bare name as its parameter. -/
def nameArrow (noIn : Bool) : P Node := do
  let start ← here
  let isAsync ←
    if (← atWord "async") && (← isPlainName (← nextTok)) && !(← nextTok).newlineBefore then
      advance
      pure true
    else pure false
  let at_ ← here
  let name ← reference
  let nothing ← missing
  let p ← node (.param {}) at_ [nothing, name, nothing, nothing]
  let ps ← node .params at_ [p]
  arrowMark
  let body ← arrowBody self ⟨isAsync, false⟩ noIn
  node (.arrow isAsync) start [ps, nothing, body]

/-- The parameter that an expression stands for. -/
def paramOf (e : Node) : Node :=
  let nothing := Node.absent e.span.stop
  ⟨.param {}, e.span, [nothing, e.toPattern true, nothing, nothing]⟩

/-- The rest of an arrow function behind an expression in parentheses that no list of
parameters looks like. -/
def castArrow (noIn : Bool) (left : Node) : P Node := do
  let inner := left.kid 0
  let items := if inner.label == .sequence then inner.kids else [inner]
  let ps : Node := ⟨.params, left.span, items.map paramOf⟩
  arrowMark
  let body ← arrowBody self {} noIn
  let nothing ← missing
  node (.arrow false) left.span.start [ps, nothing, body]

/-- Whether an arrow function in parentheses may begin at the current token. -/
def mayBeParenArrow : P Bool := do
  let t ← tok
  let next ← nextTok
  if t.isPunct "(" then
    return next.isPunct ")" || next.isPunct "\x7b" || next.isPunct "[" || next.isPunct "..." ||
      next.isPunct "@" || next.isName || next.isWord "this"
  else if t.isWord "async" then
    return !next.newlineBefore && (next.isPunct "(" || next.isPunct "<")
  else if t.isPunct "<" then
    if (← get).jsx then
      -- Among elements, type parameters show by a comma or a bound.
      let after ← peek (do advance; advance; tok)
      return next.isName && (after.map fun a => a.isPunct "," || a.isWord "extends").getD false
    else return true
  else return false

/-- Whether an arrow function with one bare name begins at the current token. -/
def isNameArrow : P Bool := do
  let t ← tok
  if !(← mayRefer t) || ((← isExact) && t.isWord "await") then return false
  let next ← nextTok
  if next.isPunct "=>" then return !next.newlineBefore
  if t.isWord "async" && (← isPlainName next) && !next.newlineBefore then
    let after ← peek (do advance; advance; tok)
    return (after.map (·.isPunct "=>")).getD false
  return false

/-! ## Primary expressions -/

/-- One item of an array; nothing before a comma is a hole. -/
def arrayItem : P Node := do
  let start ← here
  if ← atMark "," then missing
  else if ← eatMark "..." then
    let e ← self (.assignment false)
    node .spread start [e]
  else self (.assignment false)

/-- One argument of a call. -/
def argument : P Node := do
  let start ← here
  if ← eatMark "..." then
    let e ← self (.assignment false)
    node .spread start [e]
  else self (.assignment false)

/-- Arguments between parentheses. -/
def callArguments : P Node := do
  let start ← here
  mark "("
  let s ← get
  let args ← inContext (fun t => { t with noReturnType := false })
    (fun t => { t with noReturnType := s.noReturnType }) (commaList ")" (argument self))
  node .arguments start args

/-- `new` with a callee and possibly arguments, or `new.target`. -/
def newNode : P Node := do
  let start ← here
  word "new"
  if ← eatMark "." then
    word "target"
    node (.metaProperty "new.target") start []
  else
    let callee ← self (.chain false)
    if (← isExact) && (callee.label == .super || callee.label == .importRef) then fail
    let _ ← if ← atMark "<" then attempt (typeArguments self) else pure none
    let args ← if ← atMark "(" then callArguments self else missing
    node .new start [callee, args]

/-- `import` as the callee of a call, or `import.meta`. -/
def importNode : P Node := do
  let start ← here
  word "import"
  if ← eatMark "." then
    if (← isExact) && !(← atWord "meta") then fail
    let w ← anyWord
    node (.metaProperty ("import." ++ (w.name?.getD ""))) start []
  else if ← atMark "(" then node .importRef start []
  else fail

/-- An expression between parentheses. -/
def parenNode : P Node := do
  let start ← here
  mark "("
  let s ← get
  let e ← inContext (fun t => { t with noReturnType := false })
    (fun t => { t with noReturnType := s.noReturnType }) (self (.expression false))
  mark ")"
  node .paren start [e]

/-- A function as an expression, which has a body. -/
def functionExpr : P Node := do
  let f ← functionNode self .function false true
  if (f.kid 3).isAbsent then fail else return f

/-- An expression without operators around it. -/
def primary : P Node := do
  let start ← here
  let t ← tok
  match t.kind with
  | .number => leaf (.number t.text)
  | .bigint => leaf (.bigint t.text)
  | .string => leaf (.string t.text)
  | .privateName => leaf (.privateName t.text)
  | .chunk => template self false
  | .word =>
    if t.isEscaped then return ← reference
    match t.text with
    | "this" => leaf .this
    | "super" =>
      let e ← leaf .super
      if (← isExact) && !(← atAnyMark [".", "[", "("]) then fail
      return e
    | "null" => leaf .null
    | "true" => leaf (.bool true)
    | "false" => leaf (.bool false)
    | "function" => functionExpr self
    | "class" =>
      let nothing ← missing
      classNode self .classExpr start nothing false
    | "new" => newNode self
    | "import" => importNode
    | "async" =>
      let next ← nextTok
      if next.isWord "function" && !next.newlineBefore then functionExpr self
      else reference
    | _ => reference
  | .punct =>
    match t.text with
    | "(" => parenNode self
    | "[" =>
      advance
      let items ← commaList "]" (arrayItem self)
      node .array start items
    | "\x7b" =>
      advance
      let ps ← commaList "\x7d" (objectProperty self)
      node .object start ps
    | "/" | "/=" =>
      rescan regex?
      let r ← tok
      leaf (.regex r.text)
    | "@" =>
      let decos ← decorators self
      classNode self .classExpr start decos false
    | "<" =>
      if (← get).jsx then
        let e ← self .element
        advance
        return e
      else fail
    | _ => fail
  | _ => fail

/-! ## Chains of members and calls -/

/-- Whether type arguments may stand before a token. -/
def mayFollowTypeArguments (t : Token) : Bool :=
  match t.kind with
  | .chunk => true
  | .punct => !(["<", "[", "\x7b", "-", "+", "!", "~", "@", "/"].contains t.text)
  | .eof => true
  | .word => t.newlineBefore || ["in", "instanceof", "as", "satisfies"].contains t.text
  | _ => t.newlineBefore

/-- The name behind a dot. -/
def memberName : P Node := do
  let t ← tok
  if t.kind == .privateName then leaf (.privateName t.text) else anyWord

/-- One link of a chain behind what stands so far. -/
def link (withCalls : Bool) (left : Node) : P (Option Node) := do
  let start := left.span.start
  let t ← tok
  match t.kind with
  | .chunk =>
    let text ← template self true
    return some (← node .tagged start [left, text])
  | .punct =>
    match t.text with
    | "." =>
      advance
      let name ← memberName
      return some (← node (.member false) start [left, name])
    | "?." =>
      if !withCalls then
        -- A program makes no instance of what may be missing.
        if ← isExact then fail
        return none
      advance
      if (← atMark "(") || (← atMark "<") then
        if ← atMark "<" then let _ ← typeArguments self
        let args ← callArguments self
        return some (← node (.call true) start [left, args])
      else if ← eatMark "[" then
        let e ← self (.expression false)
        mark "]"
        return some (← node (.index true) start [left, e])
      else
        let name ← memberName
        return some (← node (.member true) start [left, name])
    | "[" =>
      advance
      let e ← self (.expression false)
      mark "]"
      return some (← node (.index false) start [left, e])
    | "(" =>
      if !withCalls then return none
      let args ← callArguments self
      return some (← node (.call false) start [left, args])
    | "!" =>
      if t.newlineBefore then return none
      advance
      return some (← node .nonNull start [left])
    | "<" =>
      if !withCalls then return none
      let typed ← attempt do
        let args ← typeArguments self
        let next ← tok
        if next.isPunct "(" then
          let call ← callArguments self
          node (.call false) start [left, call]
        else if mayFollowTypeArguments next then node .instantiation start [left, args]
        else fail
      return typed
    | _ => return none
  | _ => return none

/-- A primary expression with its members and calls. -/
def chain (withCalls : Bool) : P Node := do
  let first ← primary self
  grow (link self withCalls) first

/-! ## Operators -/

/-- Whether an operand can begin at a token. -/
def beginsOperand (t : Token) : Bool :=
  match t.kind with
  | .eof => false
  | .word => !(["in", "of", "instanceof", "as", "satisfies"].contains t.text)
  | .punct => ["(", "[", "\x7b", "+", "-", "!", "~", "++", "--", "<", "/", "/=", "@"].contains t.text
  | _ => true

/-- Whether `await` at the current token, outside of an asynchronous function, is a name. -/
def awaitIsName : P Bool := do
  let s ← get
  let next ← nextTok
  if s.exact then
    return !s.inAsync && (next.newlineBefore || next.kind == .eof ||
      [")", "]", ",", ";", "\x7d"].any next.isPunct)
  else return !(s.inAsync && beginsOperand next)

/-- A step up or down of what an expression stands for. -/
def updateNode (op : String) (isPrefix : Bool) (start : Nat) (e : Node) : P Node := do
  if !e.isSimpleTarget then reject start
  node (.update op isPrefix) start [e]

/-- `await` and what it waits for. -/
def awaitNode : P Node := do
  let start ← here
  word "await"
  let e ← self .unary
  node .await start [e]

/-- Reserved words that an operand can begin with. -/
def operandWords : List String :=
  ["this", "null", "true", "false", "function", "class", "new", "super", "import", "typeof", "void",
    "delete"]

/-- Whether it shows at a token that no operand is there. -/
def lacksOperand (t : Token) : Bool :=
  t.kind == .eof || (t.kind == .punct && !beginsOperand t) ||
    (t.isPlainWord && !t.isReferable && !operandWords.contains t.text)

/-- The operand of an operator in front of it.  A program can be read without it. -/
def operand : P Node := do
  let t ← tok
  if (← isExact) && lacksOperand t then
    reject t.span.start
    return ⟨.invalid, ⟨t.span.start, t.span.start⟩, []⟩
  else self .unary

/-- An operand with the operators in front of it and behind it. -/
def unary : P Node := do
  let start ← here
  let t ← tok
  let prefixed (op : String) : P Node := do
    advance
    let e ← operand self
    node (.unary op) start [e]
  if t.kind == .punct then
    match t.text with
    | "!" | "~" | "+" | "-" => return ← prefixed t.text
    | "++" | "--" =>
      advance
      let e ← self .unary
      return ← updateNode t.text true start e
    | "<" =>
      if !(← get).jsx then
        advance
        let type ← if ← eatWord "const" then pure none else some <$> self .type
        mark ">"
        let e ← self .unary
        return ← match type with
          | some t => node .typeAssertion start [t, e]
          | none => node .constAssertion start [e]
    | _ => pure ()
  if t.isPlainWord then
    match t.text with
    | "typeof" | "void" | "delete" => return ← prefixed t.text
    | "await" => if !(← awaitIsName) then return ← awaitNode self
    | _ => pure ()
  let e ← self (.chain true)
  let t ← tok
  if (t.isPunct "++" || t.isPunct "--") && !t.newlineBefore then
    advance
    updateNode t.text false start e
  else return e

/-- The operators between two operands and how tightly they bind. -/
def precedenceOf (op : String) : Nat :=
  match op with
  | "??" => 1
  | "||" => 1
  | "&&" => 2
  | "|" => 3
  | "^" => 4
  | "&" => 5
  | "==" | "!=" | "===" | "!==" => 6
  | "<" | ">" | "<=" | ">=" | "instanceof" | "in" | "as" | "satisfies" => 7
  | "<<" | ">>" | ">>>" => 8
  | "+" | "-" => 9
  | "*" | "/" | "%" => 10
  | "**" => 11
  | _ => 0

/-- Puts the marks behind a closing angle bracket together. -/
def joinAngles : P Unit := do
  if ← atMark ">" then
    rescan fun s =>
      [">>>=", ">>=", ">>>", ">>", ">=", ">"].findSome? fun p =>
        (Text.stripPrefix? p.toList s).map fun rest => (.punct, p.toList, rest)

/-- The operator at the current token, if it is one that stands between operands. -/
def infixOperator (noIn : Bool) : P (Option String) := do
  joinAngles
  let t ← tok
  match t.kind with
  | .punct => return if precedenceOf t.text > 0 then some t.text else none
  | .word =>
    if t.isEscaped then return none
    match t.text with
    | "instanceof" => return some t.text
    | "in" => return if noIn then none else some t.text
    | "as" | "satisfies" => return if t.newlineBefore then none else some t.text
    | _ => return none
  | _ => return none

/-- Whether an operator that tells missing values apart meets one that tells false ones apart. -/
def mixesLogic (op : String) (operand : Node) : Bool :=
  match operand.label with
  | .binary inner =>
    if op == "??" then inner == "||" || inner == "&&"
    else (op == "||" || op == "&&") && inner == "??"
  | _ => false

/-- Notes operands that need parentheses next to an operator. -/
def checkOperands (op : String) (left right : Node) : P Unit := do
  let isUnary := match left.label with
    | .unary _ | .await => true
    | _ => false
  if op == "**" && isUnary then note (.forbidden left.span.start)
  if mixesLogic op left || mixesLogic op right then reject left.span.start

/-- Operators that bind at least as tightly as given, and their right operands, behind a left
operand. -/
def binaryTail (noIn : Bool) (precedence : Nat) (first : Node) : P Node :=
  grow
    (fun left => do
      match ← infixOperator noIn with
      | none => return none
      | some op =>
        let p := precedenceOf op
        if p < precedence then return none
        advance
        if op == "as" || op == "satisfies" then
          if op == "as" && (← eatWord "const") then
            return some (← node .constAssertion left.span.start [left])
          let type ← self .type
          return some (← node (.cast op) left.span.start [left, type])
        else
          let right ← self (.binary noIn (if op == "**" then p else p + 1))
          checkOperands op left right
          return some (← node (.binary op) left.span.start [left, right]))
    first

/-- Whether a token is an operator that has lost its left operand. -/
def lacksLeft (noIn : Bool) (t : Token) : Bool :=
  (isOperatorMark t && !beginsOperand t) || t.isWord "instanceof" || (t.isWord "in" && !noIn)

/-- Operands joined by operators that bind at least as tightly as given.  A program can be read
without the first of all. -/
def binary (noIn : Bool) (precedence : Nat) : P Node := do
  let t ← tok
  if (← isExact) && precedence == 1 && lacksLeft noIn t then
    reject t.span.start
    binaryTail self noIn precedence ⟨.invalid, ⟨t.span.start, t.span.start⟩, []⟩
  else
    let first ← self .unary
    binaryTail self noIn precedence first

/-- Operands and possibly a choice between two. -/
def conditional (noIn : Bool) : P Node := do
  let test ← self (.binary noIn 1)
  if ← eatMark "?" then
    let s ← get
    let branches := do
      let yes ← self (.assignment false)
      mark ":"
      return yes
    let yes ←
      match ← attempt branches with
      | some yes => pure yes
      | none =>
        inContext (fun t => { t with noReturnType := true })
          (fun t => { t with noReturnType := s.noReturnType }) branches
    let no ← self (.assignment noIn)
    node .conditional test.span.start [test, yes, no]
  else return test

/-- The operators that assign. -/
def assignmentMarks : List String :=
  ["=", "+=", "-=", "*=", "/=", "%=", "**=", "<<=", ">>=", ">>>=", "&=", "|=", "^=", "&&=", "||=",
    "??="]

/-- Whether an expression can be written before an operator that assigns, even where nothing can
be assigned to it. -/
def isTarget (n : Node) : Bool :=
  n.fold fun n inner =>
    match n.label with
    | .ident _ _ | .member _ | .index _ | .array | .object => true
    | .paren | .nonNull | .cast _ | .constAssertion => inner.headD false
    | .typeAssertion => inner.getD 1 false
    | _ => false

/-- Whether the right shape for a target stands before an operator that assigns. -/
def looksLikeTarget (n : Node) : Bool :=
  match n.label with
  | .ident _ _ | .member _ | .index _ | .paren | .nonNull | .cast _ | .typeAssertion
  | .instantiation => true
  | .call _ => n.hasOptionalLink
  | _ => false

/-- The target of an assignment, read from an expression. -/
def assignmentTarget (op : String) (left : Node) : P Node := do
  let isPlain := op == "="
  if !(← isExact) then
    if isTarget left then return left else fail
  if isPlain && (left.label == .array || left.label == .object) then
    let target := left.toPattern false
    if target.isPattern then return target else fail
  if !looksLikeTarget left then fail
  if !left.isSimpleTarget then reject left.span.start
  return left.bare

/-- `yield` and what it gives away. -/
def yieldNode (noIn : Bool) : P Node := do
  let start ← here
  word "yield"
  let t ← tok
  if t.isPunct "*" && !t.newlineBefore then
    advance
    let e ← self (.assignment noIn)
    node (.yield true) start [e]
  else if !t.newlineBefore && (beginsOperand t || t.isWord "of" == true) then
    let e ← self (.assignment noIn)
    node (.yield false) start [e]
  else
    let nothing ← missing
    node (.yield false) start [nothing]

/-- An expression without commas. -/
def assignment (noIn : Bool) : P Node := do
  if (← get).inGenerator && (← atWord "yield") then return ← yieldNode self noIn
  if ← isNameArrow then return ← nameArrow self noIn
  if ← mayBeParenArrow then
    if let some f ← attempt (parenArrow self noIn) then return f
  let left ← conditional self noIn
  joinAngles
  let t ← tok
  if left.label == .paren && t.isPunct "=>" && (← isExact) then return ← castArrow self noIn left
  if t.kind == .punct && assignmentMarks.contains t.text then
    match ← attempt (assignmentTarget t.text left) with
    | some target =>
      advance
      let right ← self (.assignment noIn)
      node (.assign t.text) left.span.start [target, right]
    | none => return left
  else return left

/-- Expressions with commas between them. -/
def expression (noIn : Bool) : P Node := do
  let first ← self (.assignment noIn)
  let others ← many do
    if ← eatMark "," then return some (← self (.assignment noIn)) else return none
  if others.isEmpty then return first else node .sequence first.span.start (first :: others)

/-- A name with members and possibly one call, as decorators of an outline are written. -/
def decoratorCallee : P Node := do
  let first ← reference
  let start := first.span.start
  let callee ← grow
    (fun left => do
      if ← eatMark "." then
        let name ← memberName
        return some (← node (.member false) start [left, name])
      else return none)
    first
  let _ ← if ← atMark "<" then attempt (typeArguments self) else pure none
  if ← atMark "(" then
    let args ← callArguments self
    node (.call false) start [callee, args]
  else return callee

/-- What a decorator of a program names: a chain without brackets, or anything in
parentheses, which may be called. -/
def exactDecoratorCallee : P Node := do
  let start ← here
  if ← atMark "(" then
    let inner ← parenNode self
    if ← atMark "(" then
      let args ← callArguments self
      node (.call false) start [inner, args]
    else return inner
  else
    let first ← nameNode
    grow (fun left => do if ← atMark "[" then return none else link self true left) first

/-- A decorator behind its mark. -/
def decoratorNode : P Node := do
  let start ← here
  mark "@"
  let e ←
    if ← isExact then exactDecoratorCallee self
    else if ← atMark "(" then parenNode self
    else decoratorCallee self
  node .decorator start [e]

end TypedDocs.Script.P
