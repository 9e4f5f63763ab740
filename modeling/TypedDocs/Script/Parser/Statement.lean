/-
  The grammar of statements, declarations and modules.
-/

import TypedDocs.Script.Parser.Expression

namespace TypedDocs.Script.P

variable (self : Rule → P Node)

/-! ## Variables -/

/-- A type of an outline, unless names with dots stand behind it; these are passed over, and then
it is none. -/
def passMembers (type : Node) : P Node := do
  if (← isExact) || type.isAbsent || !(← atMark ".") then return type
  note (.rejected type.span.start)
  let _ ← many do
    if ← eatMark "." then return some (← anyWord) else return none
  missing

/-- One declarator.  In a program a pattern needs a value, except of a constant, and only a name
has the mark that it gets its value elsewhere. -/
def declarator (w : String) (noIn : Bool) : P Node := do
  let start ← here
  let exact ← isExact
  if exact && (w == "let" || w == "const") && (← atWord "let") then fail
  let target ← self .pattern
  if !exact || target.name?.isSome then let _ ← eatMark "!"
  let type ← optionalAscription self
  let type ← passMembers type
  -- In a program only the oldest sort of variable leaves `in` to the loop.
  let endsAtIn := noIn && (!exact || w == "var")
  let value ← if ← eatMark "=" then self (.assignment endsAtIn) else missing
  let s ← get
  let headsLoop := noIn && (← atAnyWord ["of", "in"])
  if s.exact && !s.inAmbient && !headsLoop && w != "const" && value.isAbsent && target.name?.isNone then
    fail
  node .declarator start [target, type, value]

/-- One declarator of a program, unless the declaration ends where it should stand. -/
def declaratorUnlessOver (w : String) (noIn : Bool) : P (List Node) := do
  let t ← tok
  if (← isExact) && (t.isPunct ";" || t.kind == .eof) then
    reject t.span.start
    return []
  else return [← declarator self w noIn]

/-- Whether a loop of a program goes on where it should declare a variable. -/
def lacksVariable : P Bool := do
  if !(← isExact) || !(← atAnyWord ["of", "in"]) then return false
  let members ← peek do
    advance
    let _ ← self (.assignment false)
    mark ")"
  return members.isSome

/-- Declarators behind their word, without what ends the statement. -/
def variableList (noIn : Bool) : P Node := do
  let start ← here
  let w ← tok
  advance
  if noIn && (← lacksVariable self) then
    reject start
    return ← node (.variable w.text) start []
  let first ← declaratorUnlessOver self w.text noIn
  let others ← many do
    if ← eatMark "," then return some (← declaratorUnlessOver self w.text noIn) else return none
  node (.variable w.text) start (first ++ others.flatten)

/-- Ends a declaration of variables.  Where a program goes on with something else, all of that is
passed over as far as the next place where a statement can end. -/
def endVariables : P Unit := do
  if (← isExact) && (← peek semicolon).isNone then
    reject (← here)
    let _ ← attempt (self (.expression false))
    let _ ← many do
      if (← tok).kind == .stray || (← peek semicolon).isSome then return none
      advance
      return some ()
  semicolon

/-- Whether a declaration of values that are disposed of begins at the current token. -/
def atUsing : P Bool := modifierHere ["using"] (·.isFree)

/-- A declaration of values that are disposed of, from its first word on, which may be one that
waits.  Each needs a value. -/
def usingNode (waits : Bool) : P Node := do
  let start ← here
  if waits then advance
  let v ← variableList self false
  if v.kids.any fun d : Node => (d.kid 2).isAbsent then reject start
  semicolon
  node (.variable (if waits then "await using" else "using")) start v.kids

/-- Whether a declaration of variables begins at the current token. -/
def atVariables : P Bool := do
  let t ← tok
  if t.isWord "var" || t.isWord "const" then return true
  if t.isWord "let" then
    let n ← nextTok
    return n.isPunct "[" || n.isPunct "\x7b" || (n.isName && n.text != "instanceof")
  return false

/-- Gives a node the end of the last token passed. -/
def closed (n : Node) : P Node :=
  return { n with span := ⟨n.span.start, (← get).prevStop⟩ }

/-! ## Control flow -/

/-- An expression between parentheses that belong to a statement. -/
def inParens : P Node := do
  mark "("
  let e ← self (.expression false)
  mark ")"
  return e

/-- `if` and its branches.  A program can be read as if it had none where the closing parenthesis
is missing. -/
def ifStatement : P Node := do
  let start ← here
  word "if"
  mark "("
  let test ← self (.expression false)
  if (← isExact) && !(← atMark ")") then
    reject (← here)
    let nothing ← missing
    return ← node .ifStmt start [test, nothing, nothing]
  mark ")"
  let yes ← self (.statement .single)
  let no ← if ← eatWord "else" then self (.statement .single) else missing
  node .ifStmt start [test, yes, no]

/-- The left side of a loop over members in an outline, before `in` or `of`. -/
def loopTarget : P Node := do
  let start ← here
  if ← atVariables then
    let w ← tok
    advance
    let target ← self .pattern
    let type ← optionalAscription self
    let nothing ← missing
    let d ← node .declarator target.span.start [target, type, nothing]
    node (.variable w.text) start [d]
  else self (.chain true)

/-- What a loop goes over, from `in` or `of` to the closing parenthesis. -/
def loopMembers (isAwait : Bool) : P (Kind × Node) := do
  if ← eatWord "of" then
    let right ← self (.assignment false)
    mark ")"
    return (.forOf isAwait, right)
  else
    word "in"
    let right ← self (.expression false)
    mark ")"
    return (.forIn, right)

/-- What stands before the first semicolon of a loop that counts. -/
def loopStart : P Node := do
  if ← atMark ";" then missing
  else if ← atVariables then variableList self true
  else self (.expression true)

/-- A loop that counts, behind what it starts with. -/
def countingLoop (start : Nat) (init : Node) : P Node := do
  mark ";"
  let test ← if ← atMark ";" then missing else self (.expression false)
  mark ";"
  let update ← if ← atMark ")" then missing else self (.expression false)
  mark ")"
  let body ← self (.statement .single)
  node .forStmt start [init, test, update, body]

/-- Words that declare what a loop disposes of, read as an expression. -/
def usingWords? (n : Node) : Option String :=
  let isUsing := fun e : Node => e.name? == some "using"
  if isUsing n then some "using"
  else if n.label == .await && isUsing (n.kid 0) then some "await using"
  else none

/-- What stands first in a program's loop, together with the name behind it if it turns out to
declare one. -/
def loopDeclaration (init : Node) : P Node := do
  match usingWords? init with
  | some w =>
    let next ← nextTok
    if !(← atWord "of") && (next.isWord "of" || next.isWord "in") then
      let name ← bindingName
      let nothing ← missing
      let d ← node .declarator name.span.start [name, nothing, nothing]
      node (.variable w) init.span.start [d]
    else return init
  | none => return init

/-- What a program's loop over members stores them in. -/
def loopLeft (init : Node) : P Node := do
  match init.label with
  | .variable _ => return init
  | .array | .object =>
    let target := init.toPattern false
    if target.isPattern then return target else fail
  | _ =>
    if !init.isSimpleTarget then reject init.span.start
    return init

/-- `for` in a program: what stands first is read before it is known which loop it is.  Only a
loop over values can wait for them. -/
def exactLoop (start : Nat) (isAwait : Bool) : P Node := do
  let init ← loopStart self
  let init ← loopDeclaration init
  if !init.isAbsent && (← atAnyWord ["of", "in"]) then
    let left ← loopLeft init
    let (kind, right) ← loopMembers self isAwait
    if isAwait && kind == .forIn then fail
    let body ← self (.statement .single)
    node kind start [left, right, body]
  else if isAwait then fail
  else countingLoop self start init

/-- `for` in its three forms. -/
def forStatement : P Node := do
  let start ← here
  word "for"
  let isAwait ← eatWord "await"
  mark "("
  if ← isExact then exactLoop self start isAwait
  else
    let members ← attempt do
      let left ← loopTarget self
      let (kind, right) ← loopMembers self isAwait
      return (kind, left, right)
    match members with
    | some (kind, left, right) =>
      let body ← self (.statement .single)
      node kind start [left, right, body]
    | none => countingLoop self start (← loopStart self)

/-- `while`. -/
def whileStatement : P Node := do
  let start ← here
  word "while"
  let test ← inParens self
  let body ← self (.statement .single)
  node .whileStmt start [test, body]

/-- `do` with its condition behind it. -/
def doStatement : P Node := do
  let start ← here
  word "do"
  let body ← self (.statement .single)
  word "while"
  let test ← inParens self
  let _ ← eatMark ";"
  node .doWhile start [body, test]

/-- Statements as far as a brace or a case. -/
def caseBody : P (List Node) := many do
  if (← atMark "\x7d") || (← atWord "case") || (← atWord "default") then return none
  return some (← self (.statement .body))

/-- One case of a switch. -/
def caseClause : P Node := do
  let start ← here
  let test ←
    if ← eatWord "default" then missing
    else
      word "case"
      self (.expression false)
  mark ":"
  let body ← caseBody self
  node .caseClause start (test :: body)

/-- `switch` and its cases. -/
def switchStatement : P Node := do
  let start ← here
  word "switch"
  let on ← inParens self
  mark "\x7b"
  let cases ← many do
    if ← atMark "\x7d" then return none
    return some (← caseClause self)
  mark "\x7d"
  if 1 < cases.countP fun c => (c.kid 0).isAbsent then note (.forbidden start)
  node .switch start (on :: cases)

/-- What catches an exception. -/
def catchClause : P Node := do
  let start ← here
  word "catch"
  let (param, type) ←
    if ← eatMark "(" then
      let p ← self .pattern
      let t ← optionalAscription self
      mark ")"
      pure (p, t)
    else
      let nothing ← missing
      pure (nothing, nothing)
  let body ← self .block
  node .catchClause start [param, type, body]

/-- `try` with a handler, a finalizer or both. -/
def tryStatement : P Node := do
  let start ← here
  word "try"
  let body ← self .block
  let handler ← if ← atWord "catch" then catchClause self else missing
  let finalizer ← if ← eatWord "finally" then self .block else missing
  if handler.isAbsent && finalizer.isAbsent then
    if ← isExact then reject start else fail
  node .try start [body, handler, finalizer]

/-- What should follow a block and stands alone in a program.  It is passed over. -/
def strayHandler : P Node := do
  let start ← here
  reject start
  if (← attempt (catchClause self)).isNone then let _ ← eatWord "catch"
  if ← eatWord "finally" then let _ ← attempt (self .block)
  node .empty start []

/-- A statement of one word and possibly an operand on the same line. -/
def jump (kind : Kind) (operand : P Node) : P Node := do
  let start ← here
  advance
  let t ← tok
  let bare := t.newlineBefore || t.isPunct ";" || t.isPunct "\x7d" || t.kind == .eof
  -- What a program throws stands on the same line.
  let e ←
    if (← isExact) && kind == .throw then if t.newlineBefore then fail else operand
    else if bare then missing
    else operand
  semicolon
  node kind start [e]

/-! ## Declarations of types -/

/-- What an interface of a program extends.  A second clause is passed over as far as the body. -/
def exactBases : P Unit := do
  if ← eatWord "extends" then basedOn self
  if ← atWord "extends" then
    let _ ← many do
      if (← atMark "\x7b") || (← tok).kind == .eof then return none
      advance
      return some ()

/-- What an interface of an outline extends. -/
def outlineBases : P Unit := do
  if ← eatWord "extends" then implementedTypes self

/-- `interface`. -/
def interfaceNode : P Node := do
  let start ← here
  word "interface"
  let name ← declaredName
  let _ ← typeParameters self
  if ← isExact then exactBases self else outlineBases self
  let body ← typeBody self
  node .interface start [name, body]

/-- `type` with a name. -/
def typeAlias : P Node := do
  let start ← here
  word "type"
  let name ← declaredName
  let _ ← typeParameters self
  mark "="
  let t ← self .type
  semicolon
  node .typeAlias start [name, t]

/-- One member of an enumeration. -/
def enumMember : P Node := do
  let start ← here
  let t ← tok
  if (← isExact) && (t.kind == .privateName || t.kind == .bigint) then fail
  let key ← memberKey self
  let value ← if ← eatMark "=" then self (.assignment false) else missing
  let member ← node .enumMember start [key, value]
  -- Where a comma is missing in a program, what stands in its place is passed over.
  if (← isExact) && !(← atMark ",") && !(← atMark "\x7d") then
    reject (← here)
    if value.isAbsent then advance
  return member

/-- The members of an enumeration up to the closing brace, which is passed. -/
def enumMembers : P (List Node) := do
  if ← isExact then
    let ms ← many do
      if ← atMark "\x7d" then return none
      let m ← enumMember self
      let _ ← eatMark ","
      return some m
    mark "\x7d"
    return ms
  else commaList "\x7d" (enumMember self)

/-- `enum`. -/
def enumNode : P Node := do
  let start ← here
  let isConst ← eatWord "const"
  word "enum"
  let name ← declaredName
  mark "\x7b"
  let ms ← enumMembers self
  node (.enum isConst) start (name :: ms)

/-- The name of a namespace: a string, or words with dots between them. -/
def namespaceName : P Node := do
  let start ← here
  if (← tok).kind == .string then stringNode
  else
    let first ← declaredName
    let others ← many do
      if ← eatMark "." then return some (← anyWord) else return none
    node .list start (first :: others)

/-- Whether a statement belongs to a module and not to a namespace. -/
def belongsToModule (n : Node) : Bool :=
  match n.label with
  | .importDecl isType _ | .exportNamed isType | .exportAll isType => !isType
  | .exportDefault => (n.kid 1).label != .interface
  | .exportValue | .exportAssign | .exportAsNamespace => true
  | _ => false

/-- Statements between the braces of a namespace. -/
def namespaceBody : P Node := do
  let start ← here
  mark "\x7b"
  let s ← get
  let body ← many do
    if ← atClose then return none
    let n ← self (.statement .top)
    if belongsToModule n && !s.inAmbient then reject n.span.start
    return some n
  closeBrace
  node .block start body

/-- `namespace`, `module` or `global`.  In a program one with a name of its own has a body. -/
def namespaceNode : P Node := do
  let start ← here
  let name ← if ← atWord "global" then nameNode else do
    advance
    namespaceName
  let needsBody := (← isExact) && name.label == .list
  if needsBody || (← atMark "\x7b") then
    let body ← namespaceBody self
    node .namespace start [name, body]
  else
    semicolon
    let nothing ← missing
    node .namespace start [name, nothing]

/-- Whether the current word opens a declaration: the right thing follows on its line.  Behind a
word that calls for a declaration, an outline lets the line end, and a program needs nothing else
to show it. -/
def opensDeclaration (wanted : Bool) (w : String) (follow : Token → Bool) : P Bool := do
  if !wanted then modifierHere [w] follow
  else if ← isExact then atWord w
  else looseModifierHere [w] follow

/-! ## Declarations -/

/-- A class with its decorators. -/
def classStatement : P Node := do
  let start ← here
  let decos ← decorators self
  let isAbstract ← atWord "abstract"
  classNode self (.classDecl isAbstract) start decos true

/-- Whether a class begins at the current token.  In an outline `abstract` is no name. -/
def atClass (wanted : Bool) : P Bool := do
  if (← atWord "class") || (← atMark "@") then return true
  opensDeclaration (wanted || !(← isExact)) "abstract" (·.isWord "class")

/-- Whether a function begins at the current token. -/
def atFunction (wanted : Bool) : P Bool := do
  if ← atWord "function" then return true
  opensDeclaration (wanted && !(← isExact)) "async" (·.isWord "function")

/-- Whether an enumeration begins at the current token. -/
def atEnum (wanted : Bool) : P Bool := do
  if ← looseModifierHere ["const"] (·.isWord "enum") then return true
  if ← isExact then opensDeclaration wanted "enum" (·.isFree) else atWord "enum"

/-- Whether a namespace begins at the current token. -/
def atNamespace (wanted : Bool) (follow : Token → Bool) : P Bool := do
  let opensBody := fun t : Token => t.isPunct "\x7b"
  if !wanted && (← isExact) then
    if (← looseModifierHere ["namespace"] follow) || (← looseModifierHere ["global"] opensBody) then
      return true
  if ← opensDeclaration wanted "namespace" follow then return true
  if ← opensDeclaration wanted "module" fun t => follow t || t.kind == .string then return true
  opensDeclaration wanted "global" opensBody

/-- A declaration, if one begins at the current token; it is `wanted` behind a word that only a
declaration can follow. -/
def declaration? (wanted : Bool) : P (Option Node) := do
  let exact ← isExact
  let isName := fun t : Token => if exact then t.isFree else t.isName
  if ← atFunction wanted then return some (← functionNode self .functionDecl true false)
  if ← atClass wanted then return some (← classStatement self)
  if ← atEnum wanted then return some (← enumNode self)
  if ← atVariables then
    let v ← variableList self false
    endVariables self
    return some (← closed v)
  if ← opensDeclaration wanted "interface" isName then return some (← interfaceNode self)
  if ← opensDeclaration wanted "type" isName then return some (← typeAlias self)
  if ← atNamespace wanted isName then return some (← namespaceNode self)
  return none

/-- Words that can follow `declare`. -/
def declarable : List String :=
  ["function", "class", "abstract", "const", "let", "var", "enum", "interface", "type",
    "namespace", "module", "global", "async"]

/-- Whether an ambient declaration can begin at a token.  In a program nothing ambient is
asynchronous. -/
def opensAmbient (exact : Bool) (t : Token) : Bool :=
  declarable.contains t.text && !(exact && t.text == "async")

/-- A declaration behind `declare`, which stands at an offset. -/
def ambientTail (start : Nat) : P Node := do
  let s ← get
  let d ← inContext (fun t => { t with inAmbient := true })
    (fun t => { t with inAmbient := s.inAmbient }) (declaration? self true)
  match d with
  | some d => node .ambient start [d]
  | none => fail

/-- A declaration, ambient or not, if one begins at the current token. -/
def anyDeclaration? (wanted : Bool) : P (Option Node) := do
  let exact ← isExact
  let start ← here
  let opens := opensAmbient exact
  if ← if wanted || exact then looseModifierHere ["declare"] opens else modifierHere ["declare"] opens then
    advance
    return some (← ambientTail self start)
  declaration? self wanted

/-! ## Modules -/

/-- A name or a string that stands for an exported binding. -/
def moduleName : P Node := do
  if (← tok).kind == .string then stringNode else anyWord

/-- Whether a specifier is one of a type.  Behind `type as` it is one if no word follows, or if
the word is `as` and another word follows. -/
def isTypeSpecifier : P Bool := do
  let next ← nextTok
  -- To a program a string is no word.
  let exact ← isExact
  let isWord := fun t : Option Token =>
    (t.map fun t => t.kind == .word || (t.kind == .string && !exact)).getD false
  if !(← atWord "type") || !isWord next then return false
  if !next.isWord "as" then return true
  let third ← peek (do advance; advance; tok)
  let fourth ← peek (do advance; advance; advance; tok)
  return !isWord third || ((third.map (·.isWord "as")).getD false && isWord fourth)

/-- A specifier of an export, with `type` in front or without. -/
def exportSpecifier : P Node := do
  let start ← here
  let isType ← isTypeSpecifier
  if isType then advance
  let outer ← moduleName
  let inner ← if ← eatWord "as" then moduleName else missing
  node (.exportSpec isType) start [outer, inner]

/-- A specifier of an import, with `type` in front or without.  What it binds is a name. -/
def importSpecifier : P Node := do
  let start ← here
  let isType ← isTypeSpecifier
  if isType then advance
  let isName ← isPlainName (← tok)
  let outer ← moduleName
  let inner ←
    if ← eatWord "as" then bindingName
    else if isName then missing
    else fail
  node (.importSpec isType) start [outer, inner]

/-- Attributes behind the source of a module. -/
def moduleAttributes : P Node := do
  let t ← tok
  if (t.isWord "with" || t.isWord "assert") && !t.newlineBefore && (← nextTok).isPunct "\x7b" then
    advance
    primary self
  else missing

/-- The source of a module with its attributes. -/
def moduleSource : P (List Node) := do
  let s ← stringNode
  let attributes ← moduleAttributes self
  return [s, attributes]

/-- One more name behind a dot of the name of something imported.  A program can be read without
the last one; none of them is reserved. -/
def importedMember (start : Nat) (left : Node) : P (Option Node) := do
  if !(← eatMark ".") then return none
  let t ← tok
  let exact ← isExact
  if exact && t.kind != .word && t.kind != .privateName && !t.isPunct "#" then
    reject t.span.start
    return none
  let n ← if exact then bindingName else anyWord
  return some (← node (.member false) start [left, n])

/-- `import x = …`, behind its first words. -/
def importEqualsTail (start : Nat) (isExport isType : Bool) (name : Node) : P Node := do
  mark "="
  let refStart ← here
  let ref ←
    if (← atWord "require") && (← nextTok).isPunct "(" then
      advance
      advance
      let s ← stringNode
      mark ")"
      node .externalModule refStart [s]
    else
      if ← atWord "void" then reject refStart
      let first ← declaredName
      -- An outline knows such a name for values only.
      if isType && !(← isExact) then note (.rejected start)
      grow (importedMember refStart) first
  semicolon
  node (.importEquals isExport isType) start [name, ref]

/-- The bindings of an import, up to `from`. -/
def importBindings : P (List Node) := do
  let default ←
    if ← isPlainName (← tok) then
      let n ← nameNode
      let d ← node .importDefault n.span.start [n]
      if !(← atWord "from") then mark ","
      pure [d]
    else pure []
  let others ←
    if ← atMark "*" then
      let start ← here
      advance
      word "as"
      let n ← bindingName
      pure [← node .importNamespace start [n]]
    else if ← eatMark "\x7b" then commaList "\x7d" importSpecifier
    else pure []
  return default ++ others

/-- Whether the current word is one in front of the bindings of an import and none of them. -/
def importWordHere (w : String) (marks : List String) : P Bool := do
  let next ← nextTok
  let after ← peek (do advance; advance; tok)
  let afterIsFrom := (after.map (·.isWord "from")).getD false
  let isName ← isPlainName next
  return (← atWord w) && (marks.any next.isPunct || (isName && (next.text != "from" || afterIsFrom)))

/-- An import. -/
def importStatement : P Node := do
  let start ← here
  word "import"
  if (← tok).kind == .string then
    let source ← moduleSource self
    semicolon
    let nothing ← missing
    return ← node (.importDecl false .evaluation) start (⟨.list, nothing.span, []⟩ :: source)
  let isType ← importWordHere "type" ["\x7b", "*"]
  if isType then advance
  if (← isPlainName (← tok)) && (← nextTok).isPunct "=" then
    let name ← nameNode
    return ← importEqualsTail start false isType name
  let phase : ImportPhase ←
    if isType then pure .evaluation
    else if ← importWordHere "source" [] then pure .source
    else if (← atWord "defer") && (← nextTok).isPunct "*" then pure .defer
    else pure .evaluation
  if phase != .evaluation then advance
  let listStart ← here
  let specs ← importBindings
  let list ← node .list listStart specs
  word "from"
  let source ← moduleSource self
  semicolon
  node (.importDecl isType phase) start (list :: source)

/-- What stands behind `export default`. -/
def defaultExport (start : Nat) (decos : Node) : P Node := do
  let at_ ← here
  let named (isClass : Bool) : P Bool := do
    let t ← peek do
      let _ ← decorators self
      let _ ← eatWord "abstract"
      let _ ← eatWord "async"
      advance
      let _ ← eatMark "*"
      tok
    return (t.map fun t => t.isName && !(isClass && t.text == "implements")).getD false
  let exact ← isExact
  if ← atFunction (!exact) then
    let f ← if ← named false then functionNode self .functionDecl true false
      else functionNode self .function false true
    return ← node .exportDefault start [decos, f]
  if ← atClass false then
    let c ← if ← named true then classStatement self
      else do
        let inner ← decorators self
        classNode self .classExpr at_ inner false
    return ← node .exportDefault start [decos, c]
  if ← opensDeclaration true "interface" (·.isName) then
    let i ← interfaceNode self
    return ← node .exportDefault start [decos, i]
  let e ← self (.assignment false)
  semicolon
  node .exportValue start [decos, e]

/-- Ends a statement behind which a program needs no semicolon. -/
def endLoosely : P Unit := do
  if ← isExact then let _ ← eatMark ";" else semicolon

/-- `export *`, with or without a name. -/
def exportAll (start : Nat) (isType : Bool) : P Node := do
  mark "*"
  let name ← if ← eatWord "as" then moduleName else missing
  word "from"
  let source ← moduleSource self
  semicolon
  node (.exportAll isType) start (name :: source)

/-- Specifiers between braces and possibly a source. -/
def exportNamed (start : Nat) (isType : Bool) : P Node := do
  let listStart ← here
  mark "\x7b"
  let specs ← commaList "\x7d" exportSpecifier
  let list ← node .list listStart specs
  if ← eatWord "from" then
    let source ← moduleSource self
    semicolon
    node (.exportNamed isType) start (list :: source)
  else
    endLoosely
    node (.exportNamed isType) start [list]

/-- An export; decorators in front of it have been read. -/
def exportStatement (start : Nat) (decos : Node) : P Node := do
  word "export"
  let exact ← isExact
  -- A program can have the word in front of anything that is exported.
  if exact then
    let at_ ← here
    if (← eatWord "declare") && opensAmbient exact (← tok) then
      let d ← ambientTail self at_
      return ← node .exportDecl start [decos, d]
    if ← atWord "global" then fail
  if ← eatWord "default" then return ← defaultExport self start decos
  if ← eatMark "=" then
    let e ← self (.expression false)
    semicolon
    return ← node .exportAssign start [e]
  if (← atWord "as") && (← nextTok).isWord "namespace" then
    advance
    advance
    let n ← nameNode
    semicolon
    return ← node .exportAsNamespace start [n]
  if ← atMark "*" then return ← exportAll self start false
  if ← atMark "\x7b" then return ← exportNamed self start false
  if ← atWord "type" then
    let next ← nextTok
    if next.isPunct "\x7b" then
      advance
      return ← exportNamed self start true
    if next.isPunct "*" then
      advance
      return ← exportAll self start true
  if ← eatWord "import" then
    let isType := (← atWord "type") && !(← nextTok).isPunct "="
    if isType then advance
    let name ← nameNode
    return ← importEqualsTail start true isType name
  match ← anyDeclaration? self true with
  | some d => node .exportDecl start [decos, d]
  | none => fail

/-! ## Statements -/

/-- Statements between braces. -/
def block : P Node := do
  let start ← here
  mark "\x7b"
  let body ← many do
    if ← atClose then return none
    return some (← self (.statement .body))
  closeBrace
  node .block start body

/-- An expression as a statement.  An operator behind one that cannot be its operand is still
read with it. -/
def expressionStatement : P Node := do
  let start ← here
  let e ← self (.expression false)
  let t ← tok
  if (← isExact) && isOperatorMark t && !t.newlineBefore then
    reject t.span.start
    let e ← binaryTail self false 1 e
    return ← node .exprStmt start [e]
  semicolon
  node .exprStmt start [e]

/-- A decorated class, exported or not.  Decorators of anything else mean nothing. -/
def decoratedStatement (place : Place) : P Node := do
  let start ← here
  let decos ← decorators self
  let exact ← isExact
  if ← atWord "export" then
    -- The outline counts the decorators in, the program does not.
    let exportStart ← if exact then here else pure start
    exportStatement self exportStart decos
  else
    let isAbstract ← atWord "abstract"
    if exact && !isAbstract && !(← atWord "class") then self (.statement place)
    else classNode self (.classDecl isAbstract) start decos true

/-- Marks that continue a statement on the next line of an outline. -/
def continuesOutline (t : Token) : Bool :=
  t.kind == .chunk || (t.kind == .punct && !(["\x7b", "\x7d", ")", "]", "~", "@", "++", "--"].contains t.text))

/-- Whether `export` stands alone on its line in an outline, as a name. -/
def exportIsName : P Bool := do
  let next ← nextTok
  return !(← isExact) && next.newlineBefore && !continuesOutline next

/-- A statement that waits at the top of a program: no comma, choice or assignment follows, and
no semicolon has to. -/
def awaitStatement : P Node := do
  let start ← here
  let first ← if ← awaitIsName then nameNode else awaitNode self
  let e ← binaryTail self false 1 first
  let _ ← eatMark ";"
  node .exprStmt start [e]

/-- A statement. -/
def statement (place : Place) : P Node := do
  let start ← here
  let t ← tok
  let exact ← isExact
  if t.kind == .punct then
    match t.text with
    | ";" => return ← leaf .empty
    | "\x7b" => return ← self .block
    | "@" => return ← decoratedStatement self place
    | _ => return ← expressionStatement self
  if t.isPlainWord then
    match t.text with
    | "if" => return ← ifStatement self
    | "for" => return ← forStatement self
    | "while" => return ← whileStatement self
    | "do" => return ← doStatement self
    | "switch" => return ← switchStatement self
    | "try" => return ← tryStatement self
    | "throw" => return ← jump .throw (self (.expression false))
    | "return" => return ← jump .return (self (.expression false))
    | "break" => return ← jump .break nameNode
    | "continue" => return ← jump .continue nameNode
    | "debugger" =>
      advance
      semicolon
      return ← node .debugger start []
    | "with" =>
      advance
      let e ← inParens self
      let body ← self (.statement .single)
      return ← node .with start [e, body]
    | "import" =>
      let next ← nextTok
      if !(next.isPunct "(" || next.isPunct ".") then
        if exact && place != .top then fail
        return ← importStatement self
      let e ← self (.expression false)
      endLoosely
      return ← node .exprStmt start [e]
    | "export" =>
      if exact && place != .top then fail
      if ← exportIsName then
        let e ← leaf (.ident t.text globalScope)
        return ← node .exprStmt start [e]
      let nothing ← missing
      return ← exportStatement self start nothing
    | "await" =>
      if exact && place != .single && (← nextTok).isWord "using" then
        if (← peek (do advance; atUsing)) == some true then return ← usingNode self true
        return ← awaitStatement self
      if exact && place == .top then return ← awaitStatement self
    | "using" => if exact && place != .single && (← atUsing) then return ← usingNode self false
    | "catch" | "finally" => if exact then return ← strayHandler self
    | "abstract" | "static" =>
      -- The word in front of an interface means nothing.
      if exact && (← nextTok).isWord "interface" then
        advance
        return ← interfaceNode self
    | "let" => if exact && place == .single then return ← expressionStatement self
    | "const" => if exact && place == .single && !(← nextTok).isWord "enum" then fail
    | _ => pure ()
    if let some d ← anyDeclaration? self false then return d
  let mayLabel := (← mayRefer t) && !(exact && t.isWord "await")
  if mayLabel && (← nextTok).isPunct ":" then
    let label ← reference
    advance
    let body ← self (.statement .single)
    return ← node .labeled start [label, body]
  expressionStatement self

end TypedDocs.Script.P
