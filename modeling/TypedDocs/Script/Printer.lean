/-
  Printing a script.

  The printer lays a tree out anew, two blanks for each level.  Comments come
  along: a node prints the comments that lead its first token, an expression
  and a statement also those that trail their last one, and no comment is
  printed twice.
-/

import TypedDocs.Script.Parser
import TypedDocs.Text.Entity

namespace TypedDocs.Script

/-! ## The page -/

/-- What has been printed, and the comments that wait for their place. -/
structure Page where
  text : String
  level : Nat
  atLineStart : Bool
  waiting : List Comment

/-- Something that prints. -/
abbrev Print := StateM Page Unit

namespace Print

/-- Prints a text, behind the indentation if a line begins. -/
def put (s : String) : Print := modify fun p =>
  if s.isEmpty then p
  else if p.atLineStart then
    { p with text := p.text ++ String.ofList (List.replicate (2 * p.level) ' ') ++ s, atLineStart := false }
  else { p with text := p.text ++ s }

/-- Begins a line unless one has just begun. -/
def newline : Print := modify fun p =>
  if p.atLineStart then p else { p with text := p.text ++ "\n", atLineStart := true }

/-- Prints one level deeper. -/
def deeper (body : Print) : Print := do
  modify fun p => { p with level := p.level + 1 }
  body
  modify fun p => { p with level := p.level - 1 }

/-! ## Comments -/

/-- Whether a comment waits at a place. -/
def hasComment (home : CommentHome) (p : Page) : Bool :=
  p.waiting.any (·.home == home)

/-- Prints one comment; `before` goes in front of it. -/
def comment (before : String) (c : Comment) : Print := do
  put before
  put (String.ofList c.text)
  if c.isBlock then put " " else newline

/-- Prints the comments of a place, which then wait no longer. -/
def comments (before : String) (home : CommentHome) : Print := do
  let here := (← get).waiting.filter (·.home == home)
  modify fun p => { p with waiting := p.waiting.filter (·.home != home) }
  here.forM (comment before)

/-- Prints the comments in front of an offset. -/
def leading (offset : Nat) : Print := comments "" (.leading offset)

/-- Prints the comments behind an offset.  Nothing that is printed ends at offset zero. -/
def trailing (offset : Nat) : Print :=
  if offset == 0 then pure () else comments " " (.trailing offset)

/-- Prints the comments behind an item of a list, close to it. -/
def close (offset : Nat) : Print :=
  if offset == 0 then pure () else comments "" (.trailing offset)

/-! ## Lists -/

/-- Prints items with something between neighbours. -/
def joined (between : Print) : List Print → Print
  | [] => pure ()
  | [last] => last
  | item :: rest => do
    item
    between
    joined between rest

/-- Items on one line with commas between them. -/
def commas (items : List Print) : Print :=
  joined (put ", ") items

/-- Items on lines of their own, one level deeper.  Without items the line just ends. -/
def lines (between : String) (items : List Print) : Print :=
  if items.isEmpty then newline
  else do
    newline
    deeper (joined (do put between; newline) items)
    newline

/-- A list in brackets with one item on a line.  A hole at the end needs a comma of its own. -/
def bracketed (opening closing : String) (endsInHole : Bool) (items : List Print) : Print := do
  put opening
  if !items.isEmpty then
    newline
    deeper do
      joined (do put ","; newline) items
      if endsInHole then put ", "
    newline
  put closing

/-- Statements in braces.  Without statements and comments the braces stand side by side. -/
def braced (span : Span) (items : List Print) : Print := do
  put "\x7b"
  if !items.isEmpty || hasComment (.leading (span.stop - 1)) (← get) then lines "" items
  leading (span.stop - 1)
  put "\x7d"

end Print

/-! ## Nodes -/

open Print

/-- A node with what prints it. -/
structure Printed where
  node : Node
  print : Print

namespace Printed

/-- Nothing to print. -/
def absent : Printed := ⟨Node.absent 0, pure ()⟩

/-- Whether there is anything. -/
def isAbsent (p : Printed) : Bool := p.node.isAbsent

/-- The node as an expression or a bound name, with the comments behind it. -/
def expr (p : Printed) : Print := do
  p.print
  if !p.isAbsent then trailing p.node.span.stop

/-- Prints the node between two texts, or nothing if it is absent. -/
def between (before after : String) (p : Printed) : Print :=
  if p.isAbsent then pure ()
  else do
    put before
    p.expr
    put after

/-- The node as an item of a list on one line. -/
def item (p : Printed) : Print := do
  p.print
  if !p.isAbsent then close p.node.span.stop

/-- The node as an expression in a list on one line. -/
def exprItem (p : Printed) : Print := do
  p.expr
  if !p.isAbsent then close p.node.span.stop

/-- The node as a statement. -/
def statement (p : Printed) : Print := do
  p.print
  if p.node.label != .block then
    trailing p.node.span.stop
    newline

end Printed

/-- The nodes that begin where an expression begins, the expression itself first. -/
def frontPath (n : Node) : List Node :=
  n.fold fun n inner =>
    n :: match n.label with
      | .call _ | .member _ | .index _ | .binary _ | .conditional | .sequence | .assign _ =>
        inner.headD []
      | _ => []

/-- Whether a comment in front of an operand would end the line. -/
def breaksLine (operand : Node) (p : Page) : Bool :=
  (frontPath operand).any fun n : Node => p.waiting.any fun c =>
    c.home == .leading n.span.start && (!c.isBlock || c.text.any isLineEnd)

/-- A word with an operand, which must begin on the word's line. -/
def wordWithOperand (word : String) (operand : Printed) : Print := do
  put word
  if !operand.isAbsent then
    if breaksLine operand.node (← get) then
      put "("
      operand.expr
      put ")"
    else
      put " "
      operand.expr

/-- Words in front of a function. -/
def functionWords (flags : FunctionFlags) : String :=
  (if flags.isAsync then "async " else "") ++ "function" ++ (if flags.isGenerator then "*" else "")

/-- Parameters in parentheses. -/
def printParams (params : List Printed) : Print := do
  put "("
  commas (params.map (·.item))
  put ")"

/-- Arguments in parentheses. -/
def printArguments (args : List Printed) : Print := do
  put "("
  commas (args.map (·.exprItem))
  put ")"

/-- Decorators, each on a line of its own. -/
def printDecorators (decorators : List Printed) : Print :=
  decorators.forM fun d => do
    d.print
    newline

/-- A unary operator with the blank that keeps it apart from its operand. -/
def unaryMark (op : String) (operand : Node) : String :=
  if op.length > 2 then op ++ " "
  else match operand.label with
    | .unary inner => if inner == op && (op == "+" || op == "-") then op ++ " " else op
    | .update inner true => if inner.startsWith op then op ++ " " else op
    | _ => op

/-- The text between the tags of an element as it is meant. -/
def elementValue (raw : String) : String :=
  String.ofList (Text.decodeEntities 0 (Text.plainLines raw.toList))

/-- The text between the marks of an import or an export. -/
def printSpecifiers (specs : List Printed) : Print :=
  if specs.isEmpty then put "\x7b \x7d"
  else do
    put "\x7b "
    commas (specs.map (·.item))
    put " \x7d"

/-- The source of a module and its attributes. -/
def printSource (source attributes : Printed) : Print := do
  source.print
  if !attributes.isAbsent then
    put " with "
    attributes.print

/-- The children of a node, by place, and of a child in turn. -/
structure Parts where
  node : Node
  kids : List Parts
  print : Print

namespace Parts

/-- A child, by place. -/
def at_ (p : Parts) (i : Nat) : Parts :=
  p.kids.getD i ⟨Node.absent 0, [], pure ()⟩

/-- The node with what prints it. -/
def whole (p : Parts) : Printed := ⟨p.node, p.print⟩

/-- A child with what prints it. -/
def kid (p : Parts) (i : Nat) : Printed := (p.at_ i).whole

/-- All children. -/
def all (p : Parts) : List Printed := p.kids.map (·.whole)

end Parts

/-- The members of a class in braces. -/
def printClassBody (body : Parts) : Print := do
  put " \x7b"
  lines "" (body.all.map (·.print))
  put "\x7d"

/-- A class behind its decorators. -/
def printClass (p : Parts) : Print := do
  put "class"
  if !(p.kid 1).isAbsent then
    put " "
    (p.kid 1).print
  (p.kid 2).between " extends " ""
  printClassBody (p.at_ 3)

/-- Parameters and body behind the name of a function. -/
def printFunctionTail (params body : Parts) : Print := do
  printParams params.all
  if body.node.isAbsent then put ";"
  else
    put " "
    body.print

/-- The words in front of the key of a method. -/
def methodWords (flags : MemberFlags) (fn : FunctionFlags) : String :=
  let word := match flags.sort with
    | .getter => "get "
    | .setter => "set "
    | .method => ""
  (if flags.isStatic then "static " else "") ++ word ++ (if fn.isAsync then "async " else "") ++
    (if fn.isGenerator then "*" else "")

/-- Whether a method is the constructor of its class. -/
def isConstructor (n : Node) : Bool :=
  match n.label with
  | .method flags => !flags.isStatic && flags.sort == .method && P.namesConstructor (n.kid 2)
  | _ => false

/-- The kind of a function that a node is. -/
def functionFlagsOf (n : Node) : FunctionFlags :=
  match n.label with
  | .function flags => flags
  | _ => {}

/-- A method of a class. -/
def printMethod (flags : MemberFlags) (p : Parts) : Print := do
  let fn := p.at_ 3
  if isConstructor p.node then
    put "constructor"
    printParams (fn.at_ 1).all
    (fn.kid 3).print
  else
    leading (p.kid 2).node.span.start
    printDecorators (p.at_ 0).all
    put (methodWords flags (functionFlagsOf fn.node))
    (p.kid 2).print
    printFunctionTail (fn.at_ 1) (fn.at_ 3)

/-- A method of an object. -/
def printObjectMethod (flags : MemberFlags) (p : Parts) : Print := do
  let fn := p.at_ 3
  put (methodWords flags (functionFlagsOf fn.node))
  (p.kid 2).print
  put " "
  printParams (fn.at_ 1).all
  match flags.sort with
  | .method => put (if (fn.kid 3).isAbsent then ";" else " ")
  | .getter => put " "
  | .setter => pure ()
  (fn.kid 3).print

/-- A case of a switch. -/
def printCase (p : Parts) : Print := do
  if (p.kid 0).isAbsent then put "default:"
  else
    put "case "
    (p.kid 0).expr
    put ":"
  let body := p.all.drop 1
  if !body.isEmpty then
    newline
    deeper (joined newline (body.map (·.statement)))

/-- The name and the default of a property without a value of its own, with a mark between them. -/
def printShorthand (mark : String) (p : Parts) : Print := do
  (p.kid 0).print
  (p.kid 1).between mark ""

/-- What stands in front of a dot or of arguments.  What `new` makes keeps the comments behind it
for later. -/
def printCallee (p : Printed) : Print :=
  if p.node.label == .new then p.print else p.expr

/-- Whether a number needs a dot of its own in front of another. -/
def endsInDigits (n : Node) : Bool :=
  match n.label with
  | .number raw =>
    let cs := raw.toList
    cs.all Char.isDigit && (cs.length < 2 || cs.head? != some '0')
  | _ => false

/-- Whether a node is a link of a chain that stops short at a missing value. -/
def isChainLink (n : Node) : Bool :=
  n.fold fun n inner =>
    match n.label with
    | .member isOptional | .index isOptional | .call isOptional => isOptional || inner.headD false
    | _ => false

/-- A member by name.  A comment right in front of the dot stays there. -/
def printMember (isOptional : Bool) (p : Parts) : Print := do
  let object := p.kid 0
  let name := p.kid 1
  let at_ := name.node.span.start
  let isPlain := !isChainLink p.node && object.node.label != .super
  match object.node.label with
  | .number _ => if isPlain then object.print else object.expr
  | _ => printCallee object
  if isOptional then put "?."
  else
    if isPlain && endsInDigits object.node then
      if 2 ≤ at_ then leading (at_ - 2)
      put "."
    if isPlain && 1 ≤ at_ then leading (at_ - 1)
    put "."
  name.print

/-- The word and the name of a namespace that stays as it is written. -/
def printNamespaceName (name : Parts) : Print := do
  match name.node.label with
  | .string _ => put "module "
  | .list => put "namespace "
  | _ => pure ()
  if name.node.label == .list then joined (put ".") (name.all.map (·.print)) else name.print

/-- A jump, with its label if it has one. -/
def printJump (word : String) (label : Printed) : Print := do
  put word
  if !label.isAbsent then
    put " "
    label.print
  put ";"

/-- What a node prints, its comments apart. -/
def printBody (p : Parts) : Print := do
  let k := p.kid
  let n := p.node
  let one (before : String) (i : Nat) (after : String) : Print := do
    put before
    (k i).expr
    put after
  match n.label with
  | .absent => pure ()
  | .list => p.all.forM (·.print)
  | .ident name _ => put name
  | .privateName name => put name
  | .this => put "this"
  | .invalid => put "<invalid>"
  | .super => put "super"
  | .null => put "null"
  | .bool value => put (if value then "true" else "false")
  | .number raw | .bigint raw | .string raw | .regex raw | .metaProperty raw => put raw
  | .chunk raw => put (String.ofList (Text.plainLines raw.toList))
  | .importRef => put "import"
  | .template =>
    put "`"
    p.all.forM fun piece =>
      match piece.node.label with
      | .chunk _ => piece.print
      | _ => do
        put "$\x7b"
        piece.expr
        put "\x7d"
    put "`"
  | .tagged =>
    (k 0).expr
    (k 1).print
  | .array =>
    let endsInHole := (p.all.getLast?.map (·.isAbsent)).getD false
    bracketed "[" "]" endsInHole (p.all.map (·.expr))
  | .object =>
    let isOpen := hasComment (.leading (n.span.stop - 1)) (← get)
    if p.kids.isEmpty && isOpen then
      put "\x7b"
      newline
      put "\x7d"
    else
      bracketed "\x7b" "\x7d" false (p.kids.map fun q =>
        match q.node.label with
        | .method flags => do
          leading q.node.span.start
          printObjectMethod flags q
        | .shorthand => do
          leading q.node.span.start
          printShorthand "=" q
        | _ => q.print)
  | .property =>
    (k 0).print
    one ": " 1 ""
  | .shorthand => printShorthand " = " p
  | .spread | .rest => one "..." 0 ""
  | .computedKey => one "[" 0 "]"
  | .function flags =>
    put (functionWords flags)
    if !(k 0).isAbsent then
      put " "
      (k 0).print
    printFunctionTail (p.at_ 1) (p.at_ 3)
  | .functionDecl flags =>
    put (functionWords flags)
    put " "
    (k 0).print
    printFunctionTail (p.at_ 1) (p.at_ 3)
  | .arrow isAsync =>
    put (if isAsync then "async " else "")
    printParams (p.at_ 0).all
    put "=>"
    if (k 2).node.label == .block then (k 2).print else deeper (k 2).expr
  | .classDecl _ | .classExpr =>
    printDecorators (p.at_ 0).all
    printClass p
  | .unary op => one (unaryMark op (k 0).node) 0 ""
  | .update op true => one op 0 ""
  | .update op false => one "" 0 op
  | .binary op =>
    (k 0).expr
    put " "
    put op
    put " "
    (k 1).expr
  | .assign op =>
    (k 0).print
    put " "
    put op
    put " "
    (k 1).expr
  | .conditional =>
    (k 0).expr
    one " ? " 1 " : "
    (k 2).expr
  | .call isOptional =>
    printCallee (k 0)
    if isOptional then put "?."
    printArguments (p.at_ 1).all
  | .new =>
    one "new " 0 ""
    if !(k 1).isAbsent then printArguments (p.at_ 1).all
  | .arguments => pure ()
  | .member isOptional => printMember isOptional p
  | .index isOptional =>
    printCallee (k 0)
    put (if isOptional then "?.[" else "[")
    (k 1).expr
    put "]"
  | .sequence => commas (p.all.map (·.expr))
  | .paren => one "(" 0 ")"
  | .yield isDelegate => wordWithOperand (if isDelegate then "yield*" else "yield") (k 0)
  | .await => one "await " 0 ""
  | .decorator => one "@" 0 ""
  -- Elements
  | .element => p.all.forM (·.print)
  | .openTag selfClosing =>
    put "<"
    (k 0).print
    (p.all.drop 1).forM fun a => do
      put " "
      a.item
    put (if selfClosing then "/>" else ">")
  | .closeTag =>
    put "</"
    (k 0).print
    put ">"
  | .elementName raw => put raw
  | .elementText raw => put (elementValue raw)
  | .attribute =>
    (k 0).print
    if !(k 1).isAbsent then
      put "="
      (k 1).print
  | .spreadAttribute => one "\x7b..." 0 "\x7d"
  | .elementExpr =>
    put "\x7b"
    if (k 0).isAbsent then trailing (n.span.start + 1) else (k 0).expr
    put "\x7d"
  -- Patterns
  | .objectPattern =>
    if p.kids.isEmpty then put "\x7b\x7d" else printSpecifiers p.all
  | .arrayPattern =>
    put "["
    -- Holes at the end change nothing.
    commas ((p.all.reverse.dropWhile (·.isAbsent)).reverse.map (·.exprItem))
    put "]"
  | .assignPattern =>
    (k 0).expr
    one " = " 1 ""
  | .params => printParams p.all
  | .param _ =>
    let decorators := (p.at_ 0).all
    if !decorators.isEmpty then
      newline
      printDecorators decorators
    (k 1).expr
    -- A type behind a pattern counts as a part of it.
    if (k 3).isAbsent && (k 1).node.name?.isNone then trailing n.span.stop
    (k 3).between " = " ""
  -- Statements
  | .program => pure ()
  | .block => braced n.span (p.all.map (·.statement))
  | .empty => put ";"
  | .exprStmt => one "" 0 ";"
  | .variable word =>
    put word
    put " "
    commas (p.all.map (·.item))
  | .declarator =>
    (k 0).expr
    (k 2).between " = " ""
  | .ifStmt =>
    one "if (" 0 ") "
    (k 1).statement
    if !(k 2).isAbsent then
      if (k 1).node.label == .block then put " "
      put "else "
      (k 2).statement
  | .forStmt =>
    put "for("
    (k 0).expr
    put ";"
    (k 1).between " " ""
    put ";"
    (k 2).between " " ""
    put ")"
    (k 3).statement
  | .forIn =>
    one "for(" 0 " in "
    one "" 1 ")"
    (k 2).statement
  | .forOf isAwait =>
    one (if isAwait then "for await (" else "for (") 0 " of "
    one "" 1 ")"
    (k 2).statement
  | .whileStmt =>
    one "while(" 0 ")"
    (k 1).statement
  | .doWhile =>
    put "do "
    (k 0).statement
    one "while (" 1 ")"
  | .switch =>
    one "switch(" 0 ")\x7b"
    lines "" (p.all.drop 1 |>.map (·.print))
    put "\x7d"
  | .caseClause => printCase p
  | .try =>
    put "try "
    (k 0).print
    if !(k 1).isAbsent then
      put " "
      (k 1).print
    if !(k 2).isAbsent then
      put " finally"
      (k 2).print
  | .catchClause =>
    put "catch "
    (k 0).between "(" ")"
    put " "
    (k 2).print
  | .throw =>
    wordWithOperand "throw" (k 0)
    put ";"
  | .return =>
    wordWithOperand "return" (k 0)
    put ";"
  | .break => printJump "break" (k 0)
  | .continue => printJump "continue" (k 0)
  | .labeled =>
    (k 0).print
    put ": "
    (k 1).statement
  | .debugger => put "debugger;"
  | .with =>
    one "with (" 0 ")"
    (k 1).statement
  | .loneEnum isConst =>
    put (if isConst then "const enum " else "enum ")
    (k 0).print
    put " \x7b"
    lines "," ((p.all.drop 1).map (·.print))
    put "\x7d"
  | .enumMember =>
    (k 0).print
    (k 1).between " = " ""
  | .loneNamespace =>
    printNamespaceName (p.at_ 0)
    put " "
    (k 1).print
  -- Class members
  | .classBody => pure ()
  | .method flags => printMethod flags p
  | .field flags =>
    printDecorators (p.at_ 0).all
    if flags.isStatic then put "static "
    if flags.isAccessor then put "accessor "
    (k 2).print
    (k 4).between " = " ""
    put ";"
  | .staticBlock => do
    put "static"
    (k 0).print
  -- Modules
  | .importDecl _ phase =>
    put (match phase with
      | .evaluation => "import "
      | .source => "import source "
      | .defer => "import defer ")
    let specs := (p.at_ 0).all
    if !specs.isEmpty then
      let isNamed := fun s : Printed => match s.node.label with
        | .importSpec _ => true
        | _ => false
      let named := specs.filter isNamed
      let others := specs.filter (!isNamed ·)
      commas (others.map (·.print) ++ if named.isEmpty then [] else [printSpecifiers named])
      put " from "
    printSource (k 1) (k 2)
    put ";"
  | .importSpec _ | .exportSpec _ =>
    (k 0).print
    if !(k 1).isAbsent then
      put " as "
      (k 1).print
  | .importDefault => (k 0).print
  | .importNamespace =>
    put "* as "
    (k 0).print
  | .importEquals isExport _ =>
    put (if isExport then "export import " else "import ")
    (k 0).print
    put " = "
    (k 1).print
    put ";"
  | .externalModule =>
    put "require("
    (k 0).print
    put ")"
  | .exportNamed _ =>
    put "export "
    printSpecifiers (p.at_ 0).all
    if !(k 1).isAbsent then
      put " from "
      printSource (k 1) (k 2)
    put ";"
  | .exportAll _ =>
    put "export *"
    if !(k 0).isAbsent then
      put " as "
      (k 0).print
    put " from "
    printSource (k 1) (k 2)
    put ";"
  | .exportDecl =>
    let d := p.at_ 1
    match d.node.label with
    | .classDecl _ =>
      printDecorators (d.at_ 0).all
      put "export "
      leading d.node.span.start
      printClass d
    | _ =>
      put "export "
      d.print
  | .exportDefault =>
    put "export default "
    (k 1).print
  | .exportValue => one "export default " 1 ";"
  | .exportAssign => one "export = " 0 ""
  | _ => pure ()

/-- A statement that is not closed by itself gets a semicolon. -/
def needsSemicolon (n : Node) : Bool :=
  match n.label with
  | .variable _ => true
  | .exportDecl => (match (n.kid 1).label with
    | .variable _ => true
    | _ => false)
  | _ => false

/-- Whether a node is a declaration of variables in the head of a loop. -/
def isHead (parent : Node) (i : Nat) : Bool :=
  match parent.label with
  | .forStmt | .forIn | .forOf _ => i == 0
  | _ => false

/-- The parts of a tree. -/
def parts (n : Node) : Parts :=
  n.fold fun n kids =>
    let kids := kids.zipIdx.map fun (kid, i) =>
      if needsSemicolon kid.node && !isHead n i && n.label != .exportDecl then
        { kid with print := (do kid.print; put ";" : Print) }
      else kid
    let p : Parts := ⟨n, kids, pure ()⟩
    if n.label == .absent then p else { p with print := (do leading n.span.start; printBody p : Print) }

/-- Prints a whole script. -/
def printScript (hashbang : Text) (root : Parts) : Print := do
  -- The first comments belong to the script as a whole.
  leading root.node.span.start
  if !hashbang.isEmpty then
    put (String.ofList hashbang)
    newline
  root.kids.forM fun p => p.whole.statement
  trailing root.node.span.stop

/-- The text of a script with its comments. -/
def render (hashbang : Text) (comments : List Comment) (root : Node) : String :=
  let page : Page := ⟨"", 0, true, comments⟩
  ((printScript hashbang (parts root)).run page).2.text

end TypedDocs.Script
