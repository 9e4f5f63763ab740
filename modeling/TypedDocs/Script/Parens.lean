/-
  Parentheses where the printed script needs them.

  The parentheses of the text are dropped, whatever they were for, and an
  expression gets new ones by where it stands: the rules below say for each
  place which expressions cannot stand there bare.  New parentheses take the
  place of old ones if there were any; where old ones go, the comments at their
  ends move to what stands inside.
-/

import TypedDocs.Script.Parser

namespace TypedDocs.Script

namespace Parens

/-! ## Where an expression stands -/

/-- How an expression stands to what is around it. -/
inductive Position where
  /-- At the front of a statement or of the body of an arrow function. -/
  | front
  /-- In front of arguments. -/
  | callee (ofNew : Bool)
  /-- Where a comma would end it. -/
  | item
  /-- Where nothing around it matters. -/
  | free
  deriving DecidableEq, Repr

/-- What is around an expression. -/
structure Around where
  position : Position
  /-- Whether it stands in the head of a loop, where `in` has a meaning of its own. -/
  inLoopHead : Bool
  /-- Whether it stands in a chain of members that stops short at a missing value. -/
  inChain : Bool

namespace Around

/-- The same place, seen from another position. -/
def at_ (a : Around) (position : Position) : Around := { a with position := position }

/-- The same place outside the head of any loop. -/
def outsideHead (a : Around) : Around := { a with inLoopHead := false }

end Around

/-! ## Nodes without parentheses -/

/-- A move of comments from the ends of one span to those of another. -/
abbrev Move := Span × Span

/-- A node that has been through the pass. -/
structure Fixed where
  node : Node
  /-- The parentheses that stood around it, the outermost first. -/
  outer : List Span
  /-- The moves that the parts of the node call for. -/
  moves : List Move
  /-- Whether it needs parentheses where it stands. -/
  needs : Bool

namespace Fixed

/-- A node that is not written. -/
def absent : Fixed := ⟨Node.absent 0, [], [], false⟩

/-- Puts parentheses around a node that has none yet: the innermost of those it had, or new ones. -/
def wrap (f : Fixed) : Fixed :=
  if f.node.label == .paren then f
  else ⟨⟨.paren, f.outer.getLast?.getD f.node.span, [f.node]⟩, f.outer.dropLast, f.moves, false⟩

/-- Puts parentheses around a node if a condition holds. -/
def wrapIf (condition : Bool) (f : Fixed) : Fixed :=
  if condition then f.wrap else f

/-- The moves from each span to the next. -/
def movesAlong : List Span → List Move
  | a :: b :: rest => (a, b) :: movesAlong (b :: rest)
  | _ => []

/-- All moves for a node that gets no further parentheses. -/
def allMoves (f : Fixed) : List Move :=
  movesAlong (f.outer ++ [f.node.span]) ++ f.moves

/-- A node of parts that have been through the pass. -/
def ofParts (n : Node) (parts : List Fixed) : Fixed :=
  ⟨{ n with kids := parts.map (·.node) }, [], parts.flatMap (·.allMoves), false⟩

/-- The label of the node. -/
def label (f : Fixed) : Kind := f.node.label

end Fixed

/-- A node on its way through the pass. -/
structure Pass where
  node : Node
  /-- Whether it is a chain that stops short at a missing value. -/
  isChain : Bool
  /-- The node, by what is around its parts and what is around itself. -/
  run : Around → Around → Fixed

namespace Pass

/-- A node that is not written. -/
def absent : Pass := ⟨Node.absent 0, false, fun _ _ => Fixed.absent⟩

/-- Whether the first part of an expression stands at the front if the expression does. -/
def keepsFront : Kind → Bool
  | .member _ | .index _ | .binary _ | .assign _ | .sequence | .conditional | .tagged
  | .update _ false => true
  | .call isOptional => isOptional
  | _ => false

/-- The node where it stands. -/
def visit (p : Pass) (a : Around) : Fixed :=
  let keeps := keepsFront p.node.label || (p.isChain && p.node.label != .paren)
  let below := if a.position == .front && !keeps then a.at_ .free else a
  let f := p.run below a
  f.wrapIf f.needs

end Pass

/-! ## Shapes of expressions -/

/-- Expressions that begin like a declaration or a block. -/
def opensStatement : Kind → Bool
  | .object | .function _ | .classExpr => true
  | _ => false

/-- Literals. -/
def isLiteral : Kind → Bool
  | .number _ | .bigint _ | .string _ | .regex _ | .bool _ | .null => true
  | _ => false

/-- Whether a node is an operation on two operands. -/
def isBinary : Kind → Bool
  | .binary _ => true
  | _ => false

/-- Whether a node is an assignment. -/
def isAssign : Kind → Bool
  | .assign _ => true
  | _ => false

/-- Whether a node is an arrow function. -/
def isArrow : Kind → Bool
  | .arrow _ => true
  | _ => false

/-- Whether a node is a function. -/
def isFunction : Kind → Bool
  | .function _ => true
  | _ => false

/-- Whether a node is a call that does not stop short. -/
def isCall : Kind → Bool
  | .call _ => true
  | _ => false

/-- Expressions that bind less tightly than any operator between two operands. -/
def isLoose : Kind → Bool
  | .assign _ | .conditional | .arrow _ | .yield _ | .sequence => true
  | _ => false

/-- Whether an expression assigns to a pattern. -/
def assignsPattern (n : Node) (isPattern : Kind → Bool) : Bool :=
  isAssign n.label && isPattern (n.kid 0).label

/-! ## Operators -/

/-- Operators that need not evaluate their right operand. -/
def isShortCircuit (op : String) : Bool :=
  op == "&&" || op == "||" || op == "??"

/-- Operators that compare for equality. -/
def isEquality (op : String) : Bool :=
  op == "==" || op == "!=" || op == "===" || op == "!=="

/-- Whether the left operand of an operator needs parentheses. -/
def leftNeeds (op : String) : Kind → Bool
  | .binary "??" => op != "??"
  | .binary inner =>
    P.precedenceOf inner < P.precedenceOf op || (op == "**" && inner == "**") ||
      (op == "??" && (inner == "||" || inner == "&&"))
  | .unary "void" => !isEquality op
  | .unary "delete" => true
  | .unary _ => op == "**"
  | .object => op == "instanceof" || isEquality op
  | label => isLoose label

/-- Whether the right operand of an operator needs parentheses. -/
def rightNeeds (op : String) : Kind → Bool
  | .binary inner =>
    if inner == op then !isShortCircuit op && op != "**"
    else P.precedenceOf inner ≤ P.precedenceOf op ||
      (op == "??" && (inner == "||" || inner == "&&"))
  | label => isLoose label

/-! ## Sequences -/

/-- An expression without `void` in front of it. -/
def stripVoid (n : Node) : Node :=
  n.fold fun n inner =>
    match n.label, inner with
    | .unary "void", e :: _ => e
    | _, _ => n

/-- Values that do nothing when they are evaluated. -/
def isInert : Kind → Bool
  | .function _ | .arrow _ => true
  | label => isLiteral label

/-- Drops inert values that nothing looks at, but for the first of them. -/
def dropInert : Bool → List Node → List Node
  | _, [] => []
  | _, [last] => [last]
  | seen, e :: rest =>
    let e := stripVoid e
    if isInert e.label then
      if seen then dropInert true rest else e :: dropInert true rest
    else e :: dropInert seen rest

/-- The items of a sequence that matter, its inner sequences taken apart. -/
def sequenceItems (items : List Node) : List Node :=
  let flat := items.flatMap fun e : Node => if e.label == .sequence then e.kids else [e]
  let kept := dropInert false flat
  if kept.length > 2 then
    kept.dropLast.filter (fun e : Node => !isInert e.label) ++ kept.getLast?.toList
  else kept

/-- A sequence from its parts. -/
def fixSequence (n : Node) (parts : List Fixed) (a : Around) : Fixed :=
  let f := Fixed.ofParts n parts
  match sequenceItems f.node.kids with
  | [e] => { f with node := e }
  | items =>
    let inCallee := match a.position with
      | .callee _ => true
      | _ => false
    { f with node := { n with kids := items }, needs := a.position == .item || inCallee }

/-! ## Calls and members -/

/-- Whether an expression in front of arguments needs parentheses. -/
def calleeNeeds : Kind → Bool
  | .number _ | .string _ => false
  | .conditional | .binary _ | .unary _ | .object | .await | .yield _ | .update _ _ | .assign _
  | .arrow _ => true
  | label => isLiteral label

/-- Whether an expression in front of a dot needs parentheses. -/
def objectNeeds (n : Node) : Bool :=
  match n.label with
  | .function _ | .conditional | .unary _ | .sequence | .update _ _ | .binary _ | .object
  | .assign _ | .arrow _ | .classExpr | .yield _ | .await => true
  | .new => (n.kid 1).isAbsent
  | _ => false

/-- Whether the tag of a template needs parentheses. -/
def tagNeeds : Kind → Bool
  | .arrow _ | .conditional | .binary _ | .sequence | .function _ | .assign _ | .unary _ => true
  | _ => false

/-- Whether the class behind `new` needs parentheses. -/
def newNeeds : Kind → Bool
  | .call _ | .importRef | .await | .yield _ | .binary _ | .assign _ | .sequence | .unary _
  | .conditional => true
  | label => isLiteral label

/-- Whether the parent of a class needs parentheses. -/
def parentNeeds : Kind → Bool
  | .sequence | .await | .yield _ | .binary _ | .assign _ | .conditional | .unary _ => true
  | _ => false

/-- Whether the operand of a prefix operator needs parentheses. -/
def operandNeeds (label : Kind) : Bool :=
  isLoose label || isBinary label

/-- Whether the operand of `++` or `--` needs parentheses. -/
def updateNeeds (isPrefix : Bool) : Kind → Bool
  | .call _ => true
  | .update _ _ | .unary "+" => isPrefix
  | _ => false

/-- Whether what `await` waits for needs parentheses. -/
def awaitedNeeds : Kind → Bool
  | .conditional | .assign _ | .binary _ | .yield _ => true
  | _ => false

/-! ## Statements -/

/-- Whether an `else` behind a statement would become a part of it. -/
def takesElse (n : Node) : Bool :=
  n.fold fun (n : Node) inner =>
    match n.label with
    | .ifStmt => (n.kid 2).isAbsent || inner.getD 2 false
    | .labeled | .whileStmt | .forStmt | .forIn | .forOf _ => inner.getLast?.getD false
    | _ => false

/-- Whether an expression cannot stand at the front of a statement. -/
def cannotOpen (n : Node) : Bool :=
  opensStatement n.label || assignsPattern n (· == .objectPattern)

/-- An expression as a statement. -/
def fixStatement (f : Fixed) : Fixed :=
  if cannotOpen f.node then f.wrap
  else match f.label with
    | .sequence =>
      let guard (e : Node) : Node := if cannotOpen e then ⟨.paren, e.span, [e]⟩ else e
      { f with node := { f.node with
        kids := f.node.kids.dropLast.map guard ++ f.node.kids.getLast?.toList } }
    | _ => f

/-- An expression as the body of an arrow function. -/
def fixBody (f : Fixed) : Fixed :=
  f.wrapIf (f.label == .object || f.label == .sequence ||
    assignsPattern f.node fun label => label == .objectPattern || label == .arrayPattern)

/-- An expression that a script exports. -/
def fixExported (f : Fixed) : Fixed :=
  f.wrapIf (isArrow f.label || f.label == .sequence)

/-- What a loop stores values in.  A word that would open a function of its own keeps its
parentheses. -/
def fixLoopTarget (isAwait : Bool) (written : Node) (f : Fixed) : Fixed :=
  f.wrapIf (!isAwait && written.label == .paren && f.node.name? == some "async")

/-! ## The pass -/

/-- A call, from what is called and the arguments. -/
def fixCall (n : Node) (isChain : Bool) (k : Nat → Pass) (below a : Around) : Fixed :=
  let c := (k 0).visit { (below.at_ (.callee false)) with inChain := below.inChain || isChain }
  let short := (k 0).isChain && !isChain && !below.inChain
  let bare := (isFunction c.label || c.label == .classExpr) &&
    (a.position == .front || a.position == .callee false)
  let f := Fixed.ofParts n
    [c.wrapIf (short || calleeNeeds c.label || bare), (k 1).visit (below.at_ .item)]
  { f with needs := isFunction c.label && a.position == .callee true }

/-- A member, from the object and the name or expression. -/
def fixMember (n : Node) (isChain : Bool) (k : Nat → Pass) (below : Around) : Fixed :=
  let below := { below with inChain := below.inChain || isChain }
  let o := (k 0).visit below
  let short := (k 0).isChain && !isChain && !below.inChain
  let ofNew := isCall o.label && below.position == .callee true
  let key := match n.label with
    | .index _ => (k 1).visit (below.at_ .free).outsideHead
    | _ => (k 1).visit below
  Fixed.ofParts n [o.wrapIf (short || ofNew || objectNeeds o.node), key]

/-- The run of a node, from those of its children. -/
def run (n : Node) (isChain : Bool) (kids : List Pass) (below a : Around) : Fixed :=
  let k (i : Nat) : Pass := kids.getD i .absent
  let plain (a : Around) : Fixed := Fixed.ofParts n (kids.map (·.visit a))
  let only (f : Fixed) : Fixed := Fixed.ofParts n [f]
  match n.label with
  | .paren =>
    let f := (k 0).run below a
    { f with outer := n.span :: f.outer }
  | .array | .arguments =>
    Fixed.ofParts n (kids.map fun p =>
      let f := p.visit (below.at_ .item).outsideHead
      f.wrapIf (match f.label with
        | .yield _ => true
        | _ => false))
  | .arrow _ =>
    let inner := below.at_ .front
    let body := (k 2).visit inner
    Fixed.ofParts n [(k 0).visit inner, (k 1).visit inner,
      if body.label == .block then body else fixBody body]
  | .assign _ =>
    let value := (k 1).visit (below.at_ .free)
    let f := Fixed.ofParts n [(k 0).visit below, value.wrapIf (value.label == .sequence)]
    { f with needs := a.position == .callee true }
  | .assignPattern =>
    let value := (k 1).visit below.outsideHead
    Fixed.ofParts n [(k 0).visit below, value.wrapIf (value.label == .sequence)]
  | .await =>
    let f := (k 0).visit (below.at_ .item)
    only (f.wrapIf (awaitedNeeds f.label))
  | .binary op =>
    let left := (k 0).visit below
    let right := (k 1).visit (below.at_ .free)
    let opens := a.position == .front && opensStatement left.label
    let f := Fixed.ofParts n
      [left.wrapIf (leftNeeds op left.label || opens), right.wrapIf (rightNeeds op right.label)]
    { f with needs := op == "in" && a.inLoopHead }
  | .call _ => fixCall n isChain k below a
  | .member _ | .index _ => fixMember n isChain k below
  | .classDecl _ | .classExpr =>
    let parent := (k 2).visit (below.at_ .front)
    Fixed.ofParts n [(k 0).visit below, (k 1).visit below,
      parent.wrapIf (parentNeeds parent.label), (k 3).visit below]
  | .computedKey =>
    let f := (k 0).visit below.outsideHead
    only (f.wrapIf (f.label == .sequence))
  | .conditional =>
    let test := (k 0).visit below
    let branch (i : Nat) : Fixed :=
      let f := (k i).visit (below.at_ .free)
      f.wrapIf (f.label == .sequence)
    let opens := a.position == .front && opensStatement test.label
    let f := Fixed.ofParts n [test.wrapIf (isLoose test.label || opens), branch 1, branch 2]
    { f with needs := a.position == .callee true }
  | .new =>
    let c := (k 0).visit (below.at_ (.callee true))
    Fixed.ofParts n [c.wrapIf (newNeeds c.label && !(k 0).isChain), (k 1).visit (below.at_ .item)]
  | .property | .declarator | .spread | .yield _ => plain (below.at_ .item)
  | .sequence =>
    let parts := kids.zipIdx.map fun (p, i) =>
      p.visit (if i == 0 then below else below.at_ .free)
    fixSequence n parts a
  | .tagged =>
    let tag := (k 0).visit below
    Fixed.ofParts n [tag.wrapIf ((k 0).isChain || tagNeeds tag.label), (k 1).visit below]
  | .unary _ =>
    let f := (k 0).visit (below.at_ .free)
    only (f.wrapIf (operandNeeds f.label))
  | .update _ isPrefix =>
    let f := (k 0).visit below
    only (f.wrapIf (updateNeeds isPrefix f.label))
  | .shorthand | .param _ | .field _ =>
    let inner := (below.at_ .free).outsideHead
    Fixed.ofParts n (kids.map fun p =>
      let f := p.visit inner
      f.wrapIf (f.label == .sequence))
  | .arrayPattern | .block | .object | .template => plain below.outsideHead
  | .exprStmt => only (fixStatement ((k 0).visit (below.at_ .front)))
  | .exportValue =>
    Fixed.ofParts n [(k 0).visit below, fixExported ((k 1).visit (below.at_ .front))]
  | .forStmt =>
    let free := below.at_ .free
    Fixed.ofParts n [(k 0).visit { free with inLoopHead := true }, (k 1).visit free,
      (k 2).visit free, (k 3).visit free]
  | .forIn =>
    let free := below.at_ .free
    Fixed.ofParts n [(k 0).visit { free with inLoopHead := true }, (k 1).visit free, (k 2).visit free]
  | .forOf isAwait =>
    let free := below.at_ .free
    let left := (k 0).visit { free with inLoopHead := true }
    let right := (k 1).visit free
    Fixed.ofParts n [fixLoopTarget isAwait (n.kid 0) left,
      right.wrapIf (right.label == .sequence || right.label == .await), (k 2).visit free]
  | .ifStmt =>
    let f := plain (below.at_ .free)
    let yes := f.node.kid 1
    let yes : Node := if takesElse yes then ⟨.block, yes.span, [yes]⟩ else yes
    { f with node := { f.node with kids := [f.node.kid 0, yes, f.node.kid 2] } }
  | .variable _ | .whileStmt | .doWhile | .switch | .caseClause | .try | .throw | .return
  | .labeled | .with | .functionDecl _ => plain (below.at_ .free)
  | _ => plain below

/-- One step of the pass. -/
def step (n : Node) (kids : List Pass) : Pass :=
  let first := kids.headD .absent
  let isChain := match n.label with
    | .member isOptional | .index isOptional | .call isOptional =>
      isOptional || (first.isChain && first.node.label != .paren)
    | .paren => first.isChain
    | _ => false
  ⟨n, isChain, run n isChain kids⟩

end Parens

open Parens

/-- A tree with the parentheses it needs and no others, and the moves of comments
in the order in which they are made. -/
def parenthesize (n : Node) : Node × List Move :=
  let f := (n.fold step).visit ⟨.free, false, false⟩
  (f.node, f.allMoves.reverse)

/-- Moves a comment from the ends of one span to those of another. -/
def CommentHome.moveTo (home : CommentHome) (move : Move) : CommentHome :=
  match home with
  | .leading p => if p == move.1.start then .leading move.2.start else home
  | .trailing p => if p == move.1.stop then .trailing move.2.stop else home

/-- The comments of a script once moves are made. -/
def moveComments (moves : List Move) (comments : List Comment) : List Comment :=
  let moves := moves.filter fun m => m.1 != m.2
  comments.map fun c => { c with home := moves.foldl CommentHome.moveTo c.home }

end TypedDocs.Script
