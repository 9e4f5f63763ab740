/-
  Decorators as calls.

  A decorated member is followed, behind its class, by a call that hands its
  decorators the class, the key and the descriptor; the decorators of the class
  itself come last and may replace it.  A decorator of a parameter counts as
  one of its method, and one of the constructor's parameters as one of the
  class.
-/

import TypedDocs.Script.Lower.Erase
import TypedDocs.Script.Lower.Library
import TypedDocs.Script.Printer

namespace TypedDocs.Script.Lower

open Node (made)

/-! ## Calls -/

/-- An expression without the spans of its calls and members, so that no comment
finds its place in it. -/
def unspanned (e : Node) : Node :=
  e.fold fun n inner =>
    match n.label, inner with
    | .call _, _ | .member _, _ | .arguments, _ => ⟨n.label, ⟨0, 0⟩, inner⟩
    | .ident _ _, _ => ⟨n.label, ⟨0, 0⟩, []⟩
    | _, _ => { n with span := ⟨0, 0⟩ }

/-- The expression of a decorator. -/
def decoratorExpr (d : Node) : Node :=
  unspanned (d.kid 0)

/-- The decorators that a list or nothing holds. -/
def decoratorsOf (list : Node) : List Node :=
  list.kids.map decoratorExpr

/-- The decorators of the parameters of a function. -/
def paramDecorators (h : Helpers) (fn : Node) : List Node :=
  (fn.kid 1).kids.zipIdx.flatMap fun (p, i) =>
    (decoratorsOf (Node.kid p 0)).map fun d =>
      call (ref h.param) [made (.number (toString i)) [], d]

/-- The parameters without their decorators. -/
def plainParams (fn : Node) : Node :=
  let params := fn.kid 1
  let plain : Node := { params with
    kids := params.kids.map fun p : Node => { p with kids := Node.absent 0 :: p.kids.drop 1 } }
  { fn with kids := [fn.kid 0, plain, fn.kid 2, fn.kid 3] }

/-- A call that decorates. -/
def decorateCall (h : Helpers) (decorators : List Node) (rest : List Node) : Node :=
  call (ref h.decorate) (made .array decorators :: rest)

/-! ## Members -/

/-- A member or a class without decorators, and what has to be done for those it had. -/
structure Undecorated where
  node : Node
  /-- Keys to work out before the class. -/
  keys : List Node
  /-- Calls behind the class. -/
  calls : List Node
  /-- Names that were made for keys. -/
  names : List Binding

/-- A node with nothing to be done for it. -/
def Undecorated.plain (n : Node) : Undecorated := ⟨n, [], [], []⟩

/-- A key of a member, with its value and what keeps the value in a variable if the key is
computed. -/
structure Key where
  node : Node
  value : Node
  kept : List Node
  names : List Binding

/-- The key of a member as a value. -/
def keyValue (key : Node) : Key :=
  match key.label with
  | .ident name _ => ⟨key, stringOf name.toList, [], []⟩
  | .computedKey =>
    if isLiteral (key.kid 0) then ⟨key, unspanned (key.kid 0), [], []⟩
    else
      let b : Binding := ("_key", Scope.ofKey key.span.start)
      ⟨{ key with kids := [ref b] }, ref b, [assign (ref b) (key.kid 0)], [b]⟩
  | _ => ⟨key, unspanned key, [], []⟩

/-- Whether a key is private. -/
def isPrivate (key : Node) : Bool :=
  match key.label with
  | .privateName _ => true
  | _ => false

/-- Whether a member's decorators can be called from outside of its class. -/
def isReachable (m : Node) : Bool :=
  match m.label with
  | .method _ => !isPrivate (m.kid 2)
  | .field flags => !isPrivate (m.kid 2) && !flags.isAccessor
  | _ => false

/-- A member without its decorators; `decorators` are its own and those of its parameters. -/
def decorateMember (h : Helpers) (className : Binding) (isStatic : Bool) (descriptor : Node)
    (decorators : List Node) (m : Node) : Undecorated :=
  let bare (key : Node) : Node :=
    { m with kids := [Node.absent 0, m.kid 1, key] ++ m.kids.drop 3 }
  if decorators.isEmpty || !isReachable m then .plain (bare (m.kid 2))
  else
    let key := keyValue (m.kid 2)
    let target := if isStatic then ref className else dot (ref className) "prototype"
    ⟨bare key.node, key.kept, [decorateCall h decorators [target, key.value, descriptor]], key.names⟩

/-- One member of a class.  Decorators of a field that is out of reach stay. -/
def lowerMember (h : Helpers) (className : Binding) (m : Node) : Undecorated :=
  match m.label with
  | .method flags =>
    let fn := m.kid 3
    let plain : Node := { m with kids := m.kids.take 3 ++ [plainParams fn] }
    if isConstructor m then .plain plain
    else
      decorateMember h className flags.isStatic (made .null [])
        (decoratorsOf (m.kid 0) ++ paramDecorators h fn) plain
  | .field flags =>
    if isReachable m then decorateMember h className flags.isStatic void0 (decoratorsOf (m.kid 0)) m
    else .plain m
  | _ => .plain m

/-- The decorators of the parameters of a class's constructor. -/
def constructorDecorators (h : Helpers) (body : Node) : List Node :=
  (body.kids.filter isConstructor).flatMap fun m : Node => paramDecorators h (m.kid 3)

/-- Whether a class has any decorator. -/
def isDecorated (c : Node) : Bool :=
  let members := (c.kid 3).kids
  !(c.kid 0).kids.isEmpty || members.any fun m : Node => isReachable m && hasDecorators m

/-! ## Classes -/

/-- A class without decorators. -/
def lowerClass (h : Helpers) (name : Binding) (c : Node) : Undecorated :=
  let body := c.kid 3
  let members := body.kids.map (lowerMember h name)
  let own := decoratorsOf (c.kid 0) ++ constructorDecorators h body
  let last := if own.isEmpty then []
    else [assign (ref name) (decorateCall h own [ref name])]
  ⟨{ c with kids := [Node.absent 0, c.kid 1, c.kid 2, { body with kids := members.map (·.node) }] },
    members.flatMap (·.keys), members.flatMap (·.calls) ++ last, members.flatMap (·.names)⟩

/-- Names a decorated class that is exported without a name. -/
def nameDefaults (root : Node) : Node :=
  root.mapUp fun n : Node =>
    match n.label, (n.kid 1).label with
    | .exportDefault, .classExpr =>
      let c := n.kid 1
      if isDecorated c then
        let b : Binding := ("_class", Scope.ofClass c.span.start)
        let named : Node := { c with label := .classDecl false, kids := c.kid 0 :: ref b :: c.kids.drop 2 }
        { n with kids := [n.kid 0, named] }
      else n
    | _, _ => n

/-- Lowers the decorators of a node whose children have none. -/
def decorateStep (h : Helpers) (n : Node) (kids : List Lowered) : Lowered :=
  let l := Lowered.around n kids
  match n.label with
  | .classDecl _ =>
    let c := lowerClass h (bindingOf (l.node.kid 1)) l.node
    ⟨c.node, l.before ++ c.keys.map statement, l.after ++ c.calls.map statement, l.names ++ c.names⟩
  | .classExpr =>
    if isDecorated l.node then
      let b : Binding := ("_class", Scope.ofClass n.span.start)
      let c := lowerClass h b l.node
      { l with
        node := made .sequence (c.keys ++ assign (ref b) c.node :: c.calls ++ [ref b])
        names := l.names ++ b :: c.names }
    else l
  | _ => l

/-- Moves the decorators in front of an export to the class that is exported. -/
def attachDecorators (root : Node) : Node :=
  root.mapUp fun n : Node =>
    match n.label with
    | .exportDecl | .exportDefault =>
      let c := n.kid 1
      let isClass := match c.label with
        | .classDecl _ | .classExpr => true
        | _ => false
      if isClass && !(n.kid 0).kids.isEmpty then
        let list := made .list ((n.kid 0).kids ++ (c.kid 0).kids)
        { n with kids := [Node.absent 0, { c with kids := list :: c.kids.drop 1 }] }
      else n
    | _ => n

/-- A script without decorators.  Scopes up to `h.base` are taken. -/
def lowerDecorators (h : Helpers) (root : Node) : Node :=
  let lowered := (nameDefaults root).fold (decorateStep h)
  let vars := if lowered.names.isEmpty then [] else [declareVars "var" lowered.names]
  { lowered.node with kids := prepend vars lowered.node.kids }

end TypedDocs.Script.Lower
