/-
  Parameters that declare properties.

  Such a parameter of a constructor becomes a field of its class and an
  assignment at the start of the constructor, or behind each call of the
  parent's.
  The initial values of the other fields then move behind those assignments, so
  that they can rely on them.
-/

import TypedDocs.Script.Lower.Build
import TypedDocs.Script.Printer

namespace TypedDocs.Script.Lower

open Node (made)

/-- Whether a parameter declares a property. -/
def declaresProperty (p : Node) : Bool :=
  match p.label with
  | .param flags => flags.declaresProperty
  | _ => false

/-- The name that a parameter binds. -/
def paramName (p : Node) : Node :=
  let target := p.kid 1
  match target.label with
  | .assignPattern => target.kid 0
  | _ => target

/-- `this`. -/
def thisNode : Node := made .this []

/-- The field that a parameter declares. -/
def propertyField (p : Node) : Node :=
  made (.field {}) [Node.absent 0, Node.absent 0, word ((paramName p).name?.getD ""), Node.absent 0,
    Node.absent 0]

/-- The assignment of a parameter to its property. -/
def propertyAssignment (p : Node) : Node :=
  let b := bindingOf (paramName p)
  assign (dot thisNode b.1) (ref b)

/-- A member of `this` by the key of a field. -/
def thisMember (key : Node) : Node :=
  match key.label with
  | .ident name _ => dot thisNode name
  | .privateName name => made (.member false) [thisNode, made (.privateName name) []]
  | .computedKey => at_ thisNode (key.kid 0)
  | label => at_ thisNode (made label [])

/-- Whether a field gets a value that has to move. -/
def hasMovableValue (m : Node) : Bool :=
  match m.label with
  | .field flags => !flags.isStatic && !flags.isAccessor && !(m.kid 4).isAbsent
  | _ => false

/-! ## Keys -/

/-- The words of an expression that a variable for its value is named after. -/
def wordsOf (e : Node) : List String :=
  e.fold fun (n : Node) inner =>
    let first := inner.headD []
    match n.label with
    | .ident name _ => [name]
    | .this => ["this"]
    | .member _ => first ++ (n.kid 1).name?.toList
    | .call _ | .index _ => first
    | _ => []

/-- The name of a variable for the value of a computed key. -/
def keyVariable (e : Node) : String :=
  match wordsOf e with
  | [] => "_key"
  | ws => "_" ++ "_".intercalate ws

/-- A field whose key is worked out once, and the declarator of the variable that keeps it. -/
def keepKey (m : Node) : Node × List Node :=
  let key := m.kid 2
  let e := key.kid 0
  if hasMovableValue m && key.label == .computedKey && !isLiteral e then
    let b : Binding := (keyVariable e, Scope.ofKey key.span.start)
    ({ m with kids := m.kids.set 2 { key with kids := [ref b] } },
      [made .declarator [ref b, Node.absent 0, e]])
  else (m, [])

/-! ## Constructors -/

/-- Whether an expression calls the parent's constructor. -/
def isSuperCall (e : Node) : Bool :=
  match e.label with
  | .call _ => (e.kid 0).label == .super
  | _ => false

/-- Whether a statement calls the parent's constructor and does nothing else. -/
def callsSuper (n : Node) : Bool :=
  n.label == .exprStmt && isSuperCall (n.kid 0)

/-- A part of a constructor with what follows each call of the parent's put in. -/
structure Injected where
  node : Node
  /-- Whether the result of a call is kept in the variable of the statement around. -/
  usesVariable : Bool
  /-- Whether there was a call. -/
  found : Bool

/-- A statement of a list.  A call that stands alone is followed by statements; any other keeps
its result in a variable, declared in front of the statement. -/
def injectStatement (new : List Node) (n : Node) (inner : Binding → Injected) : List Node × Bool :=
  if callsSuper n then (n :: new.map statement, true)
  else
    let b : Binding := ("_temp", Scope.ofStatement n.span.start)
    let i := inner b
    ((if i.usesVariable then [declareVars "var" [b]] else []) ++ [i.node], i.found)

/-- One step through a constructor.  Functions and classes in it have a `super` of their own, but
an arrow function has not. -/
def injectStep (new : List Node) (n : Node) (kids : List (Binding → Injected)) (b : Binding) : Injected :=
  let statements (skip : Nat) : List Node × Bool :=
    let done := ((n.kids.drop skip).zip (kids.drop skip)).map fun (k, f) => injectStatement new k f
    (done.flatMap (·.1), done.any (·.2))
  match n.label with
  | .function _ | .functionDecl _ | .classExpr | .classDecl _ => ⟨n, false, false⟩
  | .block =>
    let (body, found) := statements 0
    ⟨{ n with kids := body }, false, found⟩
  | .caseClause =>
    let test := (kids.take 1).map (· b)
    let (body, found) := statements 1
    ⟨{ n with kids := test.map (·.node) ++ body }, test.any (·.usesVariable),
      test.any (·.found) || found⟩
  | _ =>
    let inner := kids.map (· b)
    let m : Node := { n with kids := inner.map (·.node) }
    if isSuperCall m then ⟨made .sequence (assign (ref b) m :: new ++ [ref b]), true, true⟩
    else ⟨m, inner.any (·.usesVariable), inner.any (·.found)⟩

/-- Puts expressions behind each call of the parent's constructor, or at the start if there is
none. -/
def injectInto (new : List Node) (body : Node) : Node :=
  let i := body.fold (injectStep new) ("_temp", globalScope)
  if i.found then i.node else { body with kids := prepend (new.map statement) body.kids }

/-- A constructor with expressions put in. -/
def injectConstructor (new : List Node) (m : Node) : Node :=
  let fn := m.kid 3
  let fn : Node := { fn with kids := [fn.kid 0, fn.kid 1, fn.kid 2, injectInto new (fn.kid 3)] }
  { m with kids := m.kids.take 3 ++ [fn] }

/-- The parameters of a class's constructor that declare properties. -/
def propertyParams (body : Node) : List Node :=
  (body.kids.filter isConstructor).flatMap fun m : Node =>
    ((m.kid 3).kid 1).kids.filter declaresProperty

/-- The members of a class without parameters that declare properties, and the declarators of
variables for keys. -/
def lowerMembers (body : Node) : Node × List Node :=
  let params := propertyParams body
  if params.isEmpty then (body, [])
  else
    let kept := body.kids.map keepKey
    let members := kept.map (·.1)
    let moved := (members.filter hasMovableValue).map fun m : Node =>
      assign (thisMember (m.kid 2)) (m.kid 4)
    let new := params.map propertyAssignment ++ moved
    let members := members.map fun m : Node =>
      if isConstructor m then injectConstructor new m
      else if hasMovableValue m then { m with kids := m.kids.take 4 ++ [Node.absent 0] }
      else m
    ({ body with kids := params.map propertyField ++ members }, kept.flatMap (·.2))

/-- One step of the lowering of properties. -/
def propertyStep (n : Node) (kids : List Lowered) : Lowered :=
  let l := Lowered.around n kids
  match n.label with
  | .classBody =>
    let (body, declarators) := lowerMembers l.node
    let before := if declarators.isEmpty then [] else [made (.variable "let") declarators]
    { l with node := body, before := l.before ++ before }
  | _ => l

/-- A script without parameters that declare properties. -/
def lowerProperties (root : Node) : Node :=
  (root.fold propertyStep).node

end TypedDocs.Script.Lower
