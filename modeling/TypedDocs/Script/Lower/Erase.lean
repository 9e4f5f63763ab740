/-
  Erasing what only types need.

  A type, and everything that is there for types alone, becomes an absent node;
  lists of statements, members, parameters and specifiers then lose their
  absent items.  Casts and assertions give way to their expressions.  What is
  left runs as it stands, but for enumerations, namespaces, parameters that
  declare properties and decorators.
-/

import TypedDocs.Script.Node

namespace TypedDocs.Script.Lower

/-- Whether a node is a type or declares nothing but types. -/
def isTypeOnly : Kind → Bool
  | .typeAscription | .predicateAscription | .predefinedType | .typeIdent | .nestedType
  | .genericType | .otherType | .typeParams | .typeArgs | .interface | .typeAlias | .ambient
  | .indexSignature | .exportAsNamespace => true
  | .importDecl isType _ | .importSpec isType | .exportNamed isType | .exportSpec isType
  | .exportAll isType | .importEquals _ isType => isType
  | _ => false

/-- Drops the children that are absent. -/
def dropAbsent (n : Node) : Node :=
  { n with kids := n.kids.filter fun k : Node => !k.isAbsent }

/-- A statement in a place that needs one. -/
def orEmpty (n : Node) : Node :=
  if n.isAbsent then { n with label := .empty } else n

/-- Nothing in the place of a node. -/
def erased (n : Node) : Node :=
  Node.absent n.span.start

/-- Drops the statements that do nothing, as they stand for nothing at the top of a script. -/
def dropEmpty (n : Node) : Node :=
  { n with kids := n.kids.filter fun k : Node => k.label != .empty }

/-- Parameters without a first one that only gives `this` a type. -/
def dropThis (params : List Node) : List Node :=
  match params with
  | p :: rest => if (p.kid 1).label == .this then rest else p :: rest
  | [] => []

/-- Whether a member of a class is declared and not defined. -/
def isUndefined (m : Node) : Bool :=
  match m.label with
  | .method flags => flags.isAbstract || ((m.kid 3).kid 3).isAbsent
  | .field flags => flags.isDeclare || flags.isAbstract
  | _ => false

/-- Whether a member or one of its parameters has a decorator. -/
def hasDecorators (m : Node) : Bool :=
  !(m.kid 0).kids.isEmpty || ((m.kid 3).kid 1).kids.any fun p : Node => !(p.kid 0).kids.isEmpty

/-- Whether nothing is left of what a script exports, or only the signature of a function. -/
def lacksBody (n : Node) : Bool :=
  match n.label with
  | .absent => true
  | .function _ => (n.kid 3).isAbsent
  | _ => false

/-- Whether a list that had items lost them all. -/
def lostAll (before after : Node) : Bool :=
  !before.kids.isEmpty && after.kids.isEmpty

/-- Whether a namespace is `global`, which only adds to what is declared elsewhere. -/
def isGlobalAugment (n : Node) : Bool :=
  match (n.kid 0).label with
  | .list | .string _ => false
  | _ => true

/-- Erases types from a node whose children have none any more. -/
def eraseStep (n : Node) (kids : List Node) : Node :=
  let m : Node := { n with kids := kids }
  if isTypeOnly n.label then erased n
  else match n.label with
    | .cast _ | .constAssertion | .nonNull | .instantiation => m.kid 0
    | .typeAssertion => m.kid 1
    | .program => dropEmpty (dropAbsent m)
    | .classBody =>
      dropAbsent { m with kids := kids.filter fun k : Node => !isUndefined k || hasDecorators k }
    | .block | .caseClause | .list =>
      match n.label, kids with
      -- The test of a case may well be absent.
      | .caseClause, test :: body => { m with kids := test :: body.filter fun k : Node => !k.isAbsent }
      | _, _ => dropAbsent m
    | .params => { m with kids := dropThis kids }
    | .ifStmt => { m with kids := [m.kid 0, orEmpty (m.kid 1), m.kid 2] }
    | .whileStmt | .forStmt | .forIn | .forOf _ | .labeled | .with =>
      { m with kids := kids.dropLast ++ (kids.getLast?.map orEmpty).toList }
    | .doWhile => { m with kids := [orEmpty (m.kid 0), m.kid 1] }
    | .functionDecl _ => if (m.kid 3).isAbsent then erased n else m
    | .namespace =>
      let body := dropEmpty (m.kid 1)
      if body.kids.isEmpty || isGlobalAugment n then erased n
      else { m with kids := [m.kid 0, body] }
    | .exportDecl | .exportDefault => if lacksBody (m.kid 1) then erased n else m
    | .importDecl _ _ | .exportNamed _ => if lostAll (n.kid 0) (m.kid 0) then erased n else m
    | _ => m

/-- A tree without types.  Decorated members that are not defined are still there. -/
def erase (n : Node) : Node :=
  n.fold eraseStep

/-- A tree without members that are not defined. -/
def dropUndefined (n : Node) : Node :=
  n.mapUp fun n : Node =>
    if n.label == .classBody then { n with kids := n.kids.filter (!isUndefined ·) } else n

end TypedDocs.Script.Lower
