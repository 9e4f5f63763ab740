/-
  Scopes: which declaration a name belongs to.

  A scope is numbered from the offset at which it starts.  `resolve` gives every
  identifier that refers to something, or declares something, the number of the
  scope it is declared in; keys, labels and names of members keep the number of
  the global scope, as names that the script does not declare do.
-/

import TypedDocs.Script.Node

namespace TypedDocs.Script

/-- A name with the scope that declares it. -/
abbrev Binding := String × ScopeId

namespace Scope

/-! ## Numbers -/

/-- The scope of a whole script. -/
def top (base : Nat) : ScopeId := base + 1

/-- The scope that holds the own name of a function or a class. -/
def own (base start : Nat) : ScopeId := base + 8 * start + 2

/-- The scope inside a node. -/
def inside (base start : Nat) : ScopeId := base + 8 * start + 3

/-- A scope for a name made for a computed key. -/
def ofKey (start : Nat) : ScopeId := 8 * start + 4

/-- A scope for a name made for a class. -/
def ofClass (start : Nat) : ScopeId := 8 * start + 5

/-- A scope for a name made for a statement. -/
def ofStatement (start : Nat) : ScopeId := 8 * start + 6

/-- A scope for names made for values that are disposed of. -/
def ofValues (start : Nat) : ScopeId := 8 * start + 7

/-- Names that are known, the innermost first. -/
abbrev Names := List Binding

/-- The scope of a name. -/
def lookup (names : Names) (name : String) : ScopeId :=
  match names.find? (·.1 == name) with
  | some (_, scope) => scope
  | none => globalScope

/-- Names declared in one scope, in front of those already known. -/
def enter (scope : ScopeId) (declared : List String) (names : Names) : Names :=
  declared.map (·, scope) ++ names

/-! ## Resolution -/

/-- What is known of a node before the names around it are. -/
structure Pending where
  node : Node
  /-- Names it declares in the function around it. -/
  hoisted : List String
  /-- Names it declares in the block around it. -/
  lexical : List String
  /-- Names it binds if it is a pattern. -/
  bound : List String
  /-- The node with its names resolved. -/
  place : Names → Node
  /-- The same for a block that opens no scope of its own. -/
  placeFlat : Names → Node
  /-- For a block, what its statements declare in it. -/
  content : List String

variable (base : Nat)

/-- Puts resolved children into a node. -/
def rebuild (n : Node) (kids : List Pending) (names : Names) : Node :=
  { n with kids := kids.map (·.place names) }

/-- A child, by place. -/
def part (kids : List Pending) (i : Nat) : Pending :=
  kids.getD i
    { node := Node.absent 0, hoisted := [], lexical := [], bound := [], content := []
      place := fun _ => Node.absent 0, placeFlat := fun _ => Node.absent 0 }

/-- A key: resolved inside only if it is computed. -/
def placeKey (key : Pending) (names : Names) : Node :=
  if key.node.label == .computedKey then key.place names else key.node

/-- Parameters and body of a function, in the scope they share. -/
def placeFunction (start : Nat) (params ret body : Pending) (names : Names) : List Node :=
  let declared := params.bound ++ body.hoisted ++ body.content
  let inner := enter (inside base start) declared names
  [params.place inner, ret.node, body.placeFlat inner]

/-- A name that stands for itself inside what it names. -/
def withOwnName (start : Nat) (name : Pending) (names : Names) : Names :=
  match name.node.name? with
  | some w => enter (own base start) [w] names
  | none => names

/-- The parts of a dotted name, each in the scope of the one before, around a body. -/
def placeDotted (body : Pending) : List Node → Names → List Node × Names
  | [], names => ([], enter (inside base body.node.span.start) (body.hoisted ++ body.content) names)
  | [part], names =>
    let w := part.name?.getD ""
    let inner := enter (inside base body.node.span.start) (body.hoisted ++ body.content) names
    ([{ part with label := .ident w (lookup names w) }], inner)
  | part :: next :: rest, names =>
    let w := part.name?.getD ""
    let inner := enter (inside base part.span.start) [next.name?.getD ""] names
    let (placed, innermost) := placeDotted body (next :: rest) inner
    ({ part with label := .ident w (lookup names w) } :: placed, innermost)

/-- The names of the members of an enumeration that can stand for themselves. -/
def memberNames (members : List Pending) : List String :=
  members.filterMap fun m => (m.node.kid 0).name?

/-- What is known of a node from what is known of its children. -/
def pending (n : Node) (kids : List Pending) : Pending :=
  let k := part kids
  let start := n.span.start
  let flat : Pending :=
    { node := n
      hoisted := kids.flatMap (·.hoisted), lexical := [], bound := [], content := []
      place := rebuild n kids, placeFlat := rebuild n kids }
  let patternOf := kids.flatMap (·.bound)
  match n.label with
  | .ident name _ =>
    { flat with
      bound := [name]
      place := fun names => { n with label := .ident name (lookup names name) } }
  | .objectPattern | .arrayPattern | .rest | .params => { flat with bound := patternOf }
  | .assignPattern | .shorthand => { flat with bound := (k 0).bound }
  | .property =>
    { flat with
      bound := (k 1).bound
      place := fun names => { n with kids := [placeKey (k 0) names, (k 1).place names] } }
  | .param _ => { flat with bound := (k 1).bound }
  | .declarator => { flat with bound := (k 0).bound }
  | .variable word =>
    if word == "var" then { flat with hoisted := flat.hoisted ++ patternOf }
    else { flat with lexical := patternOf }
  | .program =>
    let declared := flat.hoisted ++ kids.flatMap (·.lexical)
    { flat with place := fun names => rebuild n kids (enter (top base) declared names) }
  | .block =>
    let declared := kids.flatMap (·.lexical)
    { flat with
      content := declared
      place := fun names => rebuild n kids (enter (inside base start) declared names) }
  | .functionDecl _ =>
    { flat with
      hoisted := [], lexical := (k 0).node.name?.toList
      place := fun names =>
        { n with kids := (k 0).place names :: placeFunction base start (k 1) (k 2) (k 3) names } }
  | .function _ =>
    { flat with
      hoisted := []
      place := fun names =>
        let names := withOwnName base start (k 0) names
        { n with kids := (k 0).place names :: placeFunction base start (k 1) (k 2) (k 3) names } }
  | .arrow _ =>
    { flat with
      hoisted := []
      place := fun names => { n with kids := placeFunction base start (k 0) (k 1) (k 2) names } }
  | .classDecl _ => { flat with lexical := (k 1).node.name?.toList }
  | .classExpr =>
    { flat with place := fun names => rebuild n kids (withOwnName base start (k 1) names) }
  | .method _ | .field _ =>
    { flat with
      place := fun names =>
        { n with
          kids := (kids.zipIdx.map fun (kid, i) =>
            if i == 2 then placeKey kid names else kid.place names) } }
  | .staticBlock =>
    { flat with
      hoisted := []
      place := fun names =>
        let declared := (k 0).hoisted ++ (k 0).content
        { n with kids := [(k 0).placeFlat (enter (inside base start) declared names)] } }
  | .catchClause =>
    { flat with
      place := fun names => rebuild n kids (enter (inside base start) (k 0).bound names) }
  | .forStmt | .forIn | .forOf _ =>
    { flat with
      place := fun names => rebuild n kids (enter (inside base start) (k 0).lexical names) }
  | .caseClause => { flat with lexical := kids.flatMap (·.lexical) }
  | .switch =>
    { flat with
      place := fun names =>
        rebuild n kids (enter (inside base start) (kids.flatMap (·.lexical)) names) }
  | .labeled =>
    { flat with
      lexical := (k 1).lexical
      place := fun names => { n with kids := [(k 0).node, (k 1).place names] } }
  | .break | .continue => { flat with place := fun _ => n }
  | .member _ =>
    { flat with place := fun names => { n with kids := [(k 0).place names, (k 1).node] } }
  | .enum _ =>
    { flat with
      lexical := (k 0).node.name?.toList
      place := fun names =>
        let inner := enter (inside base start) (memberNames (kids.drop 1)) names
        { n with kids := (k 0).place names :: (kids.drop 1).map (·.place inner) } }
  | .enumMember =>
    { flat with place := fun names => { n with kids := [(k 0).node, (k 1).place names] } }
  | .namespace =>
    let parts := (k 0).node.kids
    { flat with
      hoisted := []
      lexical := (parts.head?.bind Node.name?).toList
      place := fun names =>
        let (placed, inner) := placeDotted base (k 1) parts names
        { n with kids := [{ (k 0).node with kids := placed }, (k 1).placeFlat inner] } }
  | .list => { flat with lexical := kids.flatMap (·.lexical) }
  | .importDecl _ _ => { flat with lexical := (k 0).lexical }
  | .importDefault | .importNamespace => { flat with lexical := patternOf }
  | .importSpec _ =>
    let placed (names : Names) : List Node :=
      if (k 1).node.isAbsent then [(k 0).place names, (k 1).node]
      else [(k 0).node, (k 1).place names]
    { flat with
      lexical := if (k 1).node.isAbsent then (k 0).bound else (k 1).bound
      place := fun names => { n with kids := placed names } }
  | .importEquals _ _ => { flat with lexical := (k 0).bound }
  | .exportNamed _ =>
    if kids.length > 1 then { flat with place := fun _ => n } else flat
  | .exportSpec _ =>
    { flat with place := fun names => { n with kids := [(k 0).place names, (k 1).node] } }
  | .exportAll _ => { flat with place := fun _ => n }
  | .exportDecl | .exportDefault => { flat with lexical := (k 1).lexical }
  | _ => flat

/-- The same, for a fold: only a block can do without a scope that it has otherwise. -/
def step (n : Node) (kids : List Pending) : Pending :=
  let p := pending base n kids
  if n.label == .block then p else { p with placeFlat := p.place }

/-- What is known of a tree. -/
def examine (n : Node) : Pending :=
  n.fold (step base)

end Scope

/-- Resolves the names of a script.  Numbers of scopes are counted from `base` on. -/
def resolve (base : Nat) (n : Node) : Node :=
  (Scope.examine base n).place []

/-- The names that a script declares at its top, those of variables first. -/
def topNames (n : Node) : List String :=
  let kids := n.kids.map (Scope.examine 0)
  kids.flatMap (·.hoisted) ++ kids.flatMap (·.lexical)

end TypedDocs.Script
