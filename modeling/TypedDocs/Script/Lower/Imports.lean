/-
  Imports and exports that only types need.

  An import stays only for the names that the script still uses once its types
  are gone; an import of nothing stays for its effects.  An alias uses the name
  it stands for only if it is used itself, also inside a namespace; a namespace
  that held nothing but idle aliases goes with them.  An export of a type goes
  with the type.
-/

import TypedDocs.Script.Lower.Build
import TypedDocs.Script.Lower.Erase

namespace TypedDocs.Script.Lower

/-! ## Names -/

/-- The name that a specifier of an import declares. -/
def localName (spec : Node) : Option String :=
  match spec.label with
  | .importSpec _ => if (spec.kid 1).isAbsent then (spec.kid 0).name? else (spec.kid 1).name?
  | .importDefault | .importNamespace => (spec.kid 0).name?
  | _ => none

/-- The types that a statement declares. -/
def declaredTypes (n : Node) : List String :=
  n.fold fun (n : Node) inner =>
    match n.label with
    | .interface | .typeAlias => (n.kid 0).name?.toList
    | .exportDecl | .ambient => inner.flatten
    | .importDecl isType _ =>
      (n.kid 0).kids.filterMap fun spec : Node =>
        if isType || spec.label == .importSpec true then localName spec else none
    | _ => []

/-- Whether a statement imports. -/
def isImport (n : Node) : Bool :=
  match n.label with
  | .importDecl _ _ | .importEquals false _ => true
  | _ => false

/-- The first name in the name of an element. -/
def elementRoot (raw : String) : String :=
  String.ofList (raw.toList.takeWhile fun c => c != '.' && c != ':')

/-- A mention of a name: in an expression, where it is known what binds it, or in a tag. -/
inductive Mention where
  | name (b : Binding)
  | tag (name : String)

/-- Whether a mention may be one of a binding. -/
def Mention.isOf (b : Binding) : Mention → Bool
  | .name c => c == b
  | .tag w => w == b.1

/-- Whether a statement is an alias that nothing but its uses keeps. -/
def isAlias (n : Node) : Bool :=
  match n.label with
  | .importEquals false _ => true
  | _ => false

/-- What a node mentions, but for what aliases stand for. -/
def mentions (n : Node) : List Mention :=
  n.fold fun (n : Node) inner =>
    match n.label with
    | .ident name scope => [.name (name, scope)]
    | .elementName raw => [.tag (elementRoot raw)]
    | .importEquals isExport _ => if isExport then (inner.drop 1).flatten else []
    | _ => inner.flatten

/-- The mentions that count, once those are added that used aliases stand for.  Each
round takes one alias, so the number of aliases bounds the rounds. -/
def usedWith (aliases : List Node) : Nat → List Mention → List Mention
  | 0, used => used
  | n + 1, used =>
    let more := aliases.flatMap fun a : Node =>
      if used.any (·.isOf (bindingOf (a.kid 0))) then mentions (a.kid 1) else []
    usedWith aliases n (used ++ more)

/-! ## Pruning -/

/-- What has to be known to prune a statement. -/
structure Usage where
  used : List Mention
  /-- Names that something other than an import declares. -/
  declared : List String
  /-- Names that stand for types alone. -/
  types : List String

/-- What the statements between the braces of a node, or of a whole script, use and declare. -/
def usageIn (body : Node) (types : List String) : Usage :=
  let others := body.kids.filter (!isImport ·)
  let aliases := body.preorder.filter isAlias
  { used := usedWith aliases aliases.length (others.flatMap mentions)
    declared := topNames { body with kids := others }
    types := types }

/-- Whether what an import binds stays. -/
def Usage.keeps (u : Usage) (b : Binding) : Bool :=
  u.used.any (·.isOf b) && !u.declared.contains b.1

/-- A statement without what only types need; absent if nothing is left. -/
def prune (u : Usage) (n : Node) : Node :=
  match n.label with
  | .importDecl _ _ =>
    let specs := n.kid 0
    let stays (name : String) : Bool := u.keeps (name, Scope.top 0)
    let kept : Node := { specs with
      kids := specs.kids.filter fun s : Node => ((localName s).map stays).getD true }
    if lostAll specs kept then erased n else { n with kids := kept :: n.kids.drop 1 }
  | .importEquals false _ => if u.keeps (bindingOf (n.kid 0)) then n else erased n
  | .exportNamed _ =>
    if (n.kid 1).isAbsent then
      let specs := n.kid 0
      let kept : Node := { specs with
        kids := specs.kids.filter fun s : Node => !u.types.contains ((s.kid 0).name?.getD "") }
      if lostAll specs kept then erased n else { n with kids := kept :: n.kids.drop 1 }
    else n
  | .exportValue =>
    match (n.kid 1).name? with
    | some name => if u.types.contains name then erased n else n
    | none => n
  | _ => n

/-- A statement whose namespaces have no idle aliases; absent if it is one that held nothing
else. -/
def pruneAliases (n : Node) : Node :=
  n.fold fun (n : Node) kids =>
    let m : Node := { n with kids := kids }
    match n.label with
    | .namespace =>
      let u := usageIn (n.kid 1) []
      let pruned := (m.kid 1).kids.map fun k : Node => if isAlias k then prune u k else k
      let body := dropAbsent { m.kid 1 with kids := pruned }
      if body.kids.isEmpty then erased n else { m with kids := [m.kid 0, body] }
    | .exportDecl => if (m.kid 1).isAbsent then erased n else m
    | .block => dropAbsent m
    | _ => n

/-- A script without the imports and exports that only types need; `typed` is
the script with its types. -/
def pruneImports (typed root : Node) : Node :=
  let values := topNames root
  let u := usageIn root ((typed.kids.flatMap declaredTypes).filter (!values.contains ·))
  dropAbsent { root with kids := root.kids.map fun k : Node => pruneAliases (prune u k) }

end TypedDocs.Script.Lower
