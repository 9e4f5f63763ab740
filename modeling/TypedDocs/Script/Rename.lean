/-
  Renaming, so that every name means what it meant.

  Moving code about can bring two declarations of one name within sight of each
  other, or a declaration in front of a name that no declaration was meant for.
  Each scope gets its names in the order in which it declares them.  A name
  stays as it is if it can; otherwise the first free number goes behind it.
  A name that the script uses and does not declare is never given away.
-/

import TypedDocs.Script.Scope

namespace TypedDocs.Script

namespace Rename

/-! ## What a scope declares and uses -/

/-- The names of one scope: those it declares, in order, and all it mentions. -/
structure Mentions where
  declared : List Binding
  all : List Binding
  deriving Inhabited

/-- The scopes of a script. -/
abbrev ScopeTree := Tree Mentions

/-- Something that happens in a scope. -/
inductive Event where
  /-- A declaration; `hoists` if it belongs to the function around it. -/
  | declare (b : Binding) (hoists : Bool)
  | use (b : Binding)
  | inner (s : ScopeTree)

/-- The names that events mention themselves. -/
def mentioned (events : List Event) : List Binding :=
  events.filterMap fun
    | .declare b _ | .use b => if b.1 == "arguments" then none else some b
    | .inner _ => none

/-- The scopes that stand inside. -/
def inners (events : List Event) : List ScopeTree :=
  events.filterMap fun
    | .inner s => some s
    | _ => none

/-- The names declared, each once, in order; `keep` says which of them count. -/
def declaredIn (keep : Bool → Bool) (events : List Event) : List Binding :=
  (events.filterMap fun
    | .declare b hoists => if keep hoists && b.1 != "arguments" then some b else none
    | _ => none).eraseDups

/-- A scope from what happens in it. -/
def scopeOf (keep : Bool → Bool) (events : List Event) : ScopeTree :=
  ⟨⟨declaredIn keep events, mentioned events⟩, ⟨0, 0⟩, inners events⟩

/-- A function around events: everything declared in it stays in it. -/
def inFunction (events : List Event) : List Event :=
  [.inner (scopeOf (fun _ => true) events)]

/-- A block around events: what hoists goes on to the function around. -/
def inBlock (events : List Event) : List Event :=
  (declaredIn id events).map (.declare · true) ++ [.inner (scopeOf (!·) events)]

/-! ## Walking a script -/

/-- How identifiers are taken: whether they declare, and whether what they declare hoists. -/
structure Stance where
  declares : Bool
  hoists : Bool

/-- Identifiers that only mention. -/
def Stance.using : Stance := ⟨false, false⟩

/-- Identifiers that declare in the scope at hand. -/
def Stance.declaring : Stance := ⟨true, false⟩

/-- What a node does, depending on how its identifiers are taken. -/
abbrev Walk := Stance → List Event

/-- The events of a name. -/
def nameEvents (n : Node) (stance : Stance) : List Event :=
  match n.label with
  | .ident name scope =>
    if stance.declares then [.declare (name, scope) stance.hoists] else [.use (name, scope)]
  | _ => []

/-- A walk over a node, with the events of a block's statements kept apart so
that a function can take them into its own scope. -/
structure Step where
  node : Node
  walk : Walk
  /-- For a block, its events without a scope around them. -/
  flat : List Event

/-- The step in a place. -/
def stepAt (kids : List Step) (i : Nat) : Step :=
  kids.getD i ⟨Node.absent 0, fun _ => [], []⟩

/-- The body of a function without a scope of its own. -/
def bodyEvents (body : Step) : List Event :=
  if body.node.label == .block then body.flat else body.walk .using

/-- Parameters and body. -/
def functionEvents (params body : Step) : List Event :=
  params.walk .declaring ++ bodyEvents body

/-- Whether a parameter takes the rest or has a default. -/
def isUnusual (param : Node) : Bool :=
  (param.kid 1).label == .rest || !(param.kid 3).isAbsent

/-- A key does something only if it is computed. -/
def keyEvents (key : Step) : List Event :=
  if key.node.label == .computedKey then key.walk .using else []

/-- What a node does. -/
def step (n : Node) (kids : List Step) : Step :=
  let k := stepAt kids
  let go (i : Nat) : List Event := (k i).walk .using
  let all (stance : Stance) : List Event := kids.flatMap (·.walk stance)
  let plain (events : List Event) : Step := ⟨n, fun _ => events, []⟩
  match n.label with
  | .ident _ _ => ⟨n, nameEvents n, []⟩
  | .objectPattern | .arrayPattern | .rest | .params => ⟨n, all, []⟩
  | .assignPattern => ⟨n, fun stance => (k 0).walk stance ++ go 1, []⟩
  | .shorthand => ⟨n, fun stance => go 1 ++ (k 0).walk stance, []⟩
  | .property => ⟨n, fun stance => keyEvents (k 0) ++ (k 1).walk stance, []⟩
  | .param _ => ⟨n, fun stance => go 0 ++ (k 1).walk stance ++ go 3, []⟩
  | .declarator => ⟨n, fun stance => (k 0).walk ⟨true, stance.hoists⟩ ++ go 2, []⟩
  | .variable word => plain (all ⟨true, word == "var"⟩)
  | .block =>
    let events := all .using
    ⟨n, fun _ => inBlock events, events⟩
  | .functionDecl _ =>
    let own : List Event := if (k 1).node.kids.any isUnusual then nameEvents (k 0).node .using else []
    plain (nameEvents (k 0).node ⟨true, true⟩ ++ own ++
      inFunction (own ++ functionEvents (k 1) (k 3)))
  | .function _ =>
    let inside := inFunction (functionEvents (k 1) (k 3))
    plain (if (k 0).node.isAbsent then inside
      else inFunction (nameEvents (k 0).node .declaring ++ inside))
  | .arrow _ => plain (inFunction (functionEvents (k 0) (k 2)))
  | .classDecl _ => plain (nameEvents (k 1).node .declaring ++ go 0 ++ go 2 ++ inBlock (go 3))
  | .classExpr =>
    let inside := go 0 ++ go 2 ++ inBlock (go 3)
    plain (if (k 1).node.isAbsent then inside
      else inBlock (nameEvents (k 1).node .declaring ++ inside))
  | .method _ | .field _ =>
    plain (go 0 ++ keyEvents (k 2) ++ go 3 ++ go 4)
  | .staticBlock => plain (inFunction (bodyEvents (k 0)))
  | .catchClause => plain (inBlock ((k 0).walk .declaring ++ go 2))
  | .forStmt => plain (inBlock (go 0 ++ go 1 ++ go 2 ++ inBlock (bodyEvents (k 3))))
  | .forIn | .forOf _ => plain (inBlock (go 0 ++ go 1 ++ inBlock (bodyEvents (k 2))))
  | .labeled => plain (go 1)
  | .break | .continue => plain []
  | .member _ => plain (go 0)
  -- What stays as it is written declares nothing by its own name.
  | .loneEnum _ => plain ((kids.drop 1).flatMap (·.walk .using))
  | .enumMember => plain (go 1)
  | .loneNamespace => plain (bodyEvents (k 1))
  | .importSpec _ =>
    plain (if (k 1).node.isAbsent then nameEvents (k 0).node ⟨true, true⟩
      else nameEvents (k 1).node ⟨true, true⟩)
  | .importDefault | .importNamespace => plain (nameEvents (k 0).node ⟨true, true⟩)
  | .importEquals _ _ => plain (nameEvents (k 0).node ⟨true, true⟩ ++ go 1)
  | .exportNamed _ => plain (if kids.length > 1 then [] else go 0)
  | .exportSpec _ => plain (nameEvents (k 0).node .using)
  | .exportAll _ => plain []
  | _ => plain (all .using)

/-- The scopes of a script. -/
def scopes (n : Node) : ScopeTree :=
  scopeOf (fun _ => true) ((n.fold step).walk .using)

/-- Gives every scope the names that are mentioned anywhere inside it. -/
def gather (s : ScopeTree) : ScopeTree :=
  s.mapUp fun s =>
    { s with label := { s.label with all := s.label.all ++ s.kids.flatMap (·.label.all) } }

/-- Names that are mentioned and declared nowhere. -/
def undeclared (s : ScopeTree) : List String :=
  let declared := s.preorder.flatMap (·.label.declared)
  ((s.preorder.flatMap (·.label.all)).filter (!declared.contains ·)).map (·.1) |>.eraseDups

/-! ## Choosing names -/

/-- New names, the latest first. -/
abbrev Names := List (Binding × String)

/-- The name of a binding. -/
def nameOf (names : Names) (b : Binding) : String :=
  ((names.find? (·.1 == b)).map (·.2)).getD b.1

/-- The candidates for a name: itself, then with numbers. -/
def candidate (name : String) (n : Nat) : String :=
  if n == 0 then name else name ++ toString n

/-- Whether a binding can have a name in a scope: no other binding that the scope
mentions has it. -/
def isFree (taken : List String) (outer : Names) (all : List Binding) (b : Binding) (name : String) :
    Bool :=
  !taken.contains name && outer.all fun (other, w) => w != name || other == b || !all.contains other

/-- The first candidate that is free.  Each name in the way rules out one
candidate, so their number bounds the search. -/
def choose (taken : List String) (outer : Names) (all : List Binding) (b : Binding) : String :=
  let tries := taken.length + outer.length + 1
  let n := (List.range tries).find? fun n => isFree taken outer all b (candidate b.1 n)
  candidate b.1 (n.getD tries)

/-- What is chosen so far: for the whole script, and within sight of a scope. -/
structure Chosen where
  whole : Names
  sight : Names

/-- Chooses the names of one scope. -/
def chooseIn (taken : List String) (m : Mentions) (c : Chosen) : Chosen :=
  m.declared.foldl
    (fun c b =>
      if b.1 == "eval" || c.whole.any (·.1 == b) then c
      else
        let name := choose taken c.sight m.all b
        ⟨(b, name) :: c.whole, (b, name) :: c.sight⟩)
    c

/-- Chooses the names of a scope and of those inside it. -/
def chooseAll (taken : List String) (s : ScopeTree) : Chosen → Chosen :=
  s.fold fun s inner c =>
    let c := chooseIn taken s.label c
    inner.foldl (fun c f => { c with whole := (f c).whole }) c

/-! ## Giving names -/

/-- The name of a node once names are given. -/
def renamed (names : Names) (n : Node) : Node :=
  match n.label with
  | .ident name scope => { n with label := .ident (nameOf names (name, scope)) scope }
  | _ => n

/-- Whether a node gets another name. -/
def changes (names : Names) (n : Node) : Bool :=
  (renamed names n).name? != n.name?

/-- A statement of a list once names are given; `n` is the statement as it was.  Where an export
declares a name that changes, the declaration and the export go apart. -/
def splitExport (names : Names) (n given : Node) : List Node :=
  if n.label == .exportDecl then
    match (n.kid 1).declaredIdents.filter (changes names) with
    | [] => [given]
    | ids =>
      let specs := ids.map fun i => Node.made (.exportSpec false) [renamed names i, i]
      [given.kid 1, Node.made (.exportNamed false) [Node.made .list specs]]
  else [given]

/-- Gives names; a name that was also a key is written out as one. -/
def giveStep (names : Names) (n : Node) (kids : List Node) : Node :=
  let m : Node := { n with kids := kids }
  match n.label with
  | .ident _ _ => renamed names n
  | .program | .block => { m with kids := (n.kids.zip kids).flatMap fun (k, g) => splitExport names k g }
  | .shorthand =>
    if changes names (n.kid 0) then
      let value := if (m.kid 1).isAbsent then m.kid 0 else Node.made .assignPattern [m.kid 0, m.kid 1]
      { m with label := .property, kids := [n.kid 0, value] }
    else m
  | .importSpec _ =>
    if (n.kid 1).isAbsent && changes names (n.kid 0) then { m with kids := [n.kid 0, m.kid 0] } else m
  | .exportSpec _ =>
    if (n.kid 1).isAbsent && changes names (n.kid 0) then { m with kids := [m.kid 0, n.kid 0] } else m
  | _ => m

/-- Whether a script can look names up at run time, so that none may change. -/
def looksUpNames (n : Node) : Bool :=
  n.preorder.any fun n : Node =>
    match n.label with
    | .call _ => (n.kid 0).label == .ident "eval" globalScope
    | .with => true
    | _ => false

end Rename

open Rename in
/-- Renames what has to be renamed. -/
def rename (n : Node) : Node :=
  if looksUpNames n then n
  else
    let tree := gather (scopes n)
    let names := (chooseAll (undeclared tree) tree ⟨[], []⟩).whole
    if names.all fun (b, w) => b.1 == w then n else n.fold (giveStep names)

end TypedDocs.Script
