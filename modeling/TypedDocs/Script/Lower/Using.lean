/-
  Values that are disposed of.

  A list of statements that declares such values becomes a block that is tried:
  a context takes each value as it is made, keeps what goes wrong, and in the
  end disposes of all it has taken.

  At the top of a script the block must not hide what the script declares, so
  variables and classes become variables of the script, functions and imports
  stay in front of the block, and what the script exports is named behind it.
-/

import TypedDocs.Script.Lower.Library

namespace TypedDocs.Script.Lower

open Node (made)

/-! ## Declarations -/

/-- Whether a declaration makes values that are disposed of, and then whether it waits for that. -/
def waits? (n : Node) : Option Bool :=
  match n.label with
  | .variable "using" => some false
  | .variable "await using" => some true
  | _ => none

/-- A declaration whose values a context takes. -/
def takeValues (context : Binding) (n : Node) : Node :=
  match waits? n with
  | some waits =>
    let take := dot (ref context) (if waits then "a" else "u")
    let declarator (d : Node) : Node := { d with kids := d.kids.take 2 ++ [call take [d.kid 2]] }
    { n with label := .variable "const", kids := n.kids.map declarator }
  | none => n

/-! ## The block that is tried -/

/-- The statement that tries others within a context. -/
def tryWithin (h : Helpers) (context : Binding) (waits : Bool) (body : List Node) : Node :=
  let failure : Binding := ("_", context.2)
  let open_ := made (.variable "var")
    [made .declarator [ref context, Node.absent 0, call (ref h.usingContext) []]]
  let keep := statement (assign (dot (ref context) "e") (ref failure))
  let dispose := call (dot (ref context) "d") []
  let dispose := statement (if waits then made .await [dispose] else dispose)
  made .try
    [made .block (open_ :: body),
      made .catchClause [ref failure, Node.absent 0, made .block [keep]],
      made .block [dispose]]

/-- The statements of a list, apart from what has to stand in front of the block or behind it. -/
structure Sorted where
  front : List Node
  body : List Node
  behind : List Node

namespace Sorted

/-- A statement that stays in the block. -/
def inside (n : Node) : Sorted := ⟨[], [n], []⟩

/-- A statement that stands in front of the block. -/
def outside (n : Node) : Sorted := ⟨[n], [], []⟩

/-- Several together. -/
def join (parts : List Sorted) : Sorted :=
  ⟨parts.flatMap (·.front), parts.flatMap (·.body), parts.flatMap (·.behind)⟩

/-- Names what the block declares in an export behind it. -/
def exporting (specs : List Node) (s : Sorted) : Sorted :=
  { s with behind := s.behind ++ [made (.exportNamed false) [made .list specs]] }

end Sorted

/-- The variable that a class becomes. -/
def classVariable (name c : Node) : Node :=
  let e : Node := ⟨.classExpr, c.span, [c.kid 0, Node.absent 0, c.kid 2, c.kid 3]⟩
  ⟨.variable "var", c.span, [made .declarator [name, Node.absent 0, e]]⟩

/-- A declaration at the top of a script, as it stands in the block. -/
def asVariable (n : Node) : Node :=
  match n.label with
  | .variable _ => { n with label := .variable "var" }
  | .classDecl _ => classVariable (n.kid 1) n
  | _ => n

/-- A default export whose value a variable keeps. -/
def keptDefault (value : Node → Node) (name : Node) : Sorted :=
  (Sorted.inside (value name)).exporting [made (.exportSpec false) [name, word "default"]]

/-- A statement at the top of a script. -/
def sortTop (n : Node) : Sorted :=
  let d := n.kid 1
  let unnamed := ref ("_default", Scope.ofClass n.span.start)
  match n.label, d.label with
  | .functionDecl _, _ | .importDecl _ _, _ | .importEquals _ _, _ | .exportNamed _, _
  | .exportAll _, _ | .exportAssign, _ => .outside n
  | .exportDecl, .variable _ | .exportDecl, .classDecl _ =>
    let specs := d.declaredIdents.map fun i =>
      made (.exportSpec false) [ref (bindingOf i), Node.absent 0]
    (Sorted.inside (asVariable d)).exporting specs
  | .exportDefault, .classDecl _ => keptDefault (classVariable · d) (d.kid 1)
  | .exportDefault, .classExpr => keptDefault (classVariable · d) unnamed
  | .exportValue, _ =>
    keptDefault (fun name => made (.variable "var") [made .declarator [name, Node.absent 0, d]]) unnamed
  | .exportDecl, _ | .exportDefault, _ => .outside n
  | _, _ => .inside (asVariable n)

/-- Statements of a list, those that make values to dispose of within a context. -/
def disposeAfter (h : Helpers) (isTop : Bool) (statements : List Node) : List Node :=
  match statements.filter fun n => (waits? n).isSome with
  | [] => statements
  | first :: rest =>
    let context : Binding := ("_usingCtx", Scope.ofValues first.span.start)
    let waits := (first :: rest).any fun n => waits? n == some true
    let taken := statements.map (takeValues context)
    let sorted := if isTop then Sorted.join (taken.map sortTop) else ⟨[], taken, []⟩
    sorted.front ++ tryWithin h context waits sorted.body :: sorted.behind

/-- The body of a loop over values to dispose of. -/
def loopBody (h : Helpers) (left : Node) (waits : Bool) (body : Node) : Node :=
  let context : Binding := ("_usingCtx", Scope.ofValues left.span.start)
  made .block [tryWithin h context waits [body]]

/-! ## The whole script -/

/-- Where a node stands. -/
structure Site where
  /-- Whether no block or function is around it. -/
  isTop : Bool
  /-- Whether it is a part of a namespace. -/
  inNamespace : Bool

/-- Lowers a node whose children can be lowered wherever they stand. -/
def disposeStep (h : Helpers) (n : Node) (kids : List (Site → Node)) (site : Site) : Node :=
  let placed (s : Site) : List Node := kids.map (· s)
  match n.label with
  | .program => { n with kids := disposeAfter h true (placed ⟨true, false⟩) }
  | .block =>
    let isTop := site.isTop && site.inNamespace
    { n with kids := disposeAfter h isTop (placed ⟨isTop, false⟩) }
  | .caseClause =>
    let inner := placed ⟨false, false⟩
    { n with kids := inner.take 1 ++ disposeAfter h false (inner.drop 1) }
  | .forOf _ =>
    let m : Node := { n with kids := placed ⟨site.isTop, false⟩ }
    match waits? (m.kid 0) with
    | some waits =>
      let left : Node := { m.kid 0 with label := .variable "const" }
      { m with kids := [left, m.kid 1, loopBody h left waits (m.kid 2)] }
    | none => m
  | label => { n with kids := placed ⟨site.isTop, label == .namespace⟩ }

/-- A script that disposes of its values by itself. -/
def lowerUsing (h : Helpers) (root : Node) : Node :=
  root.fold (disposeStep h) ⟨true, false⟩

end TypedDocs.Script.Lower
