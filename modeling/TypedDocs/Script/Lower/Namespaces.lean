/-
  Enumerations and namespaces as functions that fill an object.

  Either becomes a variable and a call of a function that gets the object the
  variable holds, or a new one.  What a namespace exports becomes a property of
  its object: an exported function or class is assigned once it is declared, an
  exported variable lives in the property alone, so every mention of it is one
  of the property.

  That takes two statements, so one that stands alone, as a branch or the body
  of a loop, stays as it is written.
-/

import TypedDocs.Script.Lower.Enums

namespace TypedDocs.Script.Lower

open Node (made)

/-! ## Those that stay -/

/-- An enumeration or a namespace that stays as it is written. -/
def setApart (n : Node) : Node :=
  match n.label with
  | .enum isConst => { n with label := .loneEnum isConst }
  | .namespace => { n with label := .loneNamespace }
  | _ => n

/-- Sets those apart that stand where one statement alone can stand. -/
def setLoneApart (root : Node) : Node :=
  root.mapUp fun n : Node =>
    match n.label with
    | .ifStmt | .forStmt | .forIn | .forOf _ | .whileStmt | .doWhile | .labeled | .with =>
      { n with kids := n.kids.map setApart }
    | _ => n

/-! ## What namespaces export -/

/-- The parts of a namespace's name. -/
def nameParts (n : Node) : List Binding :=
  (n.kid 0).kids.map bindingOf

/-- The innermost part of a namespace's name. -/
def innermost (n : Node) : Binding :=
  (nameParts n).getLast?.getD ("", globalScope)

/-- The binding that an enumeration or a namespace makes. -/
def containerOf (n : Node) : Binding :=
  match n.label with
  | .namespace => (nameParts n).head?.getD ("", globalScope)
  | _ => bindingOf (n.kid 0)

/-- What an exported statement of a namespace makes that lives in its object. -/
def exportedBy (n : Node) : List Binding :=
  match n.label with
  | .exportDecl =>
    match (n.kid 1).label with
    | .variable _ => (n.kid 1).declaredIdents.map bindingOf
    | _ => []
  | .importEquals true _ => [bindingOf (n.kid 0)]
  | _ => []

/-- The exported bindings of all namespaces, each with the namespace. -/
def exportedBindings (root : Node) : List (Binding × Binding) :=
  root.preorder.flatMap fun n : Node =>
    match n.label with
    | .namespace => ((n.kid 1).kids.flatMap exportedBy).map (·, innermost n)
    | _ => []

/-- The property that a mention of an exported binding stands for. -/
def property? (exported : List (Binding × Binding)) (n : Node) : Option Node :=
  match n.label with
  | .ident name scope => (exported.lookup (name, scope)).map fun ns => { dot (ref ns) name with span := n.span }
  | _ => none

/-- A pattern that is assigned to, whose names are also keys and stay as they are; `n` is the
pattern as it was. -/
def keepShorthands (n qualified : Node) : Node :=
  let shorthands := n.preorder.filter fun k : Node => k.label == .shorthand
  qualified.mapUp fun k : Node =>
    match k.label with
    | .property =>
      match shorthands.find? fun o : Node => o.span == k.span with
      | some o =>
        let default := if (k.kid 1).label == .assignPattern then (k.kid 1).kid 1 else o.kid 1
        { o with kids := [o.kid 0, default] }
      | none => k
    | _ => k

/-- Turns mentions of exported bindings into properties. -/
def qualifyExports (root : Node) : Node :=
  let exported := exportedBindings root
  if exported.isEmpty then root
  else
    root.fold fun (n : Node) kids =>
      let m : Node := { n with kids := kids }
      match n.label with
      | .ident _ _ => (property? exported n).getD n
      | .shorthand =>
        match property? exported (n.kid 0) with
        | some p =>
          let value := if (m.kid 1).isAbsent then p else made .assignPattern [p, m.kid 1]
          { m with label := .property, kids := [n.kid 0, value] }
        | none => m
      | .assign _ | .forIn | .forOf _ =>
        let isPattern := (n.kid 0).label == .objectPattern || (n.kid 0).label == .arrayPattern
        if isPattern then { m with kids := keepShorthands (n.kid 0) (m.kid 0) :: kids.drop 1 } else m
      | .enum _ | .namespace | .loneEnum _ | .loneNamespace | .importEquals _ _ =>
        { m with kids := n.kids.take 1 ++ kids.drop 1 }
      | _ => m

/-! ## Functions that fill an object -/

/-- `a || (a = {})`. -/
def orNew (e : Node) : Node :=
  made (.binary "||") [e, assign e (made .object [])]

/-- A call of a function that fills the object of a binding.  The statement has a span of its own. -/
def fill (b : Binding) (object : Node) (body : List Node) (bodySpan span : Span) : Node :=
  { statement (call (function [b] ⟨.block, bodySpan, body⟩) [object]) with span := span }

/-- Where a statement stands. -/
structure Place where
  /-- The namespace around it. -/
  within : Option Binding
  /-- The span of the export around it. -/
  exported : Option Span

/-- The object that a binding holds, or a new one; an exported binding gets it
from the namespace around. -/
def objectFor (place : Place) (b : Binding) : Node :=
  match place.within, place.exported with
  | some ns, some _ => assign (ref b) (orNew (dot (ref ns) b.1))
  | _, _ => orNew (ref b)

/-- The span of the statement that an enumeration or a namespace makes. -/
def Place.spanOf (place : Place) (n : Node) : Span :=
  place.exported.getD n.span

/-- The variable of an enumeration or a namespace.  It begins where the declaration did, and
leaves the end to what fills the object. -/
def containerVariable (place : Place) (b : Binding) (n : Node) : Node :=
  let kind := if b.2 == Scope.top 0 then "var" else "let"
  let v := declareVars kind [b]
  let span : Span := ⟨(place.spanOf n).start, 0⟩
  match place.within, place.exported with
  | none, some _ => ⟨.exportDecl, span, [Node.absent 0, v]⟩
  | _, _ => { v with span := span }

/-- The body of a namespace inside the objects of the parts of its name. -/
def nest (body : List Node) (span : Span) : List Binding → List Node
  | [] | [_] => body
  | outer :: inner :: rest =>
    [fill inner (orNew (dot (ref outer) inner.1)) (nest body span (inner :: rest)) span ⟨0, 0⟩]

/-- The declarations that can share a name with a namespace, each with its place. -/
def sharedNames (root : Node) : List (Binding × Nat) :=
  root.preorder.filterMap fun n : Node =>
    match n.label with
    | .enum _ | .namespace => some (containerOf n, n.span.start)
    | .classDecl _ => some (bindingOf (n.kid 1), n.span.start)
    | .functionDecl _ => some (bindingOf (n.kid 0), n.span.start)
    | _ => none

/-- What the lowering of namespaces has to know of the script. -/
structure Surroundings where
  enums : List EnumValues
  shared : List (Binding × Nat)

/-- The variable of a binding, unless something declares it already. -/
def variableFor (s : Surroundings) (place : Place) (b : Binding) (n : Node) : List Node :=
  if s.shared.lookup b == some n.span.start then [containerVariable place b n] else []

/-- The assignment of an exported function or class to its property. -/
def exportAssignment (ns : Binding) (b : Binding) (span : Span) : Node :=
  { statement (assign (dot (ref ns) b.1) (ref b)) with span := span }

/-- The assignments that exported variables become; none for those without a value. -/
def exportedVariables (n : Node) : List Node :=
  let assigned := n.kids.filter fun d : Node => !(d.kid 2).isAbsent
  match assigned.map fun d : Node => (⟨.assign "=", d.span, [d.kid 0, d.kid 2]⟩ : Node) with
  | [] => []
  | [e] => [⟨.exprStmt, n.span, [e]⟩]
  | es => [⟨.exprStmt, n.span, [made .sequence es]⟩]

/-- The variable that an alias becomes. -/
def aliasVariable (n : Node) : Node :=
  ⟨.variable "const", n.span, [made .declarator [n.kid 0, Node.absent 0, n.kid 1]]⟩

/-- Lowers a node whose children can be lowered wherever they stand. -/
def expandStep (s : Surroundings) (n : Node) (kids : List (Place → List Node)) (place : Place) :
    List Node :=
  let inner : Place := { place with exported := none }
  let part (p : Place) (i : Nat) : List Node := (kids.getD i fun _ => []) p
  match n.label with
  | .enum isConst =>
    let b := bindingOf (n.kid 0)
    let isInlined := isConst && place.exported.isNone
    let body := memberStatements s.enums isInlined n
    variableFor s place b n ++
      (if isInlined && body.isEmpty then [] else
        [fill b (objectFor place b) body ⟨0, 0⟩ (place.spanOf n)])
  | .namespace =>
    let b := containerOf n
    let body := (part { inner with within := some (innermost n) } 1).flatMap fun b : Node => b.kids
    let span := (n.kid 1).span
    variableFor s place b n ++
      [fill b (objectFor place b) (nest body span (nameParts n)) span (place.spanOf n)]
  | .exportDecl =>
    let d := n.kid 1
    let lowered := part { place with exported := some n.span } 1
    match d.label, place.within with
    | .enum _, _ | .namespace, _ => lowered
    | .functionDecl _, some ns => lowered ++ [exportAssignment ns (bindingOf (d.kid 0)) n.span]
    | .classDecl _, some ns => lowered ++ [exportAssignment ns (bindingOf (d.kid 1)) n.span]
    | .variable _, some _ => lowered.flatMap exportedVariables
    | _, _ => [{ n with kids := [n.kid 0] ++ lowered }]
  | .importEquals isExport _ =>
    if (n.kid 1).label == .externalModule then [n]
    else match isExport, place.within with
      | false, _ => [aliasVariable n]
      | true, none => [⟨.exportDecl, n.span, [Node.absent 0, { aliasVariable n with span := ⟨0, 0⟩ }]⟩]
      | true, some ns =>
        [⟨.exprStmt, n.span, [assign (dot (ref ns) (bindingOf (n.kid 0)).1) (n.kid 1)]⟩]
  | .loneNamespace => [{ n with kids := kids.flatMap fun k => k ⟨none, none⟩ }]
  | _ => [{ n with kids := kids.flatMap fun k => k inner }]

/-- A script without enumerations and namespaces. -/
def lowerNamespaces (root : Node) : Node :=
  let root := setLoneApart root
  let enums := enumValues root
  let constants := constantsOf enums
  let root := qualifyExports (inlineConstants constants root)
  let s : Surroundings := ⟨enums.map (·.inlined constants), sharedNames root⟩
  match root.fold (expandStep s) ⟨none, none⟩ with
  | [n] => n
  | _ => root

end TypedDocs.Script.Lower
