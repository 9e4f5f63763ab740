/-
  The outline of a script.

  The syntax tree gives the constructs; words, marks and comments are put back
  into the gaps between them, each into the smallest construct around it.
-/

import TypedDocs.Outline
import TypedDocs.Script.Parser

namespace TypedDocs.Script

open TypedDocs (Outline)

/-! ## Constructs -/

/-- Gives nodes a role. -/
def asRole (role : Outline.Role) (ts : List Outline) : List Outline :=
  ts.map fun t => { t with label := { t.label with role := some role } }

/-- A construct with children. -/
def construct (kind : Outline.Kind) (span : Span) (kids : List Outline) : Outline :=
  ⟨⟨kind, none⟩, span, kids⟩

/-- Parameters, return type and body of a function in their roles. -/
def functionKids (kids : List (List Outline)) : List Outline :=
  let at_ := fun i => kids.getD i []
  asRole .name (at_ 0) ++ asRole .parameters (at_ 1) ++ asRole .returnType (at_ 2) ++ at_ 3

/-- The kind of a function declaration, by its body and its star. -/
def functionKind (n : Node) (flags : FunctionFlags) : Outline.Kind :=
  if (n.kid 3).isAbsent then .functionSig
  else if flags.isGenerator then .generatorDecl
  else .functionDecl

/-- The kind of a method, by its body and its modifiers. -/
def methodKind (n : Node) (flags : MemberFlags) : Outline.Kind :=
  if !((n.kid 3).kid 3).isAbsent then .methodDef
  else if flags.isAbstract then .abstractMethodSig
  else .methodSig

/-! ## Late ends -/

/-- White space that does not count as a blank where a statement may end. -/
def isOddBlank (c : Char) : Bool :=
  isSpace c && 0x80 ≤ c.toNat

/-- Whether the first thing behind a statement, before its line ends, is an odd blank. -/
def opensOddly (gap : Text) : Bool :=
  match gap.dropWhile fun c => isSpace c && !isOddBlank c && c != '\n' with
  | c :: _ => isOddBlank c
  | [] => false

/-- A comment that follows a token with nothing but white space between them. -/
structure Follower where
  tokenStop : Nat
  comment : Span

/-- For each token that a comment follows, that comment. -/
def followers : List Outline → List Follower
  | a :: b :: rest =>
    if !a.isNamed && b.isNamed then ⟨a.span.stop, b.span⟩ :: followers (b :: rest)
    else followers (b :: rest)
  | _ => []

/-- Statements end late where an odd blank follows them: the first comment
behind the blank is still a part of the statement.  These are the offsets at
which such statements would end, each with the one where they do. -/
def lateEnds (text : Text) (leaves : List Outline) : List (Nat × Nat) :=
  if text.any isOddBlank then
    ((followers leaves).filter fun f =>
      opensOddly (text.sliceOf ⟨f.tokenStop, f.comment.start⟩)).map
        fun f => (f.tokenStop, f.comment.stop)
  else []

/-- The span of a statement that nothing closes, which may end late. -/
def openSpan (late : List (Nat × Nat)) (span : Span) : Span :=
  match late.find? (·.1 == span.stop) with
  | some (_, stop) => ⟨span.start, stop⟩
  | none => span

/-! ## Nodes -/

/-- The constructs of a node, from those of its children. -/
def outlineStep (late : List (Nat × Nat)) (n : Node) (kids : List (List Outline)) : List Outline :=
  let at_ := fun i => kids.getD i []
  -- Children that end late take their parents with them.
  let stop := kids.flatten.foldl (fun stop k => max stop k.span.stop) n.span.stop
  let n : Node := { n with span := ⟨n.span.start, stop⟩ }
  let as_ := fun kind => [construct kind n.span kids.flatten]
  match n.label with
  | .absent => []
  | .list => kids.flatten
  | .program => as_ .program
  | .ident _ _ => as_ .identifier
  | .this => as_ .this
  | .rest => as_ .restPattern
  | .functionDecl flags =>
    [construct (functionKind n flags) (openSpan late n.span) (functionKids kids)]
  | .function _ => [construct .other n.span (functionKids kids)]
  | .classDecl isAbstract =>
    [construct (if isAbstract then .abstractClassDecl else .classDecl) (openSpan late n.span)
      (at_ 0 ++ asRole .name (at_ 1) ++ at_ 2 ++ at_ 3)]
  | .classBody => as_ .classBody
  | .method flags =>
    -- Decorators stand beside a method, not inside it.
    let inner := (at_ 3).flatMap (·.kids)
    at_ 0 ++ [construct (methodKind n flags) ⟨(n.kid 1).span.start, n.span.stop⟩
      (asRole .name (at_ 2) ++ inner)]
  | .field _ =>
    [construct .fieldDef n.span (at_ 0 ++ asRole .name (at_ 2) ++ asRole .type (at_ 3) ++ at_ 4)]
  | .params => as_ .params
  | .param flags =>
    [construct (if flags.isOptional then .optionalParam else .requiredParam) n.span
      (at_ 0 ++ asRole .pattern (at_ 1) ++ asRole .type (at_ 2) ++ at_ 3)]
  | .variable _ => [construct .variableDecl (openSpan late n.span) kids.flatten]
  | .exprStmt => [construct .other (openSpan late n.span) kids.flatten]
  | .declarator =>
    [construct .declarator n.span (asRole .name (at_ 0) ++ asRole .type (at_ 1) ++ at_ 2)]
  | .decorator => as_ .decorator
  | .ambient => as_ .ambientDecl
  | .exportNamed _ | .exportAll _ | .exportDecl | .exportDefault | .exportValue
  | .exportAssign | .exportAsNamespace => as_ .exportStmt
  | .typeAscription => as_ .typeAscription
  | .predefinedType => as_ .predefinedType
  | .typeIdent => as_ .typeIdent
  | .nestedType => [construct .nestedTypeIdent n.span (at_ 0 ++ asRole .name (at_ 1))]
  | .genericType => [construct .genericType n.span (asRole .name (at_ 0) ++ at_ 1)]
  | _ => as_ .other

/-! ## Words, marks and comments -/

/-- Distributes leaves over constructs in text order: a leaf before a construct
stays beside it, a leaf inside goes into it. -/
def distribute : List (Span × (List Outline → Outline)) → List Outline → List Outline
  | [], leaves => leaves
  | (span, put) :: rest, leaves =>
    let before := leaves.takeWhile (·.span.stop ≤ span.start)
    let leaves := leaves.dropWhile (·.span.stop ≤ span.start)
    let inside := leaves.takeWhile (·.span.stop ≤ span.stop)
    let leaves := leaves.dropWhile (·.span.stop ≤ span.stop)
    before ++ put inside :: distribute rest leaves

/-- Puts leaves into a construct.  A construct of one token keeps no leaf for it. -/
def graft (t : Outline) : List Outline → Outline :=
  t.fold fun t puts leaves =>
    if t.kids.isEmpty && leaves.all (fun l : Outline => !l.isNamed && l.span == t.span) then t
    else { t with kids := distribute ((t.kids.map (·.span)).zip puts) leaves }

/-- Merges tokens and comments, each in order, by where they start. -/
def leaves (tokens : List Token) (comments : List Comment) : List Outline :=
  let words := tokens.map fun t => construct (.token t.text) t.span []
  let notes := comments.map fun c => construct .comment c.span []
  (words ++ notes).mergeSort fun a b => a.span.start ≤ b.span.start

/-- The outline of a script that was read from a text. -/
def Reading.outline (text : Text) (s : Reading) : Outline :=
  let ls := leaves s.tokens s.comments
  match s.root.fold (outlineStep (lateEnds text ls)) with
  | t :: _ => graft t ls
  | [] => construct .program s.root.span []

/-- The outline of any text. -/
def outlineOf (jsx : Bool) (text : Text) : Outline :=
  (recover jsx text).outline text

end TypedDocs.Script
