/-
  Building nodes that no text stands for.
-/

import TypedDocs.Script.Scope
import TypedDocs.Text.Escape

namespace TypedDocs.Script.Lower

open Node (made)

/-- A reference to a binding. -/
def ref (b : Binding) : Node :=
  made (.ident b.1 b.2) []

/-- The name of a member. -/
def word (w : String) : Node :=
  made (.ident w globalScope) []

/-- The binding that an identifier belongs to. -/
def bindingOf (n : Node) : Binding :=
  match n.label with
  | .ident name scope => (name, scope)
  | _ => ("", globalScope)

/-- Whether an expression is a literal. -/
def isLiteral (n : Node) : Bool :=
  match n.label with
  | .string _ | .number _ | .bigint _ | .bool _ | .null | .regex _ => true
  | _ => false

/-! ## Text in quotes -/

/-- A text between the quotes that it holds less of. -/
def quoted (s : Text) : String :=
  let quote := if s.count '"' > s.count '\'' then '\'' else '"'
  String.ofList (quote :: Text.escape quote s ++ [quote])

/-- A string. -/
def stringOf (s : Text) : Node :=
  made (.string (quoted s)) []

/-! ## Expressions and statements -/

/-- A call. -/
def call (callee : Node) (args : List Node) : Node :=
  made (.call false) [callee, made .arguments args]

/-- A member by name. -/
def dot (obj : Node) (name : String) : Node :=
  made (.member false) [obj, word name]

/-- A member by value. -/
def at_ (obj key : Node) : Node :=
  made (.index false) [obj, key]

/-- An assignment. -/
def assign (target value : Node) : Node :=
  made (.assign "=") [target, value]

/-- No value. -/
def void0 : Node :=
  made (.unary "void") [made (.number "0") []]

/-- An expression as a statement. -/
def statement (e : Node) : Node :=
  made .exprStmt [e]

/-- A declaration of variables without values. -/
def declareVars (kind : String) (names : List Binding) : Node :=
  made (.variable kind) (names.map fun b =>
    made .declarator [ref b, Node.absent 0, Node.absent 0])

/-- A parameter. -/
def param (b : Binding) : Node :=
  made (.param {}) [Node.absent 0, ref b, Node.absent 0, Node.absent 0]

/-- A function without a name. -/
def function (params : List Binding) (body : Node) : Node :=
  made (.function {}) [Node.absent 0, made .params (params.map param), Node.absent 0, body]

/-! ## Statements that need company -/

/-- A part of a script together with what its lowering leaves to be done around it. -/
structure Lowered where
  node : Node
  /-- Statements to put in front of the statement. -/
  before : List Node
  /-- Statements to put behind it. -/
  after : List Node
  /-- Names to declare at the top of the script. -/
  names : List Binding

namespace Lowered

/-- Puts before and behind each statement what it leaves to be done. -/
def settle (kids : List Lowered) : List Node :=
  kids.flatMap fun k => k.before ++ k.node :: k.after

/-- A node around lowered children.  Where statements are listed, nothing is left to be done. -/
def around (n : Node) (kids : List Lowered) : Lowered :=
  let names := kids.flatMap (·.names)
  match n.label with
  | .program | .block => ⟨{ n with kids := settle kids }, [], [], names⟩
  | .caseClause => ⟨{ n with kids := (kids.take 1).map (·.node) ++ settle (kids.drop 1) }, [], [], names⟩
  | _ =>
    ⟨{ n with kids := kids.map (·.node) }, kids.flatMap (·.before), kids.flatMap (·.after), names⟩

end Lowered

/-- Whether a statement is a string alone, as directives are. -/
def isDirective (n : Node) : Bool :=
  n.label == .exprStmt && (match (n.kid 0).label with
    | .string _ => true
    | _ => false)

/-- Puts statements in front of others, but behind their directives. -/
def prepend (new : List Node) (statements : List Node) : List Node :=
  statements.takeWhile isDirective ++ new ++ statements.dropWhile isDirective

end TypedDocs.Script.Lower
