/-
  The syntax tree of a script.

  A node's label says what it is; the label's comment says which children it
  has, in order.  A child that is not written is an `absent` node, so that
  children keep their places.  Names, operators and literals keep the text
  they were read from.
-/

import TypedDocs.Tree

namespace TypedDocs.Script

/-- How a function is declared. -/
structure FunctionFlags where
  isAsync : Bool := false
  isGenerator : Bool := false
  deriving DecidableEq, Repr, Inhabited

/-- The three sorts of methods. -/
inductive MethodSort where
  | method
  | getter
  | setter
  deriving DecidableEq, Repr, Inhabited

/-- The modifiers of a member of a class or an object. -/
structure MemberFlags where
  sort : MethodSort := .method
  isStatic : Bool := false
  isAbstract : Bool := false
  isDeclare : Bool := false
  isReadonly : Bool := false
  isOverride : Bool := false
  isAccessor : Bool := false
  isOptional : Bool := false
  accessibility : Option String := none
  deriving DecidableEq, Repr, Inhabited

/-- The modifiers of a parameter. -/
structure ParamFlags where
  isOptional : Bool := false
  isReadonly : Bool := false
  isOverride : Bool := false
  accessibility : Option String := none
  deriving DecidableEq, Repr, Inhabited

/-- Whether a parameter also declares a property. -/
def ParamFlags.declaresProperty (f : ParamFlags) : Bool :=
  f.isReadonly || f.isOverride || f.accessibility.isSome

/-- When the module that an import names is fetched and run. -/
inductive ImportPhase where
  | evaluation
  | source
  | defer
  deriving DecidableEq, Repr, Inhabited

/-- The number of a scope.  Scopes are numbered from where they start, so no two
of a script share a number. -/
abbrev ScopeId := Nat

/-- The scope of names that the script does not declare, and of names that are
not resolved yet. -/
def globalScope : ScopeId := 0

/-- What a node of a script is. -/
inductive Kind where
  /-- A child that is not written. -/
  | absent
  /-- Several nodes in one place. -/
  | list
  -- Names and literals
  /-- A name and the scope it belongs to. -/
  | ident (name : String) (scope : ScopeId)
  | privateName (name : String)
  | this
  | super
  | null
  | bool (value : Bool)
  | number (raw : String)
  | bigint (raw : String)
  | string (raw : String)
  | regex (raw : String)
  /-- The text of a template between its expressions. -/
  | chunk (raw : String)
  /-- `new.target` or `import.meta`. -/
  | metaProperty (raw : String)
  /-- The `import` of a call. -/
  | importRef
  -- Expressions
  /-- Chunks with an expression between neighbours. -/
  | template
  /-- The tag and the template. -/
  | tagged
  /-- Items; a hole is absent. -/
  | array
  /-- Properties, methods and spreads. -/
  | object
  /-- Key and value. -/
  | property
  /-- An identifier and its default. -/
  | shorthand
  | spread
  | computedKey
  /-- Name, parameters, return type, body. -/
  | function (flags : FunctionFlags)
  /-- Parameters, return type, body. -/
  | arrow (isAsync : Bool)
  /-- Decorators, name, superclass, members. -/
  | classExpr
  | unary (op : String)
  | update (op : String) (isPrefix : Bool)
  | binary (op : String)
  | assign (op : String)
  /-- Test, consequent, alternative. -/
  | conditional
  /-- Callee, arguments. -/
  | call (isOptional : Bool)
  /-- Callee, arguments or nothing. -/
  | new
  /-- Object and name. -/
  | member (isOptional : Bool)
  /-- Object and expression. -/
  | index (isOptional : Bool)
  | sequence
  | paren
  | yield (isDelegate : Bool)
  | await
  | arguments
  /-- Expression and type, with the word between them. -/
  | cast (word : String)
  /-- Type and expression. -/
  | typeAssertion
  /-- An expression whose type is to be as narrow as can be. -/
  | constAssertion
  | nonNull
  /-- Expression and type arguments. -/
  | instantiation
  | decorator
  -- Elements
  /-- Opening tag, children, closing tag. -/
  | element
  /-- Name and attributes. -/
  | openTag (selfClosing : Bool)
  | closeTag
  /-- A name, possibly with dots or a colon, as written. -/
  | elementName (raw : String)
  /-- Name and value. -/
  | attribute
  | spreadAttribute
  | elementText (raw : String)
  /-- An expression, or nothing, between braces. -/
  | elementExpr
  -- Patterns
  /-- What stands in the place of a target and can be none. -/
  | invalid
  | objectPattern
  | arrayPattern
  /-- Target and default. -/
  | assignPattern
  | rest
  | params
  /-- Decorators, pattern, type annotation, default. -/
  | param (flags : ParamFlags)
  -- Types
  /-- A type behind its colon. -/
  | typeAscription
  /-- A type predicate behind its colon. -/
  | predicateAscription
  | predefinedType
  | typeIdent
  /-- Qualifier and name. -/
  | nestedType
  /-- Name and type arguments. -/
  | genericType
  | otherType
  | typeParams
  | typeArgs
  -- Statements
  | program
  | block
  | empty
  | exprStmt
  /-- Declarators. -/
  | variable (word : String)
  /-- Pattern, type annotation, initializer. -/
  | declarator
  /-- Test, consequent, alternative. -/
  | ifStmt
  /-- Initializer, test, update, body. -/
  | forStmt
  | forIn
  | forOf (isAwait : Bool)
  | whileStmt
  /-- Body, test. -/
  | doWhile
  /-- Discriminant, cases. -/
  | switch
  /-- Test or nothing, statements. -/
  | caseClause
  /-- Block, handler, finalizer. -/
  | try
  /-- Parameter, type annotation, block. -/
  | catchClause
  | throw
  | return
  | break
  | continue
  | labeled
  | debugger
  | with
  /-- Name, parameters, return type, body. -/
  | functionDecl (flags : FunctionFlags)
  /-- Decorators, name, superclass, members. -/
  | classDecl (isAbstract : Bool)
  -- Class members
  | classBody
  /-- Decorators, modifiers, key, function. -/
  | method (flags : MemberFlags)
  /-- Decorators, modifiers, key, type annotation, initializer. -/
  | field (flags : MemberFlags)
  | indexSignature
  | staticBlock
  -- Declarations of types
  | interface
  | typeAlias
  /-- Name, members. -/
  | enum (isConst : Bool)
  /-- Key, initializer. -/
  | enumMember
  /-- Name, body. -/
  | namespace
  /-- An enumeration that stays as it is written. -/
  | loneEnum (isConst : Bool)
  /-- A namespace that stays as it is written. -/
  | loneNamespace
  /-- Declaration. -/
  | ambient
  -- Modules
  /-- Specifiers, source, attributes. -/
  | importDecl (isType : Bool) (phase : ImportPhase)
  /-- Imported name, local name. -/
  | importSpec (isType : Bool)
  | importDefault
  | importNamespace
  /-- Name, reference. -/
  | importEquals (isExport isType : Bool)
  | externalModule
  /-- Specifiers, source, attributes. -/
  | exportNamed (isType : Bool)
  /-- Local name, exported name. -/
  | exportSpec (isType : Bool)
  /-- Name or nothing, source, attributes. -/
  | exportAll (isType : Bool)
  /-- Decorators, declaration. -/
  | exportDecl
  /-- Decorators, declaration. -/
  | exportDefault
  /-- Decorators, expression. -/
  | exportValue
  | exportAssign
  | exportAsNamespace
  deriving DecidableEq, Repr, Inhabited

/-- A node of a script. -/
abbrev Node := Tree Kind

namespace Node

/-- Nothing at an offset. -/
def absent (offset : Nat) : Node :=
  ⟨.absent, ⟨offset, offset⟩, []⟩

/-- Whether the node is not written. -/
def isAbsent (n : Node) : Bool :=
  n.label == .absent

/-- A node that no text stands for. -/
def made (kind : Kind) (kids : List Node) : Node :=
  ⟨kind, ⟨0, 0⟩, kids⟩

/-- The child in a place; absent past the last one. -/
def kid (n : Node) (i : Nat) : Node :=
  n.kids.getD i (absent n.span.stop)

/-- The name of an identifier. -/
def name? (n : Node) : Option String :=
  match n.label with
  | .ident name _ => some name
  | _ => none

/-- The node inside any parentheses around it. -/
def bare (n : Node) : Node :=
  n.fold fun n inner =>
    match n.label, inner with
    | .paren, e :: _ => e
    | _, _ => n

/-- Whether a chain of members and calls has an optional link. -/
def hasOptionalLink (n : Node) : Bool :=
  n.fold fun n inner =>
    match n.label with
    | .member opt | .index opt | .call opt => opt || inner.headD false
    | .nonNull => inner.headD false
    | _ => false

/-- Whether an expression inside a pattern stands for itself as a target.  Some of these can
never be assigned to, but they are told apart from patterns. -/
def isPlainTarget (n : Node) : Bool :=
  match n.label with
  | .ident _ _ | .number _ | .bigint _ | .string _ | .regex _ | .bool _ | .null | .function _
  | .classExpr | .template | .new | .paren | .cast "as" => true
  | .member _ | .index _ | .call _ => !n.hasOptionalLink
  | _ => false

/-- What stands where a target should and is none. -/
def toInvalid (n : Node) : Node :=
  ⟨.invalid, n.span, []⟩

/-- Whether an item of a pattern takes what the others leave. -/
def isRest (n : Node) : Bool :=
  n.label == .rest

/-- Items of an array without the holes behind the last one. -/
def dropHoles (items : List Node) : List Node :=
  (items.reverse.dropWhile isAbsent).reverse

/-- The items that an array keeps as a pattern.  Only the very last one can take the rest, so
others that do are dropped, and so are holes at the end. -/
def patternItems (items : List Node) : List Node :=
  let early := items.dropLast.filter (!isRest ·)
  match items.getLast? with
  | some last => if last.isAbsent then dropHoles early else early ++ [last]
  | none => []

/-- A property of a pattern that binds; the rest of an object is a name. -/
def namedRest (n : Node) : Node :=
  if isRest n && (n.kid 0).name?.isNone then { n with kids := [toInvalid (n.kid 0)] } else n

/-- Reads an expression as a pattern: as one that binds names, or as one that is
assigned to. -/
def toPattern (binds : Bool) (n : Node) : Node :=
  n.fold fun n inner =>
    match n.label, n.kids, inner with
    | .array, _, items => ⟨.arrayPattern, n.span, patternItems items⟩
    | .object, _, items => ⟨.objectPattern, n.span, if binds then items.map namedRest else items⟩
    | .spread, _, items => ⟨.rest, n.span, items⟩
    | .assign "=", target :: value :: _, _ => ⟨.assignPattern, n.span, [target, value]⟩
    | .property, key :: _, _ :: value :: _ => ⟨.property, n.span, [key, value]⟩
    | .absent, _, _ | .ident _ _, _, _ | .shorthand, _, _ | .method _, _, _ => n
    | .arrayPattern, _, _ | .objectPattern, _, _ | .assignPattern, _, _ => n
    | _, _, _ => if !binds && isPlainTarget n then n else toInvalid n

/-- A pattern that binds, as it is once its arrays and objects have been read as expressions. -/
def reread (n : Node) : Node :=
  n.fold fun n inner =>
    match n.label with
    | .arrayPattern => { n with kids := patternItems inner }
    | .objectPattern => { n with kids := inner.map namedRest }
    | .rest => { n with kids := inner }
    | .property => { n with kids := n.kids.take 1 ++ inner.drop 1 }
    | .assignPattern => { n with kids := inner.take 1 ++ n.kids.drop 1 }
    | _ => n

/-- The names that a pattern binds, apart from those that are also keys. -/
def boundApart (n : Node) : List String :=
  n.fold fun n inner =>
    match n.label with
    | .ident name _ => [name]
    | .objectPattern | .arrayPattern | .rest => inner.flatten
    | .property => inner.getD 1 []
    | .assignPattern => inner.getD 0 []
    | _ => []

/-- The names that a declaration gives to something. -/
def declaredIdents (n : Node) : List Node :=
  n.fold fun n inner =>
    let part := fun i => inner.getD i []
    match n.label with
    | .ident _ _ => [n]
    | .variable _ | .objectPattern | .arrayPattern => inner.flatten
    | .declarator | .shorthand | .assignPattern | .rest | .functionDecl _ => part 0
    | .property | .classDecl _ => part 1
    | _ => []

/-- Whether a pattern holds nothing but targets. -/
def isPattern (n : Node) : Bool :=
  n.fold fun n inner =>
    match n.label with
    | .objectPattern | .arrayPattern => inner.all id
    | .method _ => false
    | .property => inner.getD 1 true
    | .rest | .assignPattern => inner.getD 0 true
    | _ => true

/-- Whether an expression names one place to store a value in. -/
def isSimpleTarget (n : Node) : Bool :=
  n.fold fun n inner =>
    match n.label with
    | .ident name _ => name != "eval" && name != "arguments"
    | .member opt | .index opt => !opt && !hasOptionalLink (kid n 0)
    | .paren | .nonNull | .cast _ | .instantiation => inner.headD false
    | .typeAssertion => inner.getD 1 false
    | _ => false

end Node

end TypedDocs.Script
