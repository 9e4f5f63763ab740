/-
  The grammar of what types and functions share.

  Type parameters, type arguments, types behind a colon, parameters and the
  members of object types.  None of them says what a script does, so most of
  what is read is only passed.
-/

import TypedDocs.Script.Parser.Basic

namespace TypedDocs.Script.P

variable (self : Rule → P Node)

/-- Notes that an outline has at least one thing between two angle brackets. -/
def nonEmpty (start : Nat) (items : List Node) : P Unit := do
  if !(← isExact) && items.isEmpty then note (.rejected start)

/-! ## Modifiers -/

/-- Whether a token can begin the name of a member. -/
def beginsKey (t : Token) : Bool :=
  t.kind == .word || t.kind == .string || t.kind == .number || t.kind == .bigint ||
    t.kind == .privateName || t.isPunct "["

/-- Whether a token can follow a modifier of a program. -/
def followsModifier (t : Token) : Bool :=
  beginsKey t || ["\x7b", "*", "..."].any t.isPunct

/-- Whether the current word is a modifier: the right thing follows, on its line or on another. -/
def looseModifierHere (words : List String) (follow : Token → Bool) : P Bool := do
  if ← atAnyWord words then return follow (← nextTok) else return false

/-- Whether the current word is a modifier: the right thing follows on its line. -/
def modifierHere (words : List String) (follow : Token → Bool) : P Bool :=
  looseModifierHere words fun t => !t.newlineBefore && follow t

/-- Passes the current word and gives its text. -/
def passWord : P (Option String) := do
  let t ← tok
  advance
  return some t.text

/-- Passes one of some modifiers of a program, if it is there. -/
def eatModifier (words : List String) : P (Option String) := do
  if ← modifierHere words followsModifier then passWord else return none

/-- Passes a modifier of a program where none has a meaning. -/
def eatIdleModifier : P Unit := do
  let follow := fun t : Token => t.kind == .word || t.isPunct "\x7b" || t.isPunct "["
  if ← modifierHere ["public", "protected", "private", "readonly"] follow then advance

/-! ## Type arguments and type parameters -/

/-- Type arguments between angle brackets. -/
def typeArguments : P Node := do
  let start ← here
  mark "<"
  let args ← commaList ">" (self .type)
  nonEmpty start args
  node .typeArgs start args

/-- A modifier of a type parameter.  An outline knows nothing of variance. -/
def typeParameterModifier : P (Option String) := do
  if ← isExact then
    eatModifier
      ["public", "private", "protected", "readonly", "abstract", "const", "override", "in", "out"]
  else if ← looseModifierHere ["const", "in", "out"] (·.kind == .word) then
    if !(← atWord "const") then note (.rejected (← here))
    passWord
  else return none

/-- One type parameter. -/
def typeParameter : P Node := do
  let start ← here
  let _ ← many typeParameterModifier
  let name ← declaredName
  let bound ← if ← eatWord "extends" then self .type else missing
  let default ← if ← eatMark "=" then self .type else missing
  node .otherType start [name, bound, default]

/-- Type parameters between angle brackets, absent when there are none. -/
def typeParameters : P Node := do
  if ← atMark "<" then
    let start ← here
    advance
    let ps ← commaList ">" (typeParameter self)
    nonEmpty start ps
    node .typeParams start ps
  else missing

/-! ## Types behind a colon -/

/-- A type behind a colon. -/
def typeAscription : P Node := do
  let start ← here
  mark ":"
  let t ← self .type
  node .typeAscription start [t]

/-- A type behind a colon, absent when there is no colon. -/
def optionalAscription : P Node := do
  if ← atMark ":" then typeAscription self else missing

/-- A predicate of an outline: `asserts x`, `asserts x is T` or `x is T`. -/
def typePredicate : P Node := do
  let start ← here
  let next ← nextTok
  let asserts := (← atWord "asserts") && next.kind == .word && !next.newlineBefore
    && !next.isWord "is"
  -- The word is never a name.
  if (← atWord "asserts") && next.isPunct "\x7b" then
    note (.rejected start)
    leaf .otherType
  else if asserts then
    advance
    let subject ← anyWord
    let t ← if ← eatWord "is" then self .type else missing
    node .otherType start [subject, t]
  else
    let subject ← anyWord
    if (← tok).newlineBefore then fail
    word "is"
    let t ← self .type
    node .otherType start [subject, t]

/-- Whether a name stands at the current token of a program of which something is said. -/
def atSubject : P Bool := do
  let next ← nextTok
  return (← tok).isFree && next.isWord "is" && !next.newlineBefore

/-- A predicate of a program, if one is there. -/
def exactPredicate? : P (Option Node) := do
  let start ← here
  let asserts := (← atWord "asserts") && (← nextTok).isFree
  if asserts then advance
  if ← atSubject then
    advance
    advance
    let t ← self .type
    return some (← node .otherType start [t])
  else if asserts then
    advance
    return some (← node .otherType start [])
  else return none

/-- What a function returns, if it is a predicate. -/
def predicate? : P (Option Node) := do
  if ← isExact then exactPredicate? self else attempt (typePredicate self)

/-- The type a function returns, behind a colon. -/
def returnAscription : P Node := do
  let start ← here
  mark ":"
  match ← predicate? self with
  | some p => node .predicateAscription start [p]
  | none =>
    let t ← self .type
    node .typeAscription start [t]

/-- The type a function returns, absent when it is not written. -/
def optionalReturn : P Node := do
  if ← atMark ":" then returnAscription self else missing

/-! ## Parameters -/

/-- Whose parameters they are, which decides what a program can write about them. -/
inductive ParamOwner where
  | function
  | constructor
  | arrow
  deriving DecidableEq, Repr

/-- Decorators in front of something. -/
def decorators : P Node := do
  let start ← here
  let ds ← many do
    if ← atMark "@" then return some (← self .decorator) else return none
  if ds.isEmpty then missing else node .list start ds

/-- What modifiers say about a parameter. -/
def paramFlags (words : List String) : ParamFlags :=
  words.foldl
    (fun f w =>
      match w with
      | "readonly" => { f with isReadonly := true }
      | "override" => { f with isOverride := true }
      | "in" | "out" => f
      | w => { f with accessibility := some w })
    {}

/-- Modifiers of a parameter of an outline. -/
def outlineParamModifiers : P ParamFlags := do
  let follow := fun t : Token =>
    t.kind == .word || t.isPunct "\x7b" || t.isPunct "[" || t.isPunct "..."
  let words ← many do
    if ← modifierHere ["public", "private", "protected", "readonly", "override"] follow then passWord
    else return none
  return paramFlags words

/-- Modifiers of a parameter of a program.  Those of a constructor have an order; elsewhere
they have no meaning. -/
def exactParamModifiers (owner : ParamOwner) : P ParamFlags := do
  let start ← here
  let words ←
    if owner == .constructor then
      let access ← eatModifier ["public", "protected", "private", "in", "out"]
      let override ← eatModifier ["override"]
      let fixed ← eatModifier ["readonly"]
      pure (access.toList ++ override.toList ++ fixed.toList)
    else pure []
  eatIdleModifier
  -- What takes the rest has none.
  if start < (← here) && (← atMark "...") then fail
  return paramFlags words

/-- Modifiers of a parameter. -/
def paramModifiers (owner : ParamOwner) : P ParamFlags := do
  if ← isExact then exactParamModifiers owner else outlineParamModifiers

/-- What a parameter binds. -/
def paramTarget : P Node := do
  let start ← here
  if ← eatMark "..." then
    let target ← self .pattern
    node .rest start [target]
  else if ← atWord "this" then leaf .this
  else self .pattern

/-- What stands behind the target of a parameter: whether it can be left out, its type and its
default.  A program may have the type behind the default; there, what takes the rest of the
arguments of a function has its mark last. -/
def paramTail (owner : ParamOwner) (isRest : Bool) : P (Bool × Node × Node) := do
  let exact ← isExact
  let isMarkedLast := exact && isRest && owner != .arrow
  let opt ← if isMarkedLast then pure false else eatMark "?"
  let early ← optionalAscription self
  let default ← if ← eatMark "=" then self (.assignment false) else missing
  let isLate := exact && early.isAbsent && !default.isAbsent
  let type ← if isLate then optionalAscription self else pure early
  if isMarkedLast then let _ ← eatMark "?"
  return (opt, type, default)

/-- One parameter. -/
def parameter (owner : ParamOwner) : P Node := do
  let start ← here
  let exact ← isExact
  if exact && owner == .arrow && (← atMark "@") then fail
  let decos ← decorators self
  let flags ← paramModifiers owner
  let target ← paramTarget self
  let (opt, type, default) ← paramTail self owner target.isRest
  if exact && owner == .arrow && target.isRest && !default.isAbsent then fail
  node (.param { flags with isOptional := opt }) start [decos, target, type, default]

/-- Parameters between parentheses. -/
def parameters (owner : ParamOwner) : P Node := do
  let start ← here
  mark "("
  let ps ← commaList ")" (parameter self owner)
  node .params start ps

/-! ## Signatures -/

/-- The parameters of a signature.  In a program they have no defaults. -/
def signatureParams : P Node := do
  let ps ← parameters self .function
  if (← isExact) && ps.kids.any fun p : Node => !(p.kid 3).isAbsent then fail
  return ps

/-- A signature: type parameters, parameters and the type returned. -/
def signature : P Unit := do
  let _ ← typeParameters self
  let _ ← signatureParams self
  let _ ← optionalReturn self
  return

/-- Whether a signature begins at a token. -/
def opensSignature (t : Token) : Bool :=
  t.isPunct "(" || t.isPunct "<"

/-! ## Members of object types -/

/-- A key that is not computed. -/
def plainKey : P Node := do
  let t ← tok
  match t.kind with
  | .word => leaf (.ident t.text globalScope)
  | .privateName => leaf (.privateName t.text)
  | .string => leaf (.string t.text)
  | .number => leaf (.number t.text)
  | .bigint => leaf (.bigint t.text)
  | _ => fail

/-- A plus or a minus in front of a modifier of a mapped type. -/
def mappedSign : P Bool := do
  if ← eatMark "+" then return true else eatMark "-"

/-- The name of a mapped type and what it stands for, up to the closing bracket. -/
def mappedName : P Unit := do
  let _ ← declaredName
  word "in"
  let _ ← self .type
  if ← eatWord "as" then let _ ← self .type
  mark "]"

/-- What stands behind the key of a member: a signature, or a type. -/
def memberType : P Unit := do
  if opensSignature (← tok) then signature self else let _ ← optionalAscription self

/-- A member of an outline whose key stands in brackets: a mapped type, an index signature or a
computed name. -/
def bracketMember : P Unit := do
  mark "["
  let mapped ← attempt do
    mappedName self
    let _ ← mappedSign
    let _ ← eatMark "?"
    let _ ← optionalAscription self
  if mapped.isSome then return
  let indexed ← attempt do
    let _ ← nameNode
    let _ ← typeAscription self
    mark "]"
    let _ ← eatMark "?"
    let _ ← optionalAscription self
  if indexed.isSome then return
  let _ ← self (.assignment false)
  mark "]"
  let _ ← eatMark "?"
  memberType self

/-- One member of an object type of an outline. -/
def outlineTypeMember : P Unit := do
  if opensSignature (← tok) then return ← signature self
  if (← atWord "new") && opensSignature (← nextTok) then
    advance
    return ← signature self
  if ← mappedSign then word "readonly"
  let follow := fun t : Token =>
    t.kind == .word || t.kind == .string || t.kind == .number || t.isPunct "["
  let words :=
    ["readonly", "get", "set", "public", "private", "protected", "static", "declare", "override"]
  let _ ← many do
    if ← modifierHere words follow then passWord else return none
  if ← atMark "[" then bracketMember self
  else
    let _ ← plainKey
    let _ ← eatMark "?"
    memberType self

/-- Ends a member of an object type of a program. -/
def endTypeMember : P Unit := do
  if !(← eatMark ",") then semicolon

/-- Whether an index signature of a program begins at the current token.  A comma behind the
name shows it too. -/
def opensIndex : P Bool := do
  let found ← peek do
    mark "["
    let isNamed := (← tok).isFree
    advance
    return isNamed && (← atAnyMark [":", ","])
  return found.getD false

/-- An index signature of a program. -/
def indexMember : P Unit := do
  mark "["
  let _ ← anyWord
  advance
  let _ ← self .type
  mark "]"
  let _ ← optionalAscription self
  endTypeMember

/-- The key of a member of an object type of a program. -/
def typeKey : P Unit := do
  if ← eatMark "[" then
    let _ ← self (.assignment false)
    mark "]"
  else let _ ← plainKey

/-- A member of an object type of a program that reads or writes a value: the one has no
parameters, the other has some and returns nothing. -/
def accessorMember : P Unit := do
  let isGetter ← atWord "get"
  if !isGetter && !(← atWord "set") then fail
  advance
  typeKey self
  if isGetter then
    mark "("
    mark ")"
    let _ ← optionalAscription self
  else
    let ps ← signatureParams self
    if ps.kids.isEmpty then fail
  endTypeMember

/-- One member of an object type of a program.  No method is read-only. -/
def exactTypeMember : P Unit := do
  if (← atWord "new") && opensSignature (← nextTok) then advance
  if opensSignature (← tok) then
    signature self
    return ← endTypeMember
  let isFixed := (← eatModifier ["readonly"]).isSome
  if ← opensIndex then return ← indexMember self
  if !isFixed && (← attempt (accessorMember self)).isSome then return
  typeKey self
  let _ ← eatMark "?"
  if isFixed && opensSignature (← tok) then fail
  memberType self
  endTypeMember

/-- The members of a type between braces.  One mark ends a member; an outline may have one
before them all. -/
def typeBody : P Node := do
  let start ← here
  mark "\x7b"
  let exact ← isExact
  if !exact && (← atAnyMark [";", ","]) then advance
  let _ ← many do
    if ← atMark "\x7d" then return none
    if exact then exactTypeMember self
    else
      outlineTypeMember self
      endTypeMember
    return some ()
  mark "\x7d"
  node .otherType start []

/-- Whether a mapped type of a program begins at the current brace. -/
def opensMapped : P Bool := do
  let found ← peek do
    advance
    if ← mappedSign then return ← atWord "readonly"
    let _ ← eatWord "readonly"
    mark "["
    let isNamed := (← tok).isFree
    advance
    return isNamed && (← atWord "in")
  return found.getD false

/-- A mapped type of a program, which has no other members. -/
def mappedType : P Node := do
  let start ← here
  mark "\x7b"
  if ← mappedSign then word "readonly" else let _ ← eatWord "readonly"
  mark "["
  mappedName self
  if ← mappedSign then mark "?" else let _ ← eatMark "?"
  let _ ← optionalAscription self
  semicolon
  mark "\x7d"
  node .otherType start []

/-- An object type. -/
def objectType : P Node := do
  if (← isExact) && (← opensMapped) then mappedType self else typeBody self

end TypedDocs.Script.P
