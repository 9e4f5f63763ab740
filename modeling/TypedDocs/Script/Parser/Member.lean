/-
  The grammar of patterns, functions, classes and object members.
-/

import TypedDocs.Script.Parser.Type

namespace TypedDocs.Script.P

variable (self : Rule → P Node)

/-! ## Patterns -/

/-- A target with a default, if one is written. -/
def withDefault (target : Node) : P Node := do
  if ← eatMark "=" then
    let value ← self (.assignment false)
    node .assignPattern target.span.start [target, value]
  else return target

/-- A computed key between brackets. -/
def computedKey : P Node := do
  let start ← here
  mark "["
  let e ← if ← isExact then self (.expression false) else self (.assignment false)
  mark "]"
  node .computedKey start [e]

/-- The key of a member or a property. -/
def memberKey : P Node := do
  if ← atMark "[" then computedKey self else plainKey

/-- One property of an object pattern. -/
def patternProperty : P Node := do
  let start ← here
  if ← eatMark "..." then
    let target ← self .pattern
    node .rest start [target]
  else
    let t ← tok
    if (← isExact) && t.kind == .privateName then fail
    let key ← memberKey self
    if ← eatMark ":" then
      let target ← self .pattern
      let target ← withDefault self target
      node .property start [key, target]
    else if t.isName || ((← isExact) && t.kind == .word) then
      let default ← if ← eatMark "=" then self (.assignment false) else missing
      node .shorthand start [key, default]
    else fail

/-- One item of an array pattern; nothing before a comma is a hole. -/
def patternItem : P Node := do
  let start ← here
  if ← atMark "," then missing
  else if ← eatMark "..." then
    let target ← self .pattern
    node .rest start [target]
  else
    let target ← self .pattern
    withDefault self target

/-- Whether what takes the rest of an object is no name. -/
def isNamelessRest (p : Node) : Bool :=
  p.isRest && (p.kid 0).name?.isNone

/-- A target of a binding.  In a program the last property of an object that takes the rest is a
name. -/
def bindingPattern : P Node := do
  let start ← here
  if ← eatMark "\x7b" then
    let ps ← commaList "\x7d" (patternProperty self)
    if (← isExact) && ps.getLast?.any isNamelessRest then fail
    node .objectPattern start ps
  else if ← eatMark "[" then
    let items ← commaList "]" (patternItem self)
    node .arrayPattern start items
  else bindingName

/-! ## Functions -/

/-- The body of a function. -/
def functionBody (flags : FunctionFlags) : P Node :=
  inFunction flags (self .block)

/-- Parameters, return type and body behind a name or a key.  No parameter of a program yields.
The body may be missing when a statement can end there; a program can leave it out even where it
is required. -/
def functionTail (owner : ParamOwner) (flags : FunctionFlags) (bodyRequired : Bool) :
    P (List Node) := do
  let _ ← typeParameters self
  let exact ← isExact
  let ps ← inFunction { flags with isGenerator := flags.isGenerator && !exact } (parameters self owner)
  let ret ← optionalReturn self
  let hasBody ← atMark "\x7b"
  let ends := exact && (← peek semicolon).isSome
  if hasBody || (bodyRequired && !ends) then
    let body ← functionBody self flags
    return [ps, ret, body]
  else
    let nothing ← missing
    if bodyRequired then semicolon
    return [ps, ret, nothing]

/-- A function from its first word on, with or without a name. -/
def functionNode (kind : FunctionFlags → Kind) (nameRequired bodyRequired : Bool) : P Node := do
  let start ← here
  let isAsync ← eatWord "async"
  word "function"
  let isGenerator ← eatMark "*"
  let flags : FunctionFlags := ⟨isAsync, isGenerator⟩
  let name ← if nameRequired then bindingName else optionalName
  let tail ← functionTail self .function flags bodyRequired
  if bodyRequired then node (kind flags) start (name :: tail)
  else do
    if (tail.getD 2 name).isAbsent then semicolon
    node (kind flags) start (name :: tail)

/-! ## Classes -/

/-- The modifiers of a member of an outline, in the order they are written. -/
def outlineModifiers : P (List String) := many do
  let star := fun t : Token => beginsKey t || t.isPunct "*"
  -- These two words name no member.
  if (← looseModifierHere ["abstract", "accessor"] beginsKey) ||
      (← modifierHere ["public", "private", "protected", "override", "readonly", "declare"] beginsKey) ||
      (← modifierHere ["get", "set"] beginsKey) || (← modifierHere ["static", "async"] star) then
    passWord
  else return none

/-- Whether a token ends the name of a field, so that the word before it is that name. -/
def endsFieldName (t : Token) : Bool :=
  ["!", ":", "=", "\x7d", ";", "?", "(", "<"].any t.isPunct || t.kind == .eof

/-- The modifiers of a member of a program, which have an order. -/
def exactModifiers : P (List String) := do
  let opens := fun t : Token => !endsFieldName t
  let one (p : P Bool) : P (List String) := do
    if ← p then return (← passWord).toList else return []
  let accessor := one (modifierHere ["accessor"] opens)
  let declare := one (modifierHere ["declare"] opens)
  let early ← declare
  let access ← eatModifier ["public", "private", "protected", "in", "out"]
  let late ← declare
  let static ← one (looseModifierHere ["static"] opens)
  let auto ← accessor
  let others ← many (eatModifier ["abstract", "readonly", "override", "static"])
  let auto' ← accessor
  let sort ← one do
    if ← modifierHere ["async"] fun t => beginsKey t || t.isPunct "*" then return true
    looseModifierHere ["get", "set"] beginsKey
  return early ++ access.toList ++ late ++ static ++ auto ++ others ++ auto' ++ sort

/-- Whether words are among those of a list, each at most once and in its order. -/
def followsOrder : List String → List String → Bool
  | [], _ => true
  | _ :: _, [] => false
  | w :: ws, o :: order => if w == o then followsOrder ws order else followsOrder (w :: ws) order

/-- Whether an outline has modifiers in an order that it knows. -/
def isOutlineOrder (isField : Bool) (words : List String) : Bool :=
  let words := words.map fun w => if w == "private" || w == "protected" then "public" else w
  let words := words.map fun w => if w == "set" then "get" else w
  let heads := [["declare", "public"], ["public", "declare"]]
  let tails := [["static", "override", "readonly"], ["abstract", "readonly"], ["readonly", "abstract"],
    ["accessor"]]
  if isField then heads.any fun h => tails.any fun t => followsOrder words (h ++ t)
  else followsOrder words ["public", "static", "override", "readonly", "async", "get"] ||
    followsOrder words ["public", "abstract", "override", "get"]

/-- The flags that modifiers stand for. -/
def memberFlags (words : List String) : MemberFlags :=
  words.foldl
    (fun f w =>
      match w with
      | "static" => { f with isStatic := true }
      | "abstract" => { f with isAbstract := true }
      | "declare" => { f with isDeclare := true }
      | "readonly" => { f with isReadonly := true }
      | "override" => { f with isOverride := true }
      | "accessor" => { f with isAccessor := true }
      | "get" => { f with sort := .getter }
      | "set" => { f with sort := .setter }
      | "async" | "in" | "out" => f
      | w => { f with accessibility := some w })
    {}

/-- An index signature of a class of an outline, its opening bracket being the current token. -/
def indexSignature (start : Nat) : P Node := do
  mark "["
  let _ ← nameNode
  let _ ← typeAscription self
  mark "]"
  let _ ← typeAscription self
  let n ← node .indexSignature start []
  let _ ← eatMark ";"
  return n

/-- An index signature of a class behind its modifiers, if one is there.  One of a program is
neither hidden nor abstract and replaces nothing. -/
def indexSignature? (start : Nat) (words : List String) : P (Option Node) := do
  if !(← atMark "[") then return none
  if !(← isExact) then return ← attempt (indexSignature self start)
  let isPlain := !(["public", "private", "protected", "abstract", "override"].any words.contains)
  if isPlain && (← opensIndex) then
    indexMember self
    return some (← node .indexSignature start [])
  else return none

/-- A method behind its key. -/
def methodTail (start : Nat) (decos mods key : Node) (flags : MemberFlags) (fn : FunctionFlags)
    (owner : ParamOwner) (bodyRequired : Bool) : P Node := do
  let fnStart ← here
  let nothing ← missing
  let tail ← functionTail self owner fn bodyRequired
  let f ← node (.function fn) fnStart (nothing :: tail)
  node (.method flags) start [decos, mods, key, f]

/-- A field behind its key.  In a program only one that cannot be left out has the mark that it
gets its value elsewhere. -/
def fieldTail (start : Nat) (decos mods key : Node) (flags : MemberFlags) : P Node := do
  if (← isExact) && !flags.isOptional then let _ ← eatMark "!"
  let type ← optionalAscription self
  let value ←
    if ← eatMark "=" then
      inFunction {} (self (.assignment false))
    else missing
  let n ← node (.field flags) start [decos, mods, key, type, value]
  if ← isExact then
    if (← attempt semicolon).isNone then reject (← here)
  else if !(← eatMark ",") then semicolon
  return n

/-- Whether a key names the constructor. -/
def namesConstructor (key : Node) : Bool :=
  match key.label with
  | .ident name _ => name == "constructor"
  | .string raw => (raw.toList.drop 1).dropLast == "constructor".toList
  | _ => false

/-- Whether a parameter is to be a field although no single name stands for it. -/
def isNamelessField (p : Node) : Bool :=
  match p.label with
  | .param f =>
    f.declaresProperty && (p.kid 3).isAbsent && (p.kid 1).name?.isNone && (p.kid 1).label != .this
  | _ => false

/-- A member as a program has it.  A constructor is never static; no field has its name, and
it neither waits nor yields; no method is read-only. -/
def checkMember (m : Node) : P Node := do
  let isConstructor := namesConstructor (m.kid 2)
  match m.label with
  | .method f =>
    let fn : FunctionFlags := match (m.kid 3).label with
      | .function flags => flags
      | _ => {}
    let isNameless := isConstructor && ((m.kid 3).kid 1).kids.any isNamelessField
    if (f.isReadonly && f.sort == .method) || (isConstructor && (fn.isAsync || fn.isGenerator)) ||
        isNameless then
      note (.forbidden m.span.start)
    if isConstructor && f.sort == .method then
      return { m with label := .method { f with isStatic := false } }
    else return m
  | .field _ =>
    if isConstructor then note (.forbidden m.span.start)
    return m
  | _ => return m

/-- One member of a class. -/
def classMember : P Node := do
  let start ← here
  let exact ← isExact
  if (← atWord "static") && (← nextTok).isPunct "\x7b" then
    advance
    let body ← inFunction {} (self .block)
    return ← node .staticBlock start [body]
  let decos ← decorators self
  let modStart ← here
  let words ← if exact then exactModifiers else outlineModifiers
  let isGenerator ← eatMark "*"
  let mods ← if words.isEmpty && !isGenerator then missing else node .list modStart []
  let mods : Node := { mods with span := ⟨modStart, mods.span.stop⟩ }
  let fn : FunctionFlags := ⟨words.contains "async", isGenerator⟩
  if let some n ← indexSignature? self start words then return n
  let key ← memberKey self
  let isOptional ← eatMark "?"
  if !exact then let _ ← eatMark "!"
  let flags := { memberFlags words with isOptional := isOptional }
  let isMethod := (← atMark "(") || (← atMark "<")
  if !exact && !isOutlineOrder (!isMethod) words then note (.rejected start)
  if isMethod then
    let isConstructor := namesConstructor key && flags.sort == .method && fn == {}
    let owner := if isConstructor then .constructor else .function
    let m ← methodTail self start decos mods key flags fn owner false
    if ((m.kid 3).kid 3).isAbsent && (exact || !(← eatMark ",")) then semicolon
    return m
  else
    if exact && !(← atAnyMark ["!", ":", "="]) && (← peek semicolon).isNone then fail
    if exact && (isGenerator || ["get", "set", "async"].any words.contains) then fail
    fieldTail self start decos mods key flags

/-- The members of a class between braces. -/
def classBody : P Node := do
  let start ← here
  mark "\x7b"
  let exact ← isExact
  let ms ← many do
    let _ ← many do
      if ← eatMark ";" then return some () else return none
    if ← atClose then return none
    let m ← classMember self
    if exact then return some (← checkMember m) else return some m
  closeBrace
  node .classBody start ms

/-- What a class extends, with its type arguments. -/
def superclass : P Node := do
  let e ← self (.chain true)
  if ← atMark "<" then let _ ← typeArguments self
  return e

/-- What a class of an outline implements: types up to the body or another clause. -/
def implementedTypes : P Unit := do
  let atEnd := do return (← atMark "\x7b") || (← atAnyWord ["extends", "implements"])
  let _ ← many do
    if ← atEnd then return none
    let t ← self .plainType
    if !(← atEnd) then mark ","
    return some t
  return

/-- What a class or an interface of a program is based on: names with dots and type arguments,
up to the body or another clause. -/
def basedOn : P Unit := do
  let atEnd := do return (← atMark "\x7b") || (← atAnyWord ["extends", "implements"])
  let _ ← many do
    if ← atEnd then return none
    let _ ← anyWord
    let _ ← many do
      if ← eatMark "." then return some (← anyWord) else return none
    if ← atMark "<" then let _ ← typeArguments self
    if !(← atEnd) then mark ","
    return some ()
  return

/-- The class that a class of an outline extends.  Of several the first counts. -/
def outlineHeritage : P Node := do
  let parents ← many do
    if ← eatWord "extends" then
      let e ← superclass self
      let _ ← many do
        if ← eatMark "," then return some (← superclass self) else return none
      return some e
    else return none
  let _ ← many do
    if ← eatWord "implements" then return some (← implementedTypes self) else return none
  match parents with
  | e :: _ => return e
  | [] => missing

/-- The class that a class of a program extends.  Of several the first counts; each clause can be
there twice, and the one that extends also behind the others. -/
def exactHeritage : P Node := do
  let extended : P (List Node) := do
    if ← eatWord "extends" then return [← superclass self] else return []
  let first ← extended
  if !first.isEmpty && (← eatMark ",") then basedOn self
  let second ← extended
  if ← eatWord "implements" then basedOn self
  if ← eatWord "implements" then basedOn self
  let third ← extended
  match first ++ second ++ third with
  | e :: _ => return e
  | [] => missing

/-- A class from its decorators on; they have been read already. -/
def classNode (kind : Kind) (start : Nat) (decos : Node) (nameRequired : Bool) : P Node := do
  let _ ← eatWord "abstract"
  word "class"
  let exact ← isExact
  if exact && nameRequired && (← atWord "let") then fail
  let named := (← tok).isName && !(← atWord "implements")
  let name ←
    if nameRequired || (named && !exact) then bindingName
    else if exact then optionalName
    else missing
  let _ ← typeParameters self
  let parent ← if exact then exactHeritage self else outlineHeritage self
  let body ← classBody self
  node kind start [decos, name, parent, body]

/-! ## Object literals -/

/-- The parameters that an accessor of an object keeps: none for one that reads, one for one
that writes, where the first of several is none. -/
def accessorParams (sort : MethodSort) (m : Node) : Node :=
  let f := m.kid 3
  let ps := f.kid 1
  let kept : List Node := match sort, ps.kids with
    | .method, ps => ps
    | .getter, _ => []
    | .setter, _ :: p :: _ => [p]
    | .setter, [p] => [p]
    | .setter, [] =>
      let nothing := Node.absent ps.span.stop
      [⟨.param {}, ps.span, [nothing, ⟨.invalid, ps.span, []⟩, nothing, nothing]⟩]
  { m with kids := m.kids.set 3 { f with kids := f.kids.set 1 { ps with kids := kept } } }

/-- The words in front of a method of an object.  An outline takes any number of them. -/
def methodWordsHere : P (List String) := do
  let star := fun t : Token => beginsKey t || t.isPunct "*"
  let one : P (Option String) := do
    if (← looseModifierHere ["get", "set"] beginsKey) || (← looseModifierHere ["async"] star) then
      passWord
    else return none
  if ← isExact then return (← one).toList else many one

/-- A property of an object whose key is no name and which has no value.  A program can be read
with one if it is the last. -/
def keyWithoutValue (start : Nat) (key : Node) : P Node := do
  let t ← tok
  if (← isExact) && t.isPunct "\x7d" then
    reject t.span.start
    node .property start [key, ⟨.invalid, ⟨t.span.start, t.span.start⟩, []⟩]
  else fail

/-- One property of an object literal. -/
def objectProperty : P Node := do
  let start ← here
  let exact ← isExact
  if ← eatMark "..." then
    let e ← self (.assignment false)
    return ← node .spread start [e]
  let nothing ← missing
  let modifies := fun t : Token => t.kind == .word || t.isPunct "["
  if exact && (← modifierHere ["public", "protected", "private", "readonly"] modifies) then advance
  let modStart ← here
  let words ← methodWordsHere
  let isGenerator ← eatMark "*"
  if exact && isGenerator && !words.isEmpty && words != ["async"] then fail
  let mods ← if words.isEmpty && !isGenerator then pure nothing else node .list modStart []
  let t ← tok
  if exact && t.kind == .privateName then fail
  let key ← memberKey self
  if (← atMark "(") || (← atMark "<") then
    let flags := memberFlags words
    let m ← methodTail self start nothing { mods with span := ⟨modStart, mods.span.stop⟩ } key flags
      ⟨words.contains "async", isGenerator⟩ .function true
    return if exact then accessorParams flags.sort m else m
  if exact && (isGenerator || !words.isEmpty) then fail
  if ← eatMark ":" then
    let value ← self (.assignment false)
    node .property start [key, value]
  else if t.isName || (exact && t.kind == .word) then
    let _ ← if exact then eatMark "?" else pure false
    let default ← if ← eatMark "=" then self (.assignment false) else missing
    node .shorthand start [key, default]
  else keyWithoutValue start key

end TypedDocs.Script.P
