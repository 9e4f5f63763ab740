/-
  The values of enumerations.

  A member without a value counts on from the one before it.  Values that can
  be worked out are; they may refer to members before them in the same
  declaration.  A use of a member of a constant enumeration is replaced by the
  member's value.
-/

import TypedDocs.Script.Lower.Build
import TypedDocs.Script.Lower.Number
import TypedDocs.Text.Escape

namespace TypedDocs.Script.Lower

open Node (made)
open Json (Double)

/-- The value of a member. -/
inductive EnumValue where
  | number (x : Number)
  | text (s : Text)
  /-- A value that is known only when the script runs. -/
  | unknown (e : Node)
  /-- A member that has no value, because the one before it cannot be counted on from. -/
  | missing

namespace EnumValue

/-- The value of a member behind this one. -/
def next : EnumValue → EnumValue
  | .number x => .number (x.add Number.one)
  | _ => .missing

/-- Whether the value can be worked out. -/
def isKnown : EnumValue → Bool
  | .number _ | .text _ => true
  | _ => false

/-- Whether the value is a text. -/
def isText : EnumValue → Bool
  | .text _ => true
  | _ => false

/-- A number as an expression. -/
def numberNode (x : Number) : Node :=
  let size := match x with
    | .finite x => made (.number (String.ofList (Number.positional x))) []
    | .infinite _ => made (.ident "Infinity" globalScope) []
    | .nan => made (.ident "NaN" globalScope) []
  if x.isNegative then made (.unary "-") [size] else size

/-- The value as an expression. -/
def toNode : EnumValue → Node
  | .number x => numberNode x
  | .text s => stringOf s
  | .unknown e => e
  | .missing => void0

/-- A known value as text. -/
def toText? : EnumValue → Option Text
  | .number x => some x.text
  | .text s => some s
  | _ => none

end EnumValue

/-! ## Literals -/

/-- The exponent of a decimal number, zero if there is none. -/
def exponent? : Text → Option Int
  | [] => some 0
  | _ :: '-' :: ds => (Text.inBase? 10 ds).map fun n => -(n : Int)
  | _ :: '+' :: ds => (Text.inBase? 10 ds).map fun n => (n : Int)
  | _ :: ds => (Text.inBase? 10 ds).map fun n => (n : Int)

/-- A decimal number. -/
def decimal? (s : Text) : Option Number := do
  let isMark := fun c => c == 'e' || c == 'E'
  let exponent ← exponent? (s.dropWhile (!isMark ·))
  let body := s.takeWhile (!isMark ·)
  let fraction := (body.dropWhile (· ≠ '.')).drop 1
  let n ← Text.inBase? 10 (body.takeWhile (· ≠ '.') ++ fraction)
  return Number.ofDecimal n (exponent - fraction.length)

/-- The value of a number as it is written. -/
def numberValue (raw : String) : Option Number :=
  let inBase (base : Nat) (ds : Text) : Option Number :=
    (Text.inBase? base ds).map (Number.ofRatio false · 1)
  match raw.toList.filter (· != '_') with
  | '0' :: 'x' :: ds | '0' :: 'X' :: ds => inBase 16 ds
  | '0' :: 'o' :: ds | '0' :: 'O' :: ds => inBase 8 ds
  | '0' :: 'b' :: ds | '0' :: 'B' :: ds => inBase 2 ds
  | ds => decimal? ds

/-- The text that a string stands for. -/
def stringValue (raw : String) : Text :=
  Text.unescape (raw.toList.drop 1).dropLast

/-! ## Working values out -/

/-- The members of a declaration that come before a place in it, the latest first. -/
abbrev Record := List (Text × EnumValue)

/-- The declaration of an enumeration, as its own values see it. -/
structure Enclosing where
  enum : Binding
  /-- The scope of the members' names. -/
  scope : ScopeId
  record : Record

/-- The value of an earlier member. -/
def Enclosing.value? (c : Enclosing) (name : Text) : Option EnumValue :=
  c.record.lookup name

/-- The pieces of a template put together, if all are known. -/
def joinPieces : List Node → List EnumValue → Option Text
  | [], _ => some []
  | piece :: pieces, value :: values => do
    let s ← match piece.label with
      | .chunk raw => some (Text.unescape (Text.plainLines raw.toList))
      | _ => value.toText?
    return s ++ (← joinPieces pieces values)
  | _ :: _, [] => none

/-- The name that a member is looked up by. -/
def lookupName (n : Node) : Option Text :=
  match n.label with
  | .member false => (n.kid 1).name?.map (·.toList)
  | .index false =>
    match (n.kid 1).label with
    | .string raw => some (stringValue raw)
    | _ => none
  | _ => none

/-- A name that always means the same number, if the script does not declare it. -/
def constant? (name : String) (scope : ScopeId) : Option EnumValue :=
  if scope != globalScope then none
  else match name with
    | "NaN" => some (.number .nan)
    | "Infinity" => some (.number (.infinite false))
    | _ => none

/-- Operators that can be worked out. -/
def isArithmetic (op : String) : Bool :=
  ["+", "-", "*", "/", "%", "**", "<<", ">>", ">>>", "|", "^", "&"].contains op

/-- An operator on two values; one that cannot be worked out takes in those of its
operands that can. -/
def binaryValue (op : String) (n : Node) (a b : EnumValue) : EnumValue :=
  let side (v : EnumValue) (i : Nat) : Node := if v.isKnown then v.toNode else n.kid i
  let partly : EnumValue := .unknown { n with kids := [side a 0, side b 1] }
  if !isArithmetic op then .unknown n
  else match a, b with
    | .number x, .number y => ((Number.operator? op x y).map .number).getD partly
    | a, b =>
      match a.toText?, b.toText? with
      | some s, some t => if op == "+" then .text (s ++ t) else partly
      | _, _ => partly

/-- The value of an expression inside an enumeration. -/
def evaluate (c : Enclosing) (e : Node) : EnumValue :=
  e.fold fun (n : Node) inner =>
    let v := fun i => inner.getD i .missing
    let own (name : Text) : EnumValue :=
      match c.value? name with
      | some w => if w.isKnown then w else .unknown n
      | none => .unknown n
    match n.label with
    | .number raw => ((numberValue raw).map .number).getD (.unknown n)
    | .string raw => .text (stringValue raw)
    | .template => ((joinPieces n.kids inner).map .text).getD (.unknown n)
    | .paren => v 0
    | .ident name s => if s == c.scope then own name.toList else (constant? name s).getD (.unknown n)
    | .member _ | .index _ =>
      match (n.kid 0).label, lookupName n with
      | .ident w s, some name => if (w, s) == c.enum then own name else .unknown n
      | _, _ => .unknown n
    | .unary op =>
      match op, v 0 with
      | "+", .number a => .number a
      | "-", .number a => .number a.neg
      | "~", .number a => .number a.complement
      | _, _ => .unknown n
    | .binary op => binaryValue op n (v 0) (v 1)
    | _ => .unknown n

/-- The name of a member, from its key. -/
def keyName (key : Node) : Text :=
  match key.label with
  | .ident name _ => name.toList
  | .string raw => stringValue raw
  | .number raw =>
    match numberValue raw with
    | some (.finite x) => Number.positional x
    | _ => "inf".toList
  | _ => []

/-- An expression in which earlier members stand as members of their enumeration.  A name that
is also a key stays. -/
def qualify (c : Enclosing) (e : Node) : Node :=
  e.fold fun n inner =>
    match n.label with
    | .ident name s =>
      if s == c.scope && (c.value? name.toList).isSome then dot (ref c.enum) name else n
    | .member _ => { n with kids := inner.take 1 ++ n.kids.drop 1 }
    | .shorthand => { n with kids := n.kids.take 1 ++ inner.drop 1 }
    | _ => { n with kids := inner }

/-- The values of the members of one declaration. -/
structure EnumValues where
  /-- Where the declaration starts. -/
  start : Nat
  enum : Binding
  isConst : Bool
  /-- The members in order, each by its name. -/
  members : List (Text × EnumValue)

/-- Works out one member; the record grows by it. -/
def addMember (enum : Binding) (scope : ScopeId) (acc : Record × EnumValue) (m : Node) :
    Record × EnumValue :=
  let (record, following) := acc
  let c : Enclosing := ⟨enum, scope, record⟩
  let value := if (m.kid 1).isAbsent then following
    else match evaluate c (m.kid 1) with
      | .unknown e => .unknown (qualify c e)
      | v => v
  ((keyName (m.kid 0), value) :: record, value.next)

/-- The values of an enumeration. -/
def valuesOf (n : Node) : Option EnumValues :=
  match n.label with
  | .enum isConst =>
    let enum := bindingOf (n.kid 0)
    let scope := Scope.inside 0 n.span.start
    let record := ((n.kids.drop 1).foldl (addMember enum scope) ([], .number (Number.zero false))).1
    some ⟨n.span.start, enum, isConst, record.reverse⟩
  | _ => none

/-! ## Using values -/

/-- A known member of a constant enumeration: the enumeration, the name and the value. -/
abbrev Constant := (Binding × Text) × EnumValue

/-- The members of constant enumerations whose values are known, the latest first. -/
def constantsOf (enums : List EnumValues) : List Constant :=
  (enums.flatMap fun e =>
    if e.isConst then (e.members.filter (·.2.isKnown)).map fun (name, v) => ((e.enum, name), v)
    else []).reverse

/-- Replaces uses of members of constant enumerations. -/
def inlineConstants (constants : List Constant) (root : Node) : Node :=
  if constants.isEmpty then root
  else
    root.mapUp fun n : Node =>
      match (n.kid 0).label, lookupName n with
      | .ident w s, some name => ((constants.lookup ((w, s), name)).map (·.toNode)).getD n
      | _, _ => n

/-- The values of all enumerations of a script. -/
def enumValues (root : Node) : List EnumValues :=
  root.preorder.filterMap valuesOf

/-- Values in which members of constant enumerations are replaced. -/
def EnumValues.inlined (constants : List Constant) (e : EnumValues) : EnumValues :=
  { e with
    members := e.members.map fun (name, v) =>
      match v with
      | .unknown x => (name, .unknown (inlineConstants constants x))
      | v => (name, v) }

/-- The statement that gives a member its value, and its name to the value. -/
def memberStatement (enum : Binding) (span : Span) (name : Text) (value : EnumValue) : Node :=
  let byName := assign (at_ (ref enum) (stringOf name)) value.toNode
  let e := if value.isText then byName else assign (at_ (ref enum) byName) (stringOf name)
  { statement e with span := span }

/-- The statements for the members of an enumeration; without those whose values are known if
these are written wherever they are used. -/
def memberStatements (enums : List EnumValues) (onlyUnknown : Bool) (n : Node) : List Node :=
  match enums.find? (·.start == n.span.start) with
  | none => []
  | some e =>
    ((n.kids.drop 1).zip e.members).filterMap fun (m, name, value) =>
      if onlyUnknown && value.isKnown then none
      else some (memberStatement e.enum m.span name value)

end TypedDocs.Script.Lower
