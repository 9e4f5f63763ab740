/-
  JSON values and their text.

  An object keeps its members in the order they were written, repeated names
  included; what a repeated name means is for the reader of the object to say.
-/

import TypedDocs.Json.Number

namespace TypedDocs

/-- A JSON value. -/
inductive Json where
  | null
  | bool (value : Bool)
  | number (value : Json.Number)
  | string (value : Text)
  | array (items : List Json)
  | object (members : List (Text × Json))
  deriving Repr, Inhabited

namespace Json

/-- A whole number. -/
def int (n : Int) : Json := .number (.int n)

/-- A count or an offset. -/
def nat (n : Nat) : Json := .number (.int n)

/-- A string given as a `String`. -/
def str (s : String) : Json := .string s.toList

/-- An object given with `String` names. -/
def obj (members : List (String × Json)) : Json :=
  .object (members.map fun m => (m.1.toList, m.2))

/-- The member of an object, the last one if the name is repeated. -/
def get? (name : String) : Json → Option Json
  | .object members => (members.reverse.find? (·.1 == name.toList)).map (·.2)
  | _ => none

/-! ## Repeated names -/

/-- The members of an object without those whose name comes again. -/
def lastMembers : List (Text × Json) → List (Text × Json)
  | [] => []
  | m :: ms => if ms.any (·.1 == m.1) then lastMembers ms else m :: lastMembers ms

mutual

/-- A value in which no object repeats a name; of repeated members the last one stays. -/
def plain : Json → Json
  | .array items => .array (plainItems items)
  | .object members => .object (lastMembers (plainMembers members))
  | v => v

@[inherit_doc plain]
def plainItems : List Json → List Json
  | [] => []
  | v :: vs => plain v :: plainItems vs

@[inherit_doc plain]
def plainMembers : List (Text × Json) → List (Text × Json)
  | [] => []
  | (name, v) :: ms => (name, plain v) :: plainMembers ms

end

/-! ## Writing -/

/-- The hexadecimal digit of a number below sixteen. -/
def hexDigit (n : Nat) : Char :=
  if n < 10 then Char.ofNat (48 + n) else Char.ofNat (87 + n)

/-- One code unit as four hexadecimal digits behind its mark. -/
def escapeUnit (n : Nat) : Text :=
  ['\\', 'u', hexDigit (n / 4096 % 16), hexDigit (n / 256 % 16), hexDigit (n / 16 % 16),
    hexDigit (n % 16)]

/-- A character inside a JSON string; outside printable ASCII only its code units are written. -/
def escapeChar (c : Char) : Text :=
  if c = '"' then ['\\', '"']
  else if c = '\\' then ['\\', '\\']
  else if c = '\n' then ['\\', 'n']
  else if c = '\r' then ['\\', 'r']
  else if c = '\t' then ['\\', 't']
  else
    let n := c.toNat
    if 0x20 ≤ n && n < 0x7F then [c]
    else if n < 0x10000 then escapeUnit n
    else escapeUnit (0xD800 + (n - 0x10000) / 1024) ++ escapeUnit (0xDC00 + (n - 0x10000) % 1024)

/-- A string between quotes. -/
def quote (s : Text) : Text :=
  '"' :: s.flatMap escapeChar ++ ['"']

/-- Texts with a comma between neighbours. -/
def commaSeparated : List Text → Text
  | [] => []
  | [t] => t
  | t :: ts => t ++ ',' :: commaSeparated ts

mutual

/-- The text of a value, without blanks. -/
def render : Json → Text
  | .null => "null".toList
  | .bool true => "true".toList
  | .bool false => "false".toList
  | .number n => n.text
  | .string s => quote s
  | .array items => '[' :: commaSeparated (renderItems items) ++ [']']
  | .object members => '{' :: commaSeparated (renderMembers members) ++ ['}']

/-- The texts of the items of an array. -/
def renderItems : List Json → List Text
  | [] => []
  | v :: vs => render v :: renderItems vs

/-- The texts of the members of an object. -/
def renderMembers : List (Text × Json) → List Text
  | [] => []
  | (name, v) :: ms => (quote name ++ ':' :: render v) :: renderMembers ms

end

end Json

end TypedDocs
