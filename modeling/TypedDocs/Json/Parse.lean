/-
  Reading JSON text.

  The reader takes exactly the JSON grammar: four kinds of blank, no leading
  zeros, no control characters inside strings, paired surrogates only.  Arrays
  and objects may nest as deep as the caller allows.  A value that is only
  passed over is read by shape: its surrogates need not pair up, and its
  numbers can be of any size.
-/

import TypedDocs.Json.Value

namespace TypedDocs.Json

/-- A reader: the value it found and the text behind it. -/
abbrev Reader (α : Type) := Text → Option (α × Text)

/-- Drops the blanks of the JSON grammar. -/
def skipBlanks (s : Text) : Text :=
  s.dropWhile fun c => c == ' ' || c == '\n' || c == '\t' || c == '\r'

/-! ## Strings -/

/-- The value of a hexadecimal digit. -/
def hexValue? (c : Char) : Option Nat :=
  if '0' ≤ c ∧ c ≤ '9' then some (c.toNat - 48)
  else if 'a' ≤ c ∧ c ≤ 'f' then some (c.toNat - 87)
  else if 'A' ≤ c ∧ c ≤ 'F' then some (c.toNat - 55)
  else none

/-- Four hexadecimal digits. -/
def codeUnit? : Reader Nat
  | a :: b :: c :: d :: s => do
    let a ← hexValue? a
    let b ← hexValue? b
    let c ← hexValue? c
    let d ← hexValue? d
    return (a * 4096 + b * 256 + c * 16 + d, s)
  | _ => none

/-- How a value is read: for what it says, or by its shape alone. -/
inductive Care where
  | full
  | shape
  deriving DecidableEq, Repr

/-- The character behind a `\u`: one code unit, or a high and a low surrogate. -/
def unicodeEscape? (care : Care) : Reader Char := fun s => do
  let (n, s) ← codeUnit? s
  if care = .shape then return (Char.ofNat n, s)
  else if 0xD800 ≤ n ∧ n ≤ 0xDBFF then
    match s with
    | '\\' :: 'u' :: s =>
      let (m, s) ← codeUnit? s
      if 0xDC00 ≤ m ∧ m ≤ 0xDFFF then
        return (Char.ofNat (0x10000 + (n - 0xD800) * 1024 + (m - 0xDC00)), s)
      else none
    | _ => none
  else if 0xDC00 ≤ n ∧ n ≤ 0xDFFF then none
  else return (Char.ofNat n, s)

/-- The character behind a backslash. -/
def escape? (care : Care) : Reader Char
  | '"' :: s => some ('"', s)
  | '\\' :: s => some ('\\', s)
  | '/' :: s => some ('/', s)
  | 'b' :: s => some (Char.ofNat 8, s)
  | 'f' :: s => some (Char.ofNat 12, s)
  | 'n' :: s => some ('\n', s)
  | 'r' :: s => some ('\r', s)
  | 't' :: s => some ('\t', s)
  | 'u' :: s => unicodeEscape? care s
  | _ => none

/-- The rest of a string, up to its closing quote.  Each step takes a
character, so the length of the text is enough fuel. -/
def stringTail? (care : Care) : Nat → Text → Text → Option (Text × Text)
  | 0, _, _ => none
  | _ + 1, _, [] => none
  | fuel + 1, acc, c :: s =>
    if c = '"' then some (acc.reverse, s)
    else if c = '\\' then
      match escape? care s with
      | some (e, s) => stringTail? care fuel (e :: acc) s
      | none => none
    else if c.toNat < 0x20 then none
    else stringTail? care fuel (c :: acc) s

/-- A string, its opening quote already taken. -/
def string? (care : Care) : Reader Text := fun s =>
  stringTail? care (s.length + 1) [] s

/-! ## Numbers -/

/-- A possibly empty run of digits. -/
def digits (s : Text) : Text × Text :=
  (s.takeWhile Char.isDigit, s.dropWhile Char.isDigit)

/-- The value of a run of digits. -/
def digitsValue (ds : Text) : Nat :=
  ds.foldl (fun n d => n * 10 + (d.toNat - 48)) 0

/-- The exponent of a number, `none` inside when there is none. -/
def exponent? : Reader (Option Int)
  | c :: s =>
    if c = 'e' || c = 'E' then
      let (neg, s) := match s with
        | '+' :: s => (false, s)
        | '-' :: s => (true, s)
        | s => (false, s)
      let (ds, s) := digits s
      if ds.isEmpty then none
      else some (some (if neg then -(digitsValue ds : Int) else digitsValue ds), s)
    else some (none, c :: s)
  | [] => some (none, [])

/-- The fraction digits of a number, none when there is no point. -/
def fraction? : Reader Text
  | '.' :: s =>
    let (ds, s) := digits s
    if ds.isEmpty then none else some (ds, s)
  | s => some ([], s)

/-- A number. -/
def number? (care : Care) : Reader Json := fun s => do
  let (neg, s) := match s with
    | '-' :: s => (true, s)
    | s => (false, s)
  let (whole, s) := digits s
  if whole.isEmpty || (whole.length > 1 && whole.head? == some '0') then none
  else
    let (frac, s) ← fraction? s
    let (exp, s) ← exponent? s
    match care, Number.ofLiteral? neg whole frac exp with
    | _, some n => return (.number n, s)
    | .shape, none => return (.null, s)
    | .full, none => none

/-! ## Values -/

/-- The items of an array behind its first one, up to the closing bracket. -/
def items? (item : Reader Json) : Nat → List Json → Text → Option (List Json × Text)
  | 0, _, _ => none
  | fuel + 1, acc, s =>
    match item (skipBlanks s) with
    | none => none
    | some (v, s) =>
      match skipBlanks s with
      | ',' :: s => items? item fuel (v :: acc) s
      | ']' :: s => some ((v :: acc).reverse, s)
      | _ => none

/-- One member of an object: its name and its value.  The name says how the value is read. -/
def member? (care : Care) (item : Text → Reader Json) (s : Text) : Option ((Text × Json) × Text) :=
  match skipBlanks s with
  | '"' :: s => do
    let (name, s) ← string? care s
    match skipBlanks s with
    | ':' :: s =>
      let (v, s) ← item name (skipBlanks s)
      return ((name, v), s)
    | _ => none
  | _ => none

/-- The members of an object, up to the closing brace. -/
def members? (care : Care) (item : Text → Reader Json) :
    Nat → List (Text × Json) → Text → Option (List (Text × Json) × Text)
  | 0, _, _ => none
  | fuel + 1, acc, s =>
    match member? care item s with
    | none => none
    | some (m, s) =>
      match skipBlanks s with
      | ',' :: s => members? care item fuel (m :: acc) s
      | '}' :: s => some ((m :: acc).reverse, s)
      | _ => none

/-- The rest of a text behind an expected word. -/
def word? (w : String) (v : Json) : Reader Json := fun s =>
  (Text.stripPrefix? w.toList s).map fun s => (v, s)

/-- An array, its opening bracket already taken. -/
def array? (item : Reader Json) : Reader Json := fun s =>
  match skipBlanks s with
  | ']' :: s => some (.array [], s)
  | s => (items? item (s.length + 1) [] s).map fun (vs, s) => (.array vs, s)

/-- An object, its opening brace already taken. -/
def object? (care : Care) (item : Text → Reader Json) : Reader Json := fun s =>
  match skipBlanks s with
  | '}' :: s => some (.object [], s)
  | s => (members? care item (s.length + 1) [] s).map fun (ms, s) => (.object ms, s)

/-- A value that nests at most `depth` arrays and objects. -/
def value? (care : Care) : Nat → Reader Json
  | depth, s =>
    match s with
    | '"' :: s => (string? care s).map fun (t, s) => (.string t, s)
    | '[' :: s =>
      match depth with
      | 0 => none
      | depth + 1 => array? (value? care depth) s
    | '{' :: s =>
      match depth with
      | 0 => none
      | depth + 1 => object? care (fun _ => value? care depth) s
    | 't' :: s => word? "rue" (.bool true) s
    | 'f' :: s => word? "alse" (.bool false) s
    | 'n' :: s => word? "ull" .null s
    | s => number? care s

/-- Any value, read by its shape; no nesting is too deep for it. -/
def shape? : Reader Json := fun s =>
  value? .shape s.length s

/-- What a reader finds in a whole text, blanks around it allowed. -/
def whole? (reader : Reader Json) (s : Text) : Option Json :=
  match reader (skipBlanks s) with
  | some (v, rest) => if (skipBlanks rest).isEmpty then some v else none
  | none => none

/-- The value of a whole text. -/
def parse? (depth : Nat) (s : Text) : Option Json :=
  whole? (value? .full depth) s

end TypedDocs.Json
