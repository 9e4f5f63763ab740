/-
  Reading regular expressions.

  Expressions are written with the usual signs: classes in brackets with
  set operations, groups with flags, counted repetitions and escapes.  Look
  around and back references do not belong to the language, and neither do
  braces or brackets that are not closed, signs for single bytes that are no
  ASCII, and expressions that are nested too deeply.
-/

import TypedDocs.Regex.Basic
import TypedDocs.Text.Category
import TypedDocs.Text.Property
import TypedDocs.Text.WritingSystem

namespace TypedDocs.Regex

/-- What the letters of a flag group switch. -/
structure Flags where
  ignoreCase : Bool := false
  multiLine : Bool := false
  dotNewline : Bool := false
  /-- Blanks and comments between the signs say nothing. -/
  verbose : Bool := false
  crlf : Bool := false
  unicode : Bool := true
  deriving DecidableEq, Repr

/-- A reader: what it found and the text behind it. -/
abbrev Reader (α : Type) := Text → Option (α × Text)

/-- Drops blanks and comments where they say nothing. -/
def Flags.skip (f : Flags) (s : Text) : Text :=
  if f.verbose then go s.length s else s
where
  /-- Each round drops something, so the length of the text bounds the rounds. -/
  go : Nat → Text → Text
    | 0, s => s
    | n + 1, s =>
      match s with
      | '#' :: rest => go n (rest.dropWhile (· ≠ '\n'))
      | c :: rest => if Text.isBlank c then go n rest else s
      | [] => []

/-! ## Sets by name -/

/-- Digits, blanks and word characters, of ASCII only or of all scripts. -/
def Flags.digit (f : Flags) : CharSet :=
  if f.unicode then .digit else .range '0' '9'

@[inherit_doc Flags.digit]
def Flags.space (f : Flags) : CharSet :=
  if f.unicode then .space else .union (.one ' ') (.range '\t' '\r')

@[inherit_doc Flags.digit]
def Flags.word (f : Flags) : CharSet :=
  if f.unicode then .word
  else .unions [.range 'a' 'z', .range 'A' 'Z', .range '0' '9', .one '_']

/-- The set behind the letter of an escape. -/
def Flags.letterSet? (f : Flags) : Char → Option CharSet
  | 'd' => some f.digit
  | 'D' => some (.compl f.digit)
  | 's' => some f.space
  | 'S' => some (.compl f.space)
  | 'w' => some f.word
  | 'W' => some (.compl f.word)
  | _ => none

/-- The set of ASCII characters with a name. -/
def asciiSet? : String → Option CharSet
  | "alnum" => some (.unions [.range '0' '9', .range 'A' 'Z', .range 'a' 'z'])
  | "alpha" => some (.unions [.range 'A' 'Z', .range 'a' 'z'])
  | "ascii" => some (.range (Char.ofNat 0) (Char.ofNat 0x7F))
  | "blank" => some (.unions [.one '\t', .one ' '])
  | "cntrl" => some (.unions [.range (Char.ofNat 0) (Char.ofNat 0x1F), .one (Char.ofNat 0x7F)])
  | "digit" => some (.range '0' '9')
  | "graph" => some (.range '!' '~')
  | "lower" => some (.range 'a' 'z')
  | "print" => some (.range ' ' '~')
  | "punct" => some (.unions [.range '!' '/', .range ':' '@', .range '[' (Char.ofNat 0x60),
      .range (Char.ofNat 0x7B) '~'])
  | "space" => some (.unions [.range '\t' '\r', .one ' '])
  | "upper" => some (.range 'A' 'Z')
  | "word" => some (.unions [.range '0' '9', .range 'A' 'Z', .range 'a' 'z', .one '_'])
  | "xdigit" => some (.unions [.range '0' '9', .range 'A' 'F', .range 'a' 'f'])
  | _ => none

/-- A set as the flags have it. -/
def Flags.cased (f : Flags) (s : CharSet) : CharSet :=
  if !f.ignoreCase then s else if f.unicode then .anyCase s else .asciiCase s

/-- A set as the flags allow it: without Unicode its members are bytes, and bytes beyond ASCII
are no text. -/
def Flags.allowed? (f : Flags) (s : CharSet) : Option CharSet :=
  if f.unicode || s.isAscii then some s else none

/-- The range between two characters, as the flags allow it. -/
def Flags.range? (f : Flags) (first last : Char) : Option CharSet :=
  if first ≤ last && (f.unicode || last.toNat < 0x80) then some (f.cased (.range first last)) else none

/-! ## Sets of the Unicode standard -/

/-- A name in small letters, without blanks, dashes, underscores and a leading `is`. -/
def plainName (name : Text) : String :=
  let isGap := fun c => c == ' ' || c == '_' || c == '-'
  let small := name.map Char.toLower
  let plain (s : Text) := String.ofList (s.filter fun c => !isGap c && c.toNat < 0x80)
  match small with
  | 'i' :: 's' :: rest => if plain rest == "c" then "isc" else plain rest
  | _ => plain small

/-- A table as a set of characters. -/
def setOf (s : Text.RangeSet) : CharSet :=
  if s.isComplement then .compl (.table s.ranges) else .table s.ranges

/-- The set with a name: a property, a category or a script.  Three short names of categories
are names of properties too, and mean the categories. -/
def namedProperty? (name : String) : Option CharSet :=
  let property := if ["cf", "sc", "lc"].contains name then none else Text.properties.find? name
  match property with
  | some rs => some (.table rs)
  | none =>
    match Text.category? name with
    | some s => some (setOf s)
    | none => (Text.writingSystem? name).map .table

/-- The set of the characters for which a property has a value. -/
def valuedProperty? (name value : String) : Option CharSet :=
  match name with
  | "gc" | "generalcategory" => (Text.category? value).map setOf
  | "sc" | "script" => (Text.writingSystem? value).map .table
  | "scx" | "scriptextensions" => (Text.usedIn? value).map .table
  | _ => none

/-- The set that is described between braces. -/
def describedSet? (s : Text) : Option CharSet :=
  let isMark := fun c => c == ':' || c == '='
  let split (mark : Char) : Option CharSet :=
    let name := s.takeWhile (· ≠ mark)
    -- An exclamation mark before the sign changes nothing.
    let name := if mark == '=' && name.getLast? == some '!' then name.dropLast else name
    valuedProperty? (plainName name) (plainName ((s.dropWhile (· ≠ mark)).drop 1))
  if !s.any isMark then namedProperty? (plainName s)
  else if s.any (· == ':') && !hasInequality s then split ':'
  else split '='
where
  /-- Whether an exclamation mark stands before an equals sign. -/
  hasInequality : Text → Bool
    | '!' :: '=' :: _ => true
    | _ :: s => hasInequality s
    | [] => false

/-! ## Escapes -/

/-- What a single sign or an escape can stand for. -/
inductive Atom where
  | char (c : Char)
  | set (s : CharSet)
  | anchor (a : Anchor)
  deriving DecidableEq, Repr

/-- The value of a hexadecimal digit. -/
def hexDigit? (c : Char) : Option Nat :=
  if '0' ≤ c ∧ c ≤ '9' then some (c.toNat - 48)
  else if 'a' ≤ c ∧ c ≤ 'f' then some (c.toNat - 87)
  else if 'A' ≤ c ∧ c ≤ 'F' then some (c.toNat - 55)
  else none

/-- The character whose code point hexadecimal digits spell out. -/
def charOfHex? (digits : Text) : Option Char := do
  let values ← digits.mapM hexDigit?
  let n := values.foldl (fun n d => n * 16 + d) 0
  let c := Char.ofNat n
  if values.isEmpty || c.toNat != n then none else some c

/-- Signs up to a closing brace, without what says nothing between them. -/
def Flags.inBraces? (f : Flags) : Reader Text := fun s => go s.length [] (f.skip s)
where
  /-- Each round takes a sign, so the length of the text bounds the rounds. -/
  go : Nat → Text → Text → Option (Text × Text)
    | n + 1, acc, c :: s => if c = '}' then some (acc.reverse, s) else go n (c :: acc) (f.skip s)
    | _, _, _ => none

/-- So many signs, without what says nothing between them. -/
def Flags.signs? (f : Flags) : Nat → Reader Text
  | 0, s => some ([], s)
  | n + 1, s =>
    match f.skip s with
    | [] => none
    | c :: s => (f.signs? n s).map fun (cs, s) => (c :: cs, s)

/-- A code point behind its letter: `width` digits, or any number of them in braces. -/
def codePoint? (f : Flags) (width : Nat) : Reader Char := fun s => do
  let (digits, rest) ← match f.skip s with
    | '{' :: s => f.inBraces? s
    | s => f.signs? width s
  return (← charOfHex? digits, rest)

/-- The set behind `p`: a name of one letter, or a description in braces. -/
def unicodeSet? (f : Flags) : Reader CharSet := fun s => do
  if !f.unicode then none
  let (chars, rest) ← match f.skip s with
    | '{' :: s => do
      let (name, rest) ← f.inBraces? s
      return (← describedSet? name, rest)
    | '\\' :: _ | [] => none
    | c :: rest => return (← namedProperty? (plainName [c]), rest)
  return (f.cased chars, rest)

/-- The anchor behind `\b`, which may be narrowed in braces.  Braces that do
not open with a letter or a dash are left to a repetition. -/
def boundary? (w : CharSet) : Reader Anchor := fun s =>
  match s with
  | '{' :: c :: rest =>
    if c.isAlpha || c == '-' then
      let name := String.ofList ((c :: rest).takeWhile (· ≠ '}'))
      match (c :: rest).dropWhile (· ≠ '}') with
      | [] => none
      | _ :: rest =>
        match name with
        | "start" => some (.wordStart w, rest)
        | "end" => some (.wordEnd w, rest)
        | "start-half" => some (.wordStartHalf w, rest)
        | "end-half" => some (.wordEndHalf w, rest)
        | _ => none
    else some (.boundary w, s)
  | s => some (.boundary w, s)

/-- What stands behind a backslash. -/
def escape? (f : Flags) : Reader Atom := fun s =>
  match s with
  | [] => none
  | c :: rest =>
    match f.letterSet? c with
    | some chars => (f.allowed? chars).map fun chars => (.set chars, rest)
    | none =>
      match c with
      | 'p' => (unicodeSet? f rest).map fun (chars, rest) => (.set chars, rest)
      | 'P' => (unicodeSet? f rest).map fun (chars, rest) => (.set (.compl chars), rest)
      | 'x' => (codePoint? f 2 rest).map fun (c, rest) => (.char c, rest)
      | 'u' => (codePoint? f 4 rest).map fun (c, rest) => (.char c, rest)
      | 'U' => (codePoint? f 8 rest).map fun (c, rest) => (.char c, rest)
      | 'a' => some (.char (Char.ofNat 7), rest)
      | 'f' => some (.char (Char.ofNat 12), rest)
      | 't' => some (.char '\t', rest)
      | 'n' => some (.char '\n', rest)
      | 'r' => some (.char '\r', rest)
      | 'v' => some (.char (Char.ofNat 11), rest)
      | 'A' => some (.anchor .textStart, rest)
      | 'z' => some (.anchor .textEnd, rest)
      | 'b' => (boundary? f.word rest).map fun (a, rest) => (.anchor a, rest)
      | 'B' => some (.anchor (.notBoundary f.word), rest)
      | '<' => some (.anchor (.wordStart f.word), rest)
      | '>' => some (.anchor (.wordEnd f.word), rest)
      | c => if c.toNat < 0x80 && !c.isAlphanum then some (.char c, rest) else none

/-! ## Classes -/

/-- One sign of a class. -/
def classAtom? (f : Flags) : Reader Atom
  | '\\' :: s => escape? f s
  | c :: s => some (.char c, s)
  | [] => none

/-- A set that is named between colons, as in `[:alpha:]`, its bracket already taken. -/
def namedSet? : Reader CharSet
  | ':' :: s =>
    let (negated, s) := match s with
      | '^' :: s => (true, s)
      | s => (false, s)
    match s.dropWhile (· ≠ ':') with
    | ':' :: ']' :: rest =>
      (asciiSet? (String.ofList (s.takeWhile (· ≠ ':')))).map fun chars =>
        (if negated then .compl chars else chars, rest)
    | _ => none
  | _ => none

/-- The set that a sign of a class stands for. -/
def Atom.set? (f : Flags) : Atom → Option CharSet
  | .char c => f.range? c c
  | .set s => some s
  | .anchor _ => none

/-- One sign of a class, or a range between two. -/
def classRange? (f : Flags) : Reader CharSet := fun s => do
  let (low, s) ← classAtom? f s
  match f.skip s with
  | [] => none
  | '-' :: rest =>
    match (f.skip rest).head? with
    | none => none
    | some ']' | some '-' => return (← low.set? f, '-' :: rest)
    | some _ =>
      let (high, s) ← classAtom? f (f.skip rest)
      match low, high with
      | .char a, .char b => (f.range? a b).map (·, s)
      | _, _ => none
  | s => return (← low.set? f, s)

/-- A set, and how deeply the signs that describe it are nested. -/
structure Nested where
  chars : CharSet
  depth : Nat

/-- Several sets side by side. -/
def Nested.union (items : List Nested) : Nested :=
  let deepest := (items.map (·.depth)).foldl max 0
  ⟨CharSet.unions (items.map (·.chars)), if items.length < 2 then deepest else deepest + 1⟩

/-- A pending set operation of a class and its left side. -/
structure Pending where
  combine : CharSet → CharSet → CharSet
  left : Nested

/-- The left side of the next operation, or the whole class. -/
def settle (op : Option Pending) (items : List Nested) : Nested :=
  let right := Nested.union items.reverse
  match op with
  | some p => ⟨p.combine p.left.chars right.chars, max p.left.depth right.depth + 1⟩
  | none => right

/-- The signs behind an opening bracket that stand for themselves: dashes, or
one closing bracket. -/
def classLead (f : Flags) (s : Text) : List Nested × Text :=
  go s.length [] (f.skip s)
where
  /-- Each round takes a sign, so the length of the text bounds the rounds. -/
  go : Nat → List Nested → Text → List Nested × Text
    | n + 1, items, '-' :: s => go n (⟨.one '-', 0⟩ :: items) (f.skip s)
    | _, [], ']' :: s => ([⟨.one ']', 0⟩], s)
    | _, items, s => (items, s)

/-- The negation sign of a class. -/
def classSign (f : Flags) (s : Text) : Bool × Text :=
  match f.skip s with
  | '^' :: s => (true, s)
  | s => (false, s)

/-- The rest of a class behind its opening bracket and the signs after it.
Each round takes a sign, so the length of the text bounds the rounds. -/
def classTail? (f : Flags) :
    Nat → (negated : Bool) → Option Pending → List Nested → Text → Option (Nested × Text)
  | 0, _, _, _, _ => none
  | n + 1, negated, op, items, s =>
    match f.skip s with
    | ']' :: s =>
      let inner := settle op items
      let chars := if negated then .compl inner.chars else inner.chars
      (f.allowed? chars).map fun chars => (⟨chars, inner.depth + 1⟩, s)
    | '&' :: '&' :: s => classTail? f n negated (some ⟨.inter, settle op items⟩) [] s
    | '-' :: '-' :: s => classTail? f n negated (some ⟨.diff, settle op items⟩) [] s
    | '~' :: '~' :: s => classTail? f n negated (some ⟨.symmDiff, settle op items⟩) [] s
    | '[' :: s =>
      match namedSet? s with
      | some (chars, s) =>
        match f.allowed? (f.cased chars) with
        | some chars => classTail? f n negated op (⟨chars, 0⟩ :: items) s
        | none => none
      | none =>
        let (inner, s) := classSign f s
        let (lead, s) := classLead f s
        match classTail? f n inner none lead s with
        | some (nested, s) => classTail? f n negated op (nested :: items) s
        | none => none
    | s =>
      match classRange? f s with
      | some (chars, s) => classTail? f n negated op (⟨chars, 0⟩ :: items) s
      | none => none

/-- A class, its opening bracket already taken. -/
def class? (f : Flags) : Reader Nested := fun s =>
  let (negated, s) := classSign f s
  let (lead, s) := classLead f s
  classTail? f (s.length + 1) negated none lead s

/-! ## Repetitions -/

/-- A number with blanks around it. -/
def decimal? : Reader Nat := fun s =>
  let s := s.dropWhile Text.isBlank
  let digits := s.takeWhile Char.isDigit
  let n := digits.foldl (fun n d => n * 10 + (d.toNat - 48)) 0
  if digits.isEmpty || n ≥ 0x100000000 then none
  else some (n, (s.dropWhile Char.isDigit).dropWhile Text.isBlank)

/-- The bounds of a counted repetition, its opening brace already taken. -/
def bounds? (f : Flags) : Reader (Nat × Option Nat) := fun s => do
  let (least, s) ← decimal? (f.skip s)
  match s with
  | '}' :: s => return ((least, some least), s)
  | ',' :: s =>
    match f.skip s with
    | '}' :: s => return ((least, none), s)
    | s =>
      let (most, s) ← decimal? s
      match s with
      | '}' :: s => if least ≤ most then return ((least, some most), s) else none
      | _ => none
  | _ => none

/-- The sign that makes a repetition take as little as it can; what matches stays the same. -/
def skipLazy : Text → Text
  | '?' :: s => s
  | s => s

/-! ## Groups -/

/-- Switches one flag. -/
def Flags.set? (f : Flags) (value : Bool) : Char → Option Flags
  | 'i' => some { f with ignoreCase := value }
  | 'm' => some { f with multiLine := value }
  | 's' => some { f with dotNewline := value }
  | 'x' => some { f with verbose := value }
  | 'R' => some { f with crlf := value }
  | 'u' => some { f with unicode := value }
  | 'U' => some f
  | _ => none

/-- The letters of a flag group up to its colon or its end.  No letter may be
repeated, and a dash has to be followed by one. -/
def flags? (f : Flags) (value : Bool) (seen : List Char) : Reader Flags
  | [] => none
  | c :: s =>
    if c = ':' ∨ c = ')' then if seen.head? = some '-' then none else some (f, c :: s)
    else if seen.contains c then none
    else if c = '-' then flags? f false (c :: seen) s
    else match f.set? value c with
      | some f => flags? f value (c :: seen) s
      | none => none

/-- Whether a sign can stand in the name of a group. -/
def isNameSign (first : Bool) (c : Char) : Bool :=
  c == '_' || (Text.isWord c && !Text.isDecimalDigit c) ||
    (!first && (Text.isDecimalDigit c || c == '.' || c == '[' || c == ']'))

/-- The name of a group up to its closing angle bracket. -/
def groupName? : Reader Text := fun s =>
  let name := s.takeWhile (· ≠ '>')
  match s.dropWhile (· ≠ '>'), name with
  | _ :: rest, c :: cs =>
    if isNameSign true c && cs.all (isNameSign false) then some (name, rest) else none
  | _, _ => none

/-- The opening of a group behind its parenthesis. -/
inductive Opening where
  | plain
  | named (name : Text)
  /-- Flags for the rest of the group around. -/
  | switch (f : Flags)
  /-- A group with flags of its own. -/
  | scoped (f : Flags)

/-- Reads the opening of a group. -/
def opening? (f : Flags) : Reader Opening := fun s =>
  match s with
  | '?' :: '=' :: _ | '?' :: '!' :: _ => none
  | '?' :: '<' :: '=' :: _ | '?' :: '<' :: '!' :: _ => none
  | '?' :: 'P' :: '<' :: s => (groupName? s).map fun (name, s) => (.named name, s)
  | '?' :: '<' :: s => (groupName? s).map fun (name, s) => (.named name, s)
  | '?' :: ')' :: _ => none
  | '?' :: s =>
    match flags? f true [] s with
    | some (f, ')' :: s) => some (.switch f, s)
    | some (f, _ :: s) => some (.scoped f, s)
    | _ => none
  | s => some (.plain, s)

/-! ## Expressions -/

/-- The deepest nesting of an expression that can be read. -/
def maxDepth : Nat := 250

/-- A part of an expression, and how deeply its signs are nested. -/
structure Part where
  regex : Regex
  depth : Nat

/-- The depth of a list of parts: one more than the deepest if there are several. -/
def Part.depthOf (parts : List Part) : Nat :=
  let deepest := (parts.map (·.depth)).foldl max 0
  if parts.length < 2 then deepest else deepest + 1

/-- What is being read: the flags, the names of groups so far, the branches
that are complete and the parts of the current one, both the latest first. -/
structure Draft where
  flags : Flags
  names : List Text
  branches : List Part
  parts : List Part
  /-- Whether the last part can be repeated. -/
  repeatable : Bool

/-- Adds a part. -/
def Draft.push (d : Draft) (r : Regex) (depth : Nat) : Draft :=
  { d with parts := ⟨r, depth⟩ :: d.parts, repeatable := true }

/-- The current branch. -/
def Draft.current (d : Draft) : Part :=
  ⟨seqs (d.parts.reverse.map (·.regex)), Part.depthOf d.parts⟩

/-- The expression once nothing follows. -/
def Draft.finish (d : Draft) : Part :=
  let branches := d.current :: d.branches
  ⟨alts (branches.reverse.map (·.regex)), Part.depthOf branches⟩

/-- Ends a branch. -/
def Draft.branch (d : Draft) : Draft :=
  { d with branches := d.current :: d.branches, parts := [], repeatable := false }

/-- Repeats the last part. -/
def Draft.repeat? (d : Draft) (least : Nat) (most : Option Nat) : Option Draft :=
  match d.repeatable, d.parts with
  | true, p :: parts => some { d with parts := ⟨.times p.regex least most, p.depth + 1⟩ :: parts }
  | _, _ => none

/-- The expression of an atom. -/
def Atom.regex? (f : Flags) : Atom → Option Regex
  | .anchor a => some (.anchor a)
  | a => (a.set? f).map .set

/-- Any character, or any but those that end lines. -/
def Flags.dot (f : Flags) : CharSet :=
  if f.dotNewline then .compl .none
  else if f.crlf then .compl (.union (.one '\n') (.one '\r'))
  else .compl (.one '\n')

/-- Reads an expression up to its end or to a parenthesis that closes it; the
draft and the text from there on.  Each round takes a sign, so the length of
the text bounds the rounds. -/
def expression? : Nat → Draft → Text → Option (Draft × Text)
  | 0, _, _ => none
  | n + 1, d, s =>
    let f := d.flags
    match f.skip s with
    | [] => some (d, [])
    | ')' :: s => some (d, ')' :: s)
    | '|' :: s => expression? n d.branch s
    | '*' :: s => (d.repeat? 0 none).bind fun d => expression? n d (skipLazy s)
    | '+' :: s => (d.repeat? 1 none).bind fun d => expression? n d (skipLazy s)
    | '?' :: s => (d.repeat? 0 (some 1)).bind fun d => expression? n d (skipLazy s)
    | '{' :: s =>
      match bounds? f s with
      | some ((least, most), s) =>
        (d.repeat? least most).bind fun d => expression? n d (skipLazy (f.skip s))
      | none => none
    | '[' :: s =>
      match class? f s with
      | some (nested, s) => expression? n (d.push (.set nested.chars) nested.depth) s
      | none => none
    | '(' :: s =>
      match opening? f (f.skip s) with
      | none => none
      | some (.switch g, s) =>
        expression? n { d with flags := g, parts := ⟨.empty, 0⟩ :: d.parts, repeatable := false } s
      | some (opening, s) =>
        let inner : Option Draft := match opening with
          | .named name =>
            if d.names.contains name then none else some ⟨f, name :: d.names, [], [], false⟩
          | .scoped f => some ⟨f, d.names, [], [], false⟩
          | _ => some ⟨f, d.names, [], [], false⟩
        match inner.bind fun inner => expression? n inner s with
        | some (inner, ')' :: s) =>
          let part := inner.finish
          expression? n ({ d with names := inner.names }.push part.regex (part.depth + 1)) s
        | _ => none
    | '\\' :: s =>
      match (escape? f s).bind fun (a, s) => (a.regex? f).map (·, s) with
      | some (r, s) => expression? n (d.push r 0) s
      | none => none
    | '.' :: s =>
      match f.allowed? f.dot with
      | some chars => expression? n (d.push (.set chars) 0) s
      | none => none
    | '^' :: s =>
      expression? n (d.push (.anchor (if f.multiLine then .lineStart f.crlf else .textStart)) 0) s
    | '$' :: s =>
      expression? n (d.push (.anchor (if f.multiLine then .lineEnd f.crlf else .textEnd)) 0) s
    | c :: s =>
      match (Atom.char c).regex? f with
      | some r => expression? n (d.push r 0) s
      | none => none

/-- Reads a whole text as an expression. -/
def parse? (s : Text) : Option Regex :=
  match expression? (s.length + 1) ⟨{}, [], [], [], false⟩ s with
  | some (d, []) => if d.finish.depth ≤ maxDepth then some d.finish.regex else none
  | _ => none

end TypedDocs.Regex
