/-
  Reading a script.

  `grammar` closes the circle of rules with a step count.  A rule passes on
  less than a dozen times before it passes a token, so a small multiple of the
  length of the text is enough.  `read` takes a whole script; `recover` passes
  over tokens at which reading stops, one by one, so that every text has a
  tree.
-/

import TypedDocs.Script.Parser.Statement

namespace TypedDocs.Script

namespace P

/-- One step of the grammar: what a rule reads, given how deeper rules read. -/
def step (self : Rule → P Node) : Rule → P Node
  | .statement place => statement self place
  | .block => block self
  | .expression noIn => expression self noIn
  | .assignment noIn => assignment self noIn
  | .binary noIn p => binary self noIn p
  | .unary => unary self
  | .chain withCalls => chain self withCalls
  | .pattern => bindingPattern self
  | .type => anyType self
  | .plainType => plainType self
  | .element => elementNode self
  | .decorator => decoratorNode self

/-- The grammar, for so many steps. -/
def grammar : Nat → Rule → P Node
  | 0, _ => fail
  | n + 1, rule => step (grammar n) rule

/-- A whole script. -/
def program (self : Rule → P Node) : P Node := do
  let body ← many do
    if (← tok).kind == .eof then return none
    return some (← self (.statement .top))
  if (← tok).kind != .eof then fail
  return ⟨.program, ⟨0, (← here)⟩, body⟩

end P

/-- Everything that reading a script gives. -/
structure Reading where
  hashbang : Text
  root : Node
  /-- The tokens in order. -/
  tokens : List Token
  /-- The comments in order. -/
  comments : List Comment
  faults : List Fault
  deriving Inhabited

/-- A script of which nothing could be read. -/
def Reading.blank (text : Text) : Reading :=
  ⟨[], ⟨.program, ⟨0, Text.size text⟩, []⟩, [], [], []⟩

/-- Steps that are enough for a text. -/
def stepsFor (text : Text) : Nat :=
  16 * text.length + 64

/-- The first line of a script that names its interpreter. -/
def hashbang (text : Text) : Text :=
  match text with
  | '#' :: '!' :: _ => text.takeWhile (!isLineEnd ·)
  | _ => []

/-- Reads a text, passing over its first line if it names an interpreter and
over holes. -/
def readWith (holes : List Span) (jsx exact : Bool) (text : Text) : Except Failure Reading :=
  let first := hashbang text
  match (P.program (P.grammar (stepsFor text))).run
      (P.start (⟨0, Text.size first⟩ :: holes) jsx exact text) with
  | .ok (root, s) =>
    .ok ⟨first, root, s.tokens.reverse.filter (!·.text.isEmpty), s.comments.reverse, s.faults⟩
  | .error e => .error e

/-- Reads a text that has to be a program as a whole. -/
def read (jsx : Bool) (text : Text) : Except Failure Reading :=
  readWith [] jsx true text

/-- The token that is in the way: the one at which reading stopped, or the last one if the
text ends too early. -/
def Failure.culprit (e : Failure) : Token :=
  if e.token.kind == .eof then e.last else e.token

/-- Reads a text, passing over each token that is in the way.  Every round
adds a hole, so the length of the text bounds the rounds. -/
def recoverFrom (jsx : Bool) (text : Text) : Nat → List Span → Reading
  | 0, _ => Reading.blank text
  | n + 1, holes =>
    match readWith holes jsx false text with
    | .ok s => s
    | .error e =>
      let hole := e.culprit.span
      if hole.start < hole.stop then recoverFrom jsx text n (hole :: holes)
      else Reading.blank text

/-- Whether a text has to be passed over in part to have an outline. -/
def isBroken (jsx : Bool) (text : Text) : Bool :=
  match readWith [] jsx false text with
  | .ok s => s.faults.any fun
    | .unclosed _ | .rejected _ => true
    | .forbidden _ => false
  | .error _ => true

/-- Reads any text. -/
def recover (jsx : Bool) (text : Text) : Reading :=
  recoverFrom jsx text (text.length + 1) []

end TypedDocs.Script
