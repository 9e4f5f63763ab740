/-
  Lowering a typed script to a plain one.

  The script is read, its types are erased, what only types or old engines need
  is put in other words, and the rest is printed anew with its comments.
-/

import TypedDocs.Script.Lower.Decorators
import TypedDocs.Script.Lower.Imports
import TypedDocs.Script.Lower.Namespaces
import TypedDocs.Script.Lower.Properties
import TypedDocs.Script.Lower.Using
import TypedDocs.Script.Parens
import TypedDocs.Script.Rename

namespace TypedDocs.Script

/-- How a script is lowered. -/
structure LowerOptions where
  /-- Whether decorators stay as they are written. -/
  decorators : Bool := false
  /-- Whether elements may stand among expressions; they stay as they are written. -/
  jsx : Bool := false
  deriving DecidableEq, Repr, Inhabited

/-- Why a script cannot be lowered. -/
inductive LowerError where
  /-- The text is no script. -/
  | malformed
  /-- The script has a part that cannot be lowered. -/
  | unsupported
  /-- The text begins with a mark of its byte order. -/
  | byteOrderMark
  /-- The script defines a module whose name is in quotes, so that no variable can hold it. -/
  | quotedName
  deriving DecidableEq, Repr

open Lower

/-- Whether a whole module is imported below the top of a script, where nothing can stand for it
in a plain one. -/
def importsInside (root : Node) : Bool :=
  root.kids.any fun k : Node =>
    match k.label with
    | .importEquals _ _ => false
    | _ => k.preorder.any fun n : Node => n.label == .externalModule

/-- Whether a namespace that becomes a variable has a name in quotes. -/
def hasQuotedNames (root : Node) : Bool :=
  (setLoneApart root).preorder.any fun n : Node =>
    match n.label, (n.kid 0).label with
    | .namespace, .string _ => true
    | _, _ => false

/-- The tree of a script once it is lowered.  `size` bounds the offsets in it. -/
def lowerTree (options : LowerOptions) (size : Nat) (typed : Node) : Except LowerError Node :=
  let h : Helpers := ⟨8 * (size + 2)⟩
  let root := resolve 0 (erase (attachDecorators typed))
  let root := dropUndefined (if options.decorators then root else lowerDecorators h root)
  let root := pruneImports typed (lowerUsing h root)
  if hasQuotedNames root then .error .quotedName
  else
    let root := lowerProperties (lowerNamespaces root)
    if importsInside root then .error .unsupported
    else .ok { root with kids := prepend (h.declarations root) root.kids }

/-- The span from the first token of a script to its last; the end of the text if there is none.
A line that names the interpreter counts as a token. -/
def Reading.tokenSpan (s : Reading) : Span :=
  let firstLine := Text.size s.hashbang
  match s.tokens.head?, s.tokens.getLast? with
  | some first, some last => ⟨if firstLine == 0 then first.span.start else 0, last.span.stop⟩
  | _, _ => if firstLine == 0 then ⟨s.root.span.stop, s.root.span.stop⟩ else ⟨0, firstLine⟩

/-- The comments of a script.  Where nothing follows the line that names the interpreter, they
belong to that line. -/
def Reading.placedComments (s : Reading) : List Comment :=
  if s.tokens.isEmpty && !s.hashbang.isEmpty then
    s.comments.map fun c => { c with home := .trailing (Text.size s.hashbang) }
  else s.comments

/-- The text of a script once it is lowered. -/
def Reading.lower (options : LowerOptions) (source : Text) (s : Reading) :
    Except LowerError String := do
  let (root, moves) := parenthesize (← lowerTree options (Text.size source) s.root)
  let comments := moveComments moves s.placedComments
  return render s.hashbang comments { rename root with span := s.tokenSpan }

/-- Lowers a text. -/
def lower (options : LowerOptions) (source : Text) : Except LowerError String :=
  if source.head? == some (Char.ofNat 0xFEFF) then .error .byteOrderMark
  else match read options.jsx source with
    | .error _ => .error .malformed
    | .ok s =>
      let isForbidden := s.faults.any fun
        | .forbidden _ => true
        | _ => false
      if isForbidden then .error .malformed
      else if !s.faults.isEmpty then .error .unsupported
      else s.lower options source

end TypedDocs.Script
