/-
  Functions that a lowered script calls.

  Each is kept as a text and read like any script, so that its names are
  resolved and, where they are in the way, renamed like all others.  A lowered
  script declares those functions that it refers to, in front of everything
  else.
-/

import TypedDocs.Script.Lower.Build
import TypedDocs.Script.Parser

namespace TypedDocs.Script.Lower

/-! ## Texts -/

/-- Applies decorators to a class or to a member of it. -/
def decorateText : String :=
  "function _ts_decorate(decorators, target, key, desc) \x7b
var c = arguments.length, r = c < 3 ? target : desc === null ? desc = Object.getOwnPropertyDescriptor(target, key) : desc, d;
if (typeof Reflect === \"object\" && typeof Reflect.decorate === \"function\") r = Reflect.decorate(decorators, target, key, desc);
else for (var i = decorators.length - 1; i >= 0; i--) if (d = decorators[i]) r = (c < 3 ? d(r) : c > 3 ? d(target, key, r) : d(target, key)) || r;
return c > 3 && r && Object.defineProperty(target, key, r), r;
\x7d"

/-- Makes a decorator of a method from one of a parameter. -/
def paramText : String :=
  "function _ts_param(paramIndex, decorator) \x7b
return function (target, key) \x7b decorator(target, key, paramIndex); \x7d;
\x7d"

/-- Keeps values that have to be disposed of, and disposes of them, the latest first. -/
def usingText : String :=
  "function _using_ctx() \x7b
var _disposeSuppressedError = typeof SuppressedError === \"function\" ? SuppressedError : function (error, suppressed) \x7b
var err = new Error();
err.name = \"SuppressedError\";
err.suppressed = suppressed;
err.error = error;
return err;
\x7d, empty = \x7b\x7d, stack = [];
function using(isAwait, value) \x7b
if (value != null) \x7b
if (Object(value) !== value) \x7b
throw new TypeError(\"using declarations can only be used with objects, functions, null, or undefined.\");
\x7d
if (isAwait) \x7b
var dispose = value[Symbol.asyncDispose || Symbol.for(\"Symbol.asyncDispose\")];
\x7d
if (dispose == null) \x7b
dispose = value[Symbol.dispose || Symbol.for(\"Symbol.dispose\")];
\x7d
if (typeof dispose !== \"function\") \x7b
throw new TypeError(`Property [Symbol.dispose] is not a function.`);
\x7d
stack.push(\x7b v: value, d: dispose, a: isAwait \x7d);
\x7d else if (isAwait) \x7b
stack.push(\x7b d: value, a: isAwait \x7d);
\x7d
return value;
\x7d
return \x7b
e: empty,
u: using.bind(null, false),
a: using.bind(null, true),
d: function () \x7b
var error = this.e;
function next() \x7b
while (resource = stack.pop()) \x7b
try \x7b
var resource, disposalResult = resource.d && resource.d.call(resource.v);
if (resource.a) \x7b
return Promise.resolve(disposalResult).then(next, err);
\x7d
\x7d catch (e) \x7b
return err(e);
\x7d
\x7d
if (error !== empty) throw error;
\x7d
function err(e) \x7b
error = error !== empty ? new _disposeSuppressedError(error, e) : e;
return next();
\x7d
return next();
\x7d
\x7d;
\x7d"

/-- The statements of a text, with scopes numbered from `base` on and no spans. -/
def library (base : Nat) (text : String) : List Node :=
  match read false text.toList with
  | .ok s => ((resolve base s.root).mapUp fun n => { n with span := ⟨0, 0⟩ }).kids
  | .error _ => []

/-! ## References -/

/-- The functions, as they are referred to.  Scopes up to `base` are taken. -/
structure Helpers where
  base : Nat

namespace Helpers

/-- Where the scopes behind those of a text are numbered from. -/
def behind (base : Nat) (text : String) : Nat := base + 8 * (text.length + 1)

/-- Where the scopes of the second function are numbered from. -/
def paramBase (h : Helpers) : Nat := behind h.base decorateText

/-- Where the scopes of the third function are numbered from. -/
def usingBase (h : Helpers) : Nat := behind h.paramBase paramText

/-- The function that decorates. -/
def decorate (h : Helpers) : Binding := ("_ts_decorate", Scope.top h.base)

/-- The function for parameters. -/
def param (h : Helpers) : Binding := ("_ts_param", Scope.top h.paramBase)

/-- The function for values that are disposed of. -/
def usingContext (h : Helpers) : Binding := ("_using_ctx", Scope.top h.usingBase)

/-- The declarations of those functions that a script refers to. -/
def declarations (h : Helpers) (root : Node) : List Node :=
  let ifMentioned (b : Binding) (base : Nat) (text : String) : List Node :=
    if root.preorder.any fun n : Node => n.label == .ident b.1 b.2 then library base text else []
  ifMentioned h.decorate h.base decorateText ++ ifMentioned h.param h.paramBase paramText ++
    ifMentioned h.usingContext h.usingBase usingText

end Helpers

end TypedDocs.Script.Lower
