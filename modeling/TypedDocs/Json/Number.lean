/-
  Binary floating point numbers, exactly.

  A finite double is a sign with `mantissa * 2 ^ exponent`, `mantissa < 2 ^ 53`.
  Rounding a quotient to the nearest double and finding the shortest decimal
  that rounds back are done in whole numbers, so nothing here depends on how a
  machine computes.
-/

import TypedDocs.Text.Basic

namespace TypedDocs.Json

/-- A finite double: `mantissa * 2 ^ exponent`, with a sign that zero has too. -/
structure Double where
  negative : Bool
  mantissa : Nat
  exponent : Int
  deriving DecidableEq, Repr, Inhabited

namespace Double

/-- Numerator and denominator of `2 ^ e`. -/
def pow2 (e : Int) : Nat × Nat :=
  if 0 ≤ e then (Nat.pow 2 e.toNat, 1) else (1, Nat.pow 2 (-e).toNat)

/-- The quotient rounded to the nearest whole number, a half to the even one. -/
def roundDiv (num den : Nat) : Nat :=
  let q := num / den
  let r := num % den
  if 2 * r < den then q
  else if 2 * r > den then q + 1
  else if q % 2 = 0 then q else q + 1

/-- The nearest double to `num / den`, `none` when it is too large. -/
def ofRatio? (negative : Bool) (num den : Nat) : Option Double :=
  if num = 0 then some ⟨negative, 0, 0⟩
  else
    let guess : Int := (Nat.log2 num : Int) - (Nat.log2 den : Int) - 52
    -- The quotient lies in [2 ^ (guess + 51), 2 ^ (guess + 53)); move it to 53 bits.
    let small :=
      let (p, q) := pow2 (guess + 52)
      num * q < den * p
    let e := if small then guess - 1 else guess
    let e := if e < -1074 then -1074 else e
    let (p, q) := pow2 e
    let m := roundDiv (num * q) (den * p)
    let (m, e) := if m = Nat.pow 2 53 then (Nat.pow 2 52, e + 1) else (m, e)
    if e > 971 then none else some ⟨negative, m, e⟩

/-- The product of two doubles, rounded. -/
def mul? (a b : Double) : Option Double :=
  let (p, q) := pow2 (a.exponent + b.exponent)
  ofRatio? (a.negative != b.negative) (a.mantissa * b.mantissa * p) q

/-- The quotient of two doubles, rounded; the divisor is not zero. -/
def div? (a b : Double) : Option Double :=
  let (p, q) := pow2 (a.exponent - b.exponent)
  ofRatio? (a.negative != b.negative) (a.mantissa * p) (b.mantissa * q)

/-- Numerator and denominator of a double, not reduced. -/
def ratio (x : Double) : Int × Nat :=
  let (p, q) := pow2 x.exponent
  let num : Int := x.mantissa * p
  (if x.negative then -num else num, q)

/-- The nearest double to a quotient with a sign. -/
def ofIntRatio? (num : Int) (den : Nat) : Option Double :=
  ofRatio? (num < 0) num.natAbs den

/-- The double with the other sign. -/
def neg (x : Double) : Double :=
  { x with negative := !x.negative }

/-- The sum of two doubles, rounded. -/
def add? (a b : Double) : Option Double :=
  let (m, p) := a.ratio
  let (n, q) := b.ratio
  ofIntRatio? (m * q + n * p) (p * q)

/-- The remainder of a division whose quotient is cut off; the divisor is not zero. -/
def rem? (a b : Double) : Option Double :=
  let (m, p) := a.ratio
  let (n, q) := b.ratio
  ofIntRatio? ((m * q).tmod (n * p)) (p * q)

/-- The whole number that is left when the fraction is cut off. -/
def truncated (x : Double) : Int :=
  x.ratio.1.tdiv x.ratio.2

/-- The number, when it is whole. -/
def whole? (x : Double) : Option Int :=
  if x.ratio.1.tmod x.ratio.2 = 0 then some x.truncated else none

/-! ## Shortest decimals -/

/-- Numerator and denominator of `10 ^ e`. -/
def pow10 (e : Int) : Nat × Nat :=
  if 0 ≤ e then (Nat.pow 10 e.toNat, 1) else (1, Nat.pow 10 (-e).toNat)

/-- Whether the decimal `digits * 10 ^ e` rounds to `x`. -/
def readsBack (x : Double) (digits : Nat) (e : Int) : Bool :=
  let (p, q) := pow10 e
  ofRatio? x.negative (digits * p) q == some x

/-- Tries decimals with `e` as their last place, coarsest first: the two
neighbours of the value on each grid, the nearer one first. -/
def shortestFrom (x : Double) : Nat → Int → Nat × Int
  | 0, e => (0, e)
  | fuel + 1, e =>
    let (p, q) := pow2 x.exponent
    let (p10, q10) := pow10 e
    let num := x.mantissa * p * q10
    let den := q * p10
    let near := roundDiv num den
    let below := num / den
    let far := if near = below then below + 1 else below
    if near != 0 && readsBack x near e then (near, e)
    else if far != 0 && readsBack x far e then (far, e)
    else shortestFrom x fuel (e - 1)

/-- The decimal with the fewest digits that rounds to the number, of those the
nearest: its digits and the power of ten of the last one. -/
def shortest (x : Double) : Nat × Int :=
  if x.mantissa = 0 then (0, 0)
  else
    let top : Int := ((Nat.log2 x.mantissa : Int) + x.exponent) * 30103 / 100000 + 2
    shortestFrom x 800 top

/-- `k` times the digit zero. -/
def zeros (k : Nat) : List Char :=
  List.replicate k '0'

/-- Positional notation, always with a point. -/
def positional (x : Double) : Text :=
  let (digits, e) := shortest x
  let ds := Nat.toDigits 10 digits
  let point : Int := ds.length + e
  let body :=
    if 0 ≤ e then ds ++ zeros e.toNat ++ ['.', '0']
    else if 0 < point then ds.take point.toNat ++ '.' :: ds.drop point.toNat
    else '0' :: '.' :: zeros (-point).toNat ++ ds
  if x.negative then '-' :: body else body

/-- Positional notation for decimal points near the digits, an exponent otherwise. -/
def compact (x : Double) : Text :=
  let (digits, e) := shortest x
  let ds := Nat.toDigits 10 digits
  let point : Int := ds.length + e
  if digits = 0 || ((0 ≤ e || 0 < point) && point ≤ 16) || (-5 < point && point ≤ 0) then
    positional x
  else
    let mark := 'e' :: (toString (point - 1)).toList
    let body := match ds with
      | [d] => d :: mark
      | d :: rest => d :: '.' :: rest ++ mark
      | [] => mark
    if x.negative then '-' :: body else body

end Double

/-! ## Number literals -/

/-- A number of a JSON text: a whole number that fits 64 bits, or a double. -/
inductive Number where
  | int (value : Int)
  | double (value : Double)
  deriving DecidableEq, Repr, Inhabited

namespace Number

/-- Largest whole number that is kept as one. -/
def maxWhole : Nat := 0xFFFFFFFFFFFFFFFF

/-- Scales by a power of ten step by step, each step rounded. -/
def scale? : Nat → Double → Int → Option Double
  | 0, f, _ => some f
  | fuel + 1, f, e =>
    if e.natAbs ≤ 308 then
      match Double.ofRatio? false (Nat.pow 10 e.natAbs) 1 with
      | none => none
      | some pow => if 0 ≤ e then f.mul? pow else f.div? pow
    else if f.mantissa = 0 then some f
    else if 0 ≤ e then none
    else match Double.ofRatio? false (Nat.pow 10 308) 1 with
      | none => none
      | some pow => (f.div? pow).bind fun g => scale? fuel g (e + 308)

/-- The significand as far as 64 bits hold it, with the digits left over. -/
def significand : Nat → List Char → Nat × List Char
  | acc, [] => (acc, [])
  | acc, d :: ds =>
    let next := acc * 10 + (d.toNat - 48)
    if next ≤ maxWhole then significand next ds else (acc, d :: ds)

/-- The double a literal stands for: whole digits, fraction digits and exponent. -/
def double? (negative : Bool) (whole frac : List Char) (e : Int) : Option Number :=
  let (sig, wholeLeft) := significand 0 whole
  let (sig, used) :=
    if wholeLeft.isEmpty then
      let (s, left) := significand sig frac
      (s, frac.length - left.length)
    else (sig, 0)
  let e := e + wholeLeft.length - used
  match Double.ofRatio? negative sig 1 with
  | none => none
  | some f => (scale? (e.natAbs / 308 + 2) f e).map .double

/-- The number a literal stands for. -/
def ofLiteral? (negative : Bool) (whole frac : List Char) (exponent : Option Int) :
    Option Number :=
  let n := (significand 0 whole).1
  let fits := (significand 0 whole).2.isEmpty
  if frac.isEmpty && exponent.isNone && fits then
    if negative then
      if n = 0 then some (.double ⟨true, 0, 0⟩)
      else if n ≤ 0x8000000000000000 then some (.int (-(n : Int)))
      else double? negative whole frac 0
    else some (.int n)
  else double? negative whole frac (exponent.getD 0)

/-- The number as it is written in a JSON text. -/
def text : Number → Text
  | .int value => (toString value).toList
  | .double value => value.compact

end Number

end TypedDocs.Json
