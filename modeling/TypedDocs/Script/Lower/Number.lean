/-
  Numbers as a running script computes with them.

  Finite doubles come from `TypedDocs.Json.Number` and are exact; here they get
  the two infinities and the value that is no number, so that every operator
  has a result.  Only a power is left to the machine.
-/

import TypedDocs.Json.Number

namespace TypedDocs.Script.Lower

open Json (Double)

/-- The result of arithmetic. -/
inductive Number where
  | finite (x : Double)
  | infinite (negative : Bool)
  | nan
  deriving DecidableEq, Repr, Inhabited

namespace Number

/-! ## Making numbers -/

/-- Zero with a sign. -/
def zero (negative : Bool) : Number := .finite ⟨negative, 0, 0⟩

/-- One. -/
def one : Number := .finite ⟨false, 1, 0⟩

/-- A rounded result, infinite where it is too large. -/
def rounded (negative : Bool) (x : Option Double) : Number :=
  match x with
  | some x => .finite x
  | none => .infinite negative

/-- The number nearest to a quotient. -/
def ofRatio (negative : Bool) (num den : Nat) : Number :=
  rounded negative (Double.ofRatio? negative num den)

/-- The number nearest to a whole one. -/
def ofInt (n : Int) : Number :=
  ofRatio (n < 0) n.natAbs 1

/-- The number nearest to `n * 10 ^ e`.  Powers beyond the range of doubles are not worked out. -/
def ofDecimal (n : Nat) (e : Int) : Number :=
  let size : Int := (Nat.toDigits 10 n).length + e
  if n = 0 || size < -400 then zero false
  else if size > 400 then .infinite false
  else
    let (p, q) := Double.pow10 e
    ofRatio false (n * p) q

/-! ## Operators -/

/-- Whether the sign is a minus. -/
def isNegative : Number → Bool
  | .finite x => x.negative
  | .infinite negative => negative
  | .nan => false

/-- Whether the number is zero, with either sign. -/
def isZero : Number → Bool
  | .finite x => x.mantissa == 0
  | _ => false

/-- The number with the other sign. -/
def neg : Number → Number
  | .finite x => .finite x.neg
  | .infinite negative => .infinite !negative
  | .nan => .nan

/-- The sum.  Two zeros with a minus keep it. -/
def add : Number → Number → Number
  | .finite x, .finite y =>
    let (m, p) := x.ratio
    let (n, q) := y.ratio
    let num := m * q + n * p
    if num = 0 then zero (x.negative && y.negative) else ofRatio (num < 0) num.natAbs (p * q)
  | .infinite a, .infinite b => if a == b then .infinite a else .nan
  | .infinite a, .finite _ => .infinite a
  | .finite _, .infinite b => .infinite b
  | .nan, _ | _, .nan => .nan

/-- The product. -/
def mul (a b : Number) : Number :=
  let negative := a.isNegative != b.isNegative
  match a, b with
  | .finite x, .finite y => rounded negative (x.mul? y)
  | .nan, _ | _, .nan => .nan
  | a, b => if a.isZero || b.isZero then .nan else .infinite negative

/-- The quotient. -/
def div (a b : Number) : Number :=
  let negative := a.isNegative != b.isNegative
  match a, b with
  | .finite x, .finite y =>
    if y.mantissa = 0 then if x.mantissa = 0 then .nan else .infinite negative
    else rounded negative (x.div? y)
  | .infinite _, .finite _ => .infinite negative
  | .finite _, .infinite _ => zero negative
  | _, _ => .nan

/-- The remainder of a division whose quotient is cut off; it has the sign of the dividend. -/
def rem (a b : Number) : Number :=
  match a, b with
  | .finite x, .finite y =>
    if y.mantissa = 0 then .nan
    else
      let (m, p) := x.ratio
      let (n, q) := y.ratio
      ofRatio x.negative ((m * q).tmod (n * p)).natAbs (p * q)
  | .finite _, .infinite _ => a
  | _, _ => .nan

/-- The number as the machine has it. -/
def toFloat : Number → Float
  | .finite x =>
    let size := (Float.ofNat x.mantissa).scaleB x.exponent
    if x.negative then -size else size
  | .infinite negative => if negative then -1.0 / 0.0 else 1.0 / 0.0
  | .nan => 0.0 / 0.0

/-- The number that the machine has: eleven bits of exponent between a sign and a fraction. -/
def ofFloat (f : Float) : Number :=
  let bits := f.toBits.toNat
  let negative := bits / Nat.pow 2 63 == 1
  let exponent := bits / Nat.pow 2 52 % 2048
  let fraction := bits % Nat.pow 2 52
  if exponent == 2047 then if fraction == 0 then .infinite negative else .nan
  else if exponent == 0 then ofRatio negative fraction (Nat.pow 2 1074)
  else
    let (p, q) := Double.pow2 ((exponent : Int) - 1075)
    ofRatio negative ((fraction + Nat.pow 2 52) * p) q

/-- The power.  One to no definite power is no number. -/
def pow (a b : Number) : Number :=
  match a, b with
  | _, .nan => .nan
  | .finite x, .infinite _ =>
    if x.mantissa * (Double.pow2 x.exponent).1 = (Double.pow2 x.exponent).2 then .nan
    else ofFloat (a.toFloat.pow b.toFloat)
  | _, _ => ofFloat (a.toFloat.pow b.toFloat)

/-! ## Bits -/

/-- The whole number that is left when the fraction is cut off; zero if there is none. -/
def truncated : Number → Int
  | .finite x => x.truncated
  | _ => 0

/-- The number as 32 bits, read with a sign. -/
def int32 (a : Number) : Int := a.truncated.bmod 0x100000000

/-- The number as 32 bits, read without a sign. -/
def uint32 (a : Number) : Nat := (a.truncated.emod 0x100000000).toNat

/-- A bitwise operation on 32 bits. -/
def bitwise (f : Nat → Nat → Nat) (a b : Number) : Number :=
  ofInt (((f a.uint32 b.uint32 : Nat) : Int).bmod 0x100000000)

/-- All 32 bits changed. -/
def complement (a : Number) : Number :=
  ofInt (-a.int32 - 1)

/-- An operator between two numbers, if it is one of arithmetic. -/
def operator? (op : String) (a b : Number) : Option Number :=
  let shift := b.uint32 % 32
  match op with
  | "+" => some (a.add b)
  | "-" => some (a.add b.neg)
  | "*" => some (a.mul b)
  | "/" => some (a.div b)
  | "%" => some (a.rem b)
  | "**" => some (a.pow b)
  | "<<" => some (ofInt ((a.int32 * Nat.pow 2 shift).bmod 0x100000000))
  | ">>" => some (ofInt (a.int32.fdiv (Nat.pow 2 shift)))
  | ">>>" => some (ofInt (a.uint32 / Nat.pow 2 shift : Nat))
  | "|" => some (bitwise (· ||| ·) a b)
  | "&" => some (bitwise (· &&& ·) a b)
  | "^" => some (bitwise (· ^^^ ·) a b)
  | _ => none

/-! ## Text -/

/-- Shortest digits without a sign or an exponent, and without a point if the number is whole. -/
def positional (x : Double) : Text :=
  let (digits, e) := x.shortest
  let ds := Nat.toDigits 10 digits
  let point : Int := ds.length + e
  if 0 ≤ e then ds ++ Double.zeros e.toNat
  else if 0 < point then ds.take point.toNat ++ '.' :: ds.drop point.toNat
  else '0' :: '.' :: Double.zeros (-point).toNat ++ ds

/-- Shortest digits with an exponent. -/
def scientific (x : Double) : Text :=
  let (digits, e) := x.shortest
  let ds := Nat.toDigits 10 digits
  let power : Int := ds.length + e - 1
  let sign := if power < 0 then '-' else '+'
  let body := match ds with
    | [] => []
    | [d] => [d]
    | d :: rest => d :: '.' :: rest
  body ++ 'e' :: sign :: Nat.toDigits 10 power.natAbs

/-- The number as text: positional from a millionth up to twenty-one digits, and zero
without a sign. -/
def text : Number → Text
  | .nan => "NaN".toList
  | .infinite negative => (if negative then "-Infinity" else "Infinity").toList
  | .finite x =>
    let (digits, e) := x.shortest
    let point : Int := (Nat.toDigits 10 digits).length + e
    let body := if digits = 0 || (-6 < point && point ≤ 21) then positional x else scientific x
    if x.negative && digits != 0 then '-' :: body else body

end Number

end TypedDocs.Script.Lower
