import Geofencing.Number.Integer

/-!
# Numerals

The written form of a number and the value it stands for. Digits are gathered into a 64-bit
significand, further digits only shift the exponent, and the significand is then scaled by one
power of ten. Values that need no fraction and no exponent and fit 64 bits stay integers.
-/

namespace Geofencing

/-- A number as JSON knows it: an integer of at most 64 bits, or a binary64 number. -/
inductive Number where
  /-- An integer between `-2 ^ 63` and `2 ^ 64 - 1`. -/
  | int (value : Int)
  /-- Any other number. -/
  | float (value : Float)
  deriving Repr, DecidableEq

/-- The parts of a numeral, with all digits as values below ten. -/
structure Numeral where
  /-- Whether a minus sign stands in front. -/
  negative : Bool
  /-- The digits before the point. -/
  whole : List Nat
  /-- The digits after the point, if there is one. -/
  fraction : Option (List Nat)
  /-- The exponent, if there is one: whether it is negative, and its digits. -/
  exponent : Option (Bool × List Nat)
  deriving Repr, DecidableEq

namespace Numeral

/-- The largest significand. -/
def maxSignificand : Nat := Width.nat64Max

/-- The largest exponent that is still evaluated. -/
def maxExponent : Nat := 2147483647

/-- Append digits to a significand as long as it stays within 64 bits; the digits that no longer
fit are returned. -/
def gather (significand : Nat) : List Nat → Nat × List Nat
  | [] => (significand, [])
  | d :: rest =>
    if significand * 10 + d ≤ maxSignificand then gather (significand * 10 + d) rest
    else (significand, d :: rest)

/-- A natural number below `2 ^ 64` as the nearest binary64 number. -/
def floatOfNat (n : Nat) : Float :=
  (UInt64.ofNat n).toFloat

/-- The power of ten nearest to `10 ^ k`, for `k` up to 308. -/
def powerOfTen (k : Nat) : Float :=
  Float.ofScientific 1 false k

/-- Divide by `10 ^ k`, in steps of at most `10 ^ 308`; `fuel` bounds the steps. -/
def shrink : (fuel : Nat) → Float → Nat → Float
  | 0, x, _ => x
  | fuel + 1, x, k =>
    if k ≤ 308 then x / powerOfTen k
    else if x == 0 then x
    else shrink fuel (x / powerOfTen 308) (k - 308)

/-- Scale a significand by a power of ten; a result beyond the largest number is none. -/
def scale? (significand : Nat) (exponent : Int) : Option Float :=
  let x := floatOfNat significand
  if 0 ≤ exponent then
    if exponent ≤ 308 then
      let y := x * powerOfTen exponent.toNat
      if y.isInf then none else some y
    else if significand = 0 then some x
    else none
  else some (shrink 4 x exponent.natAbs)

/-- Give a magnitude its sign. -/
def signed (n : Numeral) (x : Float) : Float :=
  if n.negative then -x else x

/-- The exponent that the digits of an exponent part spell. -/
def exponentValue (digits : List Nat) : Nat :=
  digits.foldl (fun acc d => acc * 10 + d) 0

/-- The value of a numeral as a binary64 number. -/
def float? (n : Numeral) : Option Float :=
  let (significand, dropped) := gather 0 n.whole
  let (significand, shift) : Nat × Int :=
    match n.fraction with
    | none => (significand, dropped.length)
    | some digits =>
      let (s, rest) := gather significand digits
      (s, (dropped.length : Int) - ((digits.length : Int) - rest.length))
  match n.exponent with
  | none => (scale? significand shift).map n.signed
  | some (negative, digits) =>
    let e := exponentValue digits
    if maxExponent < e then
      if significand ≠ 0 ∧ ¬ negative then none else some (n.signed 0)
    else (scale? significand (if negative then shift - e else shift + e)).map n.signed

/-- The value of a numeral; none if it is too large for any number. A negative zero is no
integer. -/
def value? (n : Numeral) : Option Number :=
  match n.fraction, n.exponent, gather 0 n.whole with
  | none, none, (significand, []) =>
    if ¬ n.negative then some (.int significand)
    else if significand = 0 ∨ 9223372036854775808 < significand then
      some (.float (-(floatOfNat significand)))
    else some (.int (-(significand : Int)))
  | _, _, _ => n.float?.map .float

/-- Whether the digits of an exponent are evaluated up to the last one. Further ones do not
matter. -/
def readToEnd (n : Numeral) : Bool :=
  n.exponent.all fun e => exponentValue e.2.dropLast ≤ maxExponent

end Numeral

namespace Number

/-- The number as a binary64 number. -/
def toFloat : Number → Float
  | .int i => if i < 0 then -(Numeral.floatOfNat i.natAbs) else Numeral.floatOfNat i.natAbs
  | .float x => x

/-- The number as an integer, if it is one. -/
def toInt? : Number → Option Int
  | .int i => some i
  | .float _ => none

end Number

end Geofencing
