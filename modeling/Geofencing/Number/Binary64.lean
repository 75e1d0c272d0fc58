import Geofencing.Number.Integer

/-!
# Exact values of binary64 numbers

Every finite `Float` is an integral multiple of `2 ^ -1074`, the smallest positive one. Counting
in that unit turns each finite number into an integer without any loss, so comparisons and
determinants over coordinates can be carried out exactly.
-/

namespace Geofencing.Binary64

/-- The three parts of a bit pattern: sign, exponent field and fraction field. -/
structure Parts where
  /-- Whether the sign bit is set. -/
  negative : Bool
  /-- The eleven bit exponent field. -/
  exponent : Nat
  /-- The fifty-two bit fraction field. -/
  fraction : Nat
  deriving Repr, DecidableEq

/-- Split a number into the fields of its bit pattern. -/
def parts (x : Float) : Parts :=
  let bits := x.toBits.toNat
  { negative := bits / twoTo 63 % 2 == 1
    exponent := bits / twoTo 52 % twoTo 11
    fraction := bits % twoTo 52 }

/-- A positive finite number as `significand * 2 ^ (exponent - 1074)`. -/
structure Magnitude where
  /-- The integral significand, below `2 ^ 53`. -/
  significand : Nat
  /-- How many times the unit `2 ^ -1074` is doubled. -/
  exponent : Nat
  deriving Repr, DecidableEq

/-- The magnitude that the fields describe; infinities and NaN have none. -/
def Parts.magnitude? (p : Parts) : Option Magnitude :=
  if p.exponent = 2047 then none
  else if p.exponent = 0 then some ⟨p.fraction, 0⟩
  else some ⟨twoTo 52 + p.fraction, p.exponent - 1⟩

/-- The magnitude in units of `2 ^ -1074`. -/
def Magnitude.units (m : Magnitude) : Nat :=
  m.significand * twoTo m.exponent

/-- The exact value of a finite number, in units of `2 ^ -1074`. -/
def units? (x : Float) : Option Int :=
  let p := parts x
  p.magnitude?.map fun m => if p.negative then -(m.units : Int) else (m.units : Int)

/-- Whether a number is neither infinite nor NaN. -/
def isFinite (x : Float) : Bool :=
  (parts x).exponent != 2047

/-- Whether a number is NaN. -/
def isNaN (x : Float) : Bool :=
  let p := parts x
  p.exponent == 2047 && p.fraction != 0

/-- A number has an exact value precisely when it is finite. -/
theorem units?_isSome (x : Float) : (units? x).isSome = isFinite x := by
  by_cases h : (parts x).exponent = 2047
  · simp [units?, isFinite, Parts.magnitude?, h]
  · by_cases h0 : (parts x).exponent = 0
    · simp [units?, isFinite, Parts.magnitude?, h0]
    · simp [units?, isFinite, Parts.magnitude?, h, h0]

/-- The number with a given value in units of `2 ^ -1074`, provided there is one. -/
def ofUnits (n : Int) : Float :=
  let shift := n.natAbs.log2 + 1 - 53
  let magnitude := Float.scaleB (UInt64.ofNat (n.natAbs / twoTo shift)).toFloat ((shift : Int) - 1074)
  if n < 0 then -magnitude else magnitude

/-- The number `2 ^ e`, for an exponent between -1022 and 1023. -/
def powerOfTwo (e : Int) : Float :=
  Float.ofBits (UInt64.ofNat ((e + 1023).toNat * twoTo 52))

/-- Whether a value, in units of `2 ^ -1074`, is a multiple of `2 ^ -400` no larger than `2 ^ 400`.
Sums and products of two such values stay well within the range of binary64 numbers, and so does
what rounding takes away from them. -/
def ordinary (n : Int) : Bool :=
  n % (twoTo 674 : Nat) == 0 && n.natAbs ≤ twoTo 1474

end Geofencing.Binary64
