import Geofencing.Number.Binary64
import Geofencing.Number.Integer

/-!
# Shortest decimals

A finite number is written with the fewest significant digits that still lie closer to it than to
any other number, and among those with the digits nearest to its exact value.
-/

namespace Geofencing

/-- The decimal `digits * 10 ^ exponent`. -/
structure Decimal where
  /-- The significant digits, read as one number. -/
  digits : Nat
  /-- The power of ten that the last digit counts. -/
  exponent : Int
  deriving Repr, DecidableEq

namespace Decimal

/-- How many decimal digits a natural number is written with. -/
def length (n : Nat) : Nat :=
  (Nat.toDigits 10 n).length

/-- Move trailing zeros of the digits into the exponent; `fuel` bounds how many. -/
def trimZeros : (fuel : Nat) → Decimal → Decimal
  | 0, d => d
  | fuel + 1, d =>
    if d.digits != 0 && d.digits % 10 == 0 then trimZeros fuel ⟨d.digits / 10, d.exponent + 1⟩ else d

/-- The reals that round to a given magnitude, and the magnitude itself, as multiples of one
common unit: `low / unit`, `mid / unit`, `high / unit`. -/
structure Interval where
  /-- The lower end. -/
  low : Nat
  /-- The magnitude. -/
  mid : Nat
  /-- The upper end. -/
  high : Nat
  /-- What all three are divided by. -/
  unit : Nat
  /-- Whether the two ends still round to the magnitude. -/
  closed : Bool

/-- The interval around a magnitude: half a step to each side, and only a quarter below a power of
two, where the steps get finer. -/
def Interval.around (m : Binary64.Magnitude) : Interval :=
  let below := if m.significand = twoTo 52 ∧ 0 < m.exponent then 1 else 2
  { low := (4 * m.significand - below) * twoTo m.exponent
    mid := 4 * m.significand * twoTo m.exponent
    high := (4 * m.significand + 2) * twoTo m.exponent
    unit := twoTo 1076
    closed := m.significand % 2 == 0 }

/-- Whether the grid point `d * 10 ^ (place - 400)` lies in the interval. -/
def Interval.holds (i : Interval) (place d : Nat) : Bool :=
  let point := d * tenTo place * i.unit
  let low := i.low * tenTo 400
  let high := i.high * tenTo 400
  if i.closed then low ≤ point && point ≤ high else low < point && point < high

/-- The better of the two neighbours of the magnitude on the grid of multiples of
`10 ^ (place - 400)`, if one of them lies in the interval. -/
def Interval.nearest? (i : Interval) (place : Nat) : Option Decimal :=
  let scaled := i.mid * tenTo 400
  let step := tenTo place * i.unit
  let d := scaled / step
  let rest := scaled - d * step
  let lower := i.holds place d
  let upper := i.holds place (d + 1)
  let closerUp := 2 * rest > step || (2 * rest == step && d % 2 == 1)
  let exponent : Int := (place : Int) - 400
  if lower && upper then some ⟨if closerUp then d + 1 else d, exponent⟩
  else if lower then some ⟨d, exponent⟩
  else if upper then some ⟨d + 1, exponent⟩
  else none

/-- Try grids from the coarsest that can hold the magnitude to ever finer ones. -/
def Interval.search (i : Interval) : (fuel : Nat) → (place : Nat) → Decimal
  | 0, _ => ⟨0, 0⟩
  | fuel + 1, place =>
    match i.nearest? place with
    | some d => d
    | none => i.search fuel (place - 1)

/-- The shortest decimal that reads back as the given magnitude. -/
def shortest (m : Binary64.Magnitude) : Decimal :=
  if m.significand = 0 then ⟨0, 0⟩
  else
    let i := Interval.around m
    let magnitudePlace := length (i.mid * tenTo 400 / i.unit) - 1
    trimZeros 800 (i.search 20 magnitudePlace)

end Decimal

end Geofencing
