import Geofencing.Geo.Ring
import Geofencing.Number.Binary64
import Geofencing.Number.Expansion

/-!
# Turns in binary64 arithmetic

The side of an edge on which a point lies is the sign of a determinant of coordinate differences.
For coordinates of ordinary size that sign is exact. Coordinates so large or so small that a product
of two of them may leave the range of binary64 numbers are a different matter: there the sign is
that of a staged evaluation in binary64 arithmetic, overflow and underflow included, and a
determinant that is no number counts as zero.
-/

namespace Geofencing.Geo

namespace Adaptive

/-- Half the distance from 1 to the next binary64 number. -/
def halfUnit : Float := 1.1102230246251565e-16

/-- The relative error of an estimate that sums up four components. -/
def estimateBound : Float := (3.0 + 8.0 * halfUnit) * halfUnit

/-- The relative error of a determinant that is rounded at every step. -/
def roundedBound : Float := (3.0 + 16.0 * halfUnit) * halfUnit

/-- The relative error when the products are exact. -/
def productBound : Float := (2.0 + 12.0 * halfUnit) * halfUnit

/-- The relative error when the rounding of the differences is taken in to first order. -/
def differenceBound : Float := (9.0 + 64.0 * halfUnit) * halfUnit * halfUnit

/-- Whether the sign of a determinant is certain, given a bound of its error. -/
def certain (value bound : Float) : Bool :=
  value ≥ bound || -value ≥ bound

/-- The sign of a determinant whose rounded value is not certain: products are taken exactly, then
the rounding of the differences is taken in to first order, and at last in full. -/
def refined (a b c : Float × Float) (size : Float) : Float :=
  let acx := a.1 - c.1
  let bcx := b.1 - c.1
  let acy := a.2 - c.2
  let bcy := b.2 - c.2
  let leading := Expansion.determinant acx acy bcx bcy
  let value := Expansion.estimate leading
  if certain value (productBound * size) then value
  else
    let acxTail := Expansion.differenceError a.1 c.1 acx
    let bcxTail := Expansion.differenceError b.1 c.1 bcx
    let acyTail := Expansion.differenceError a.2 c.2 acy
    let bcyTail := Expansion.differenceError b.2 c.2 bcy
    if acxTail == 0.0 && acyTail == 0.0 && bcxTail == 0.0 && bcyTail == 0.0 then value
    else
      let bound := differenceBound * size + estimateBound * value.abs
      let corrected := value + ((acx * bcyTail + bcy * acxTail) - (acy * bcxTail + bcx * acyTail))
      if certain corrected bound then corrected
      else
        let first := Expansion.add leading (Expansion.determinant acxTail acyTail bcx bcy)
        let second := Expansion.add first (Expansion.determinant acx acy bcxTail bcyTail)
        let all := Expansion.add second (Expansion.determinant acxTail acyTail bcxTail bcyTail)
        Expansion.largest all

/-- The determinant of the differences of two points to a third one, with the right sign as long as
nothing overflows or underflows. -/
def determinant (a b c : Float × Float) : Float :=
  let left := (a.1 - c.1) * (b.2 - c.2)
  let right := (a.2 - c.2) * (b.1 - c.1)
  let value := left - right
  let size := (left + right).abs
  if certain value (roundedBound * size) then value
  else refined a b c size

/-- The coordinates of a point as binary64 numbers. -/
def pair (p : Point) : Float × Float :=
  (Binary64.ofUnits p.x, Binary64.ofUnits p.y)

/-- The turn that the sign of the determinant tells. -/
def turn : Turn := fun a b p =>
  let value := determinant (pair a) (pair b) (pair p)
  if value > 0.0 then 1 else if value < 0.0 then -1 else 0

end Adaptive

/-- Whether both coordinates of a point are of ordinary size. -/
def Point.ordinary (p : Point) : Bool :=
  Binary64.ordinary p.x && Binary64.ordinary p.y

/-- The turn that decides membership: exact for points of ordinary size. -/
def measuredTurn : Turn := fun a b p =>
  if a.ordinary && b.ordinary && p.ordinary then orientation a b p else Adaptive.turn a b p

/-- Among points of ordinary size the turn is exact. -/
theorem measuredTurn_eq_orientation {a b p : Point} (ha : a.ordinary = true)
    (hb : b.ordinary = true) (hp : p.ordinary = true) :
    measuredTurn a b p = orientation a b p := by
  simp [measuredTurn, ha, hb, hp]

end Geofencing.Geo
