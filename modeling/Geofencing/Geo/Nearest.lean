import Geofencing.Geo.GeoJson
import Geofencing.Geo.Turn

/-!
# The nearest point of a polygon

Longitude and latitude are taken as coordinates of a plane, and a point is projected onto every
edge. Of equally near candidates the last one is taken, and an edge that holds the point ends the
search.
-/

namespace Geofencing.Geo

namespace Position

/-- Whether two positions agree in both numbers. -/
def same (a b : Position) : Bool :=
  a.longitude == b.longitude && a.latitude == b.latitude

/-- The position in exact coordinates, if it is finite. -/
def point? (a : Position) : Option Point :=
  match Binary64.units? a.longitude, Binary64.units? a.latitude with
  | some x, some y => some ⟨x, y⟩
  | _, _ => none

end Position

/-- The hypotenuse over two sides of ordinary size, the longer one first: the rounded root of the
rounded sum of squares, less its error to first order. -/
def hypotenuseCore (long short : Float) : Float :=
  let h := Float.sqrt (long * long + short * short)
  let excess :=
    if h ≤ 2.0 * short then
      let d := h - short
      long * (2.0 * d - long) + (d - 2.0 * (long - short)) * d
    else
      let d := h - long
      2.0 * d * (long - 2.0 * short) + ((4.0 * d - short) * short + d * d)
  h - excess / (2.0 * h)

/-- The length of the hypotenuse over two sides. Very long and very short sides are scaled first,
and a side that is too short to matter is merely added. -/
def hypotenuse (x y : Float) : Float :=
  if x.isInf || y.isInf then 1.0 / 0.0
  else if x.isNaN || y.isNaN then x + y
  else
    let long := if x.abs < y.abs then y.abs else x.abs
    let short := if x.abs < y.abs then x.abs else y.abs
    let tiny := Binary64.powerOfTwo (-54)
    let scale := Binary64.powerOfTwo (-600)
    if long > Binary64.powerOfTwo 511 then
      if short ≤ long * tiny then long + short
      else hypotenuseCore (long * scale) (short * scale) / scale
    else if short < Binary64.powerOfTwo (-459) then
      if long ≥ short / tiny then long + short
      else hypotenuseCore (long / scale) (short / scale) * scale
    else if short ≤ long * tiny then long + short
    else hypotenuseCore long short

/-- The planar distance between two positions. -/
def planarDistance (a b : Position) : Float :=
  hypotenuse (b.longitude - a.longitude) (b.latitude - a.latitude)

/-- The outcome of the search for the nearest point of a shape. -/
inductive Nearest where
  /-- The shape has no edge to measure a distance to. -/
  | nowhere
  /-- The nearest point found. -/
  | at (c : Position)
  /-- The shape holds the point itself, so nothing can be nearer. -/
  | touching (c : Position)
  deriving DecidableEq, Repr

/-- The point that was found. -/
def Nearest.position? : Nearest → Option Position
  | .nowhere => none
  | .at c => some c
  | .touching c => some c

/-- Whether a position lies on an edge. -/
def Position.onEdge (p a b : Position) : Bool :=
  match p.point?, a.point?, b.point? with
  | some p, some a, some b => Geo.onEdge measuredTurn p a b
  | _, _, _ => false

/-- The point of an edge that is nearest to `p`; an edge without length has none. -/
def nearestOnEdge (p : Position) (edge : Position × Position) : Nearest :=
  let (a, b) := edge
  if planarDistance a b == 0.0 then .nowhere
  else
    let dx := b.longitude - a.longitude
    let dy := b.latitude - a.latitude
    let px := p.longitude - a.longitude
    let py := p.latitude - a.latitude
    let t := (px * dx + py * dy) / (dx * dx + dy * dy)
    if t < 0.0 then .at a
    else if t > 1.0 then .at b
    else
      let c : Position := ⟨a.longitude + t * dx, a.latitude + t * dy⟩
      if p.onEdge a b then .touching c else .at c

/-- Of the best candidate so far and a new one, the nearer; the new one if both are equally near. -/
def nearer (p : Position) (best candidate : Nearest) : Nearest :=
  match best, candidate with
  | .touching b, _ => .touching b
  | _, .touching c => .touching c
  | .nowhere, c => c
  | b, .nowhere => b
  | .at b, .at c => if planarDistance c p ≤ planarDistance b p then .at c else .at b

/-- The rings of a polygon in the order in which they are searched: holes first. -/
def Polygon.rings {α : Type} (g : Polygon α) : List (List α) :=
  g.holes ++ [g.exterior]

/-- The polygon in exact coordinates. -/
def Polygon.exact (g : Polygon Position) : Polygon Point :=
  ⟨g.exterior.filterMap Position.point?, g.holes.map fun ring => ring.filterMap Position.point?⟩

/-- Whether a position lies in a polygon; one that is not finite does not. -/
def Polygon.covers (g : Polygon Position) (p : Position) : Bool :=
  match p.point? with
  | some q => g.exact.holds measuredTurn q
  | none => false

/-- The nearest point of one ring. -/
def nearestOnRing (p : Position) (ring : List Position) : Nearest :=
  (edges ring).foldl (fun best edge => nearer p best (nearestOnEdge p edge)) .nowhere

/-- The nearest point of one polygon, which is the point itself if the polygon holds it. -/
def nearestOnPolygon (p : Position) (g : Polygon Position) : Nearest :=
  if g.covers p then .touching p
  else g.rings.foldl (fun best ring => nearer p best (nearestOnRing p ring)) .nowhere

/-- The nearest point of several polygons. -/
def nearestOn (p : Position) (polygons : List (Polygon Position)) : Nearest :=
  polygons.foldl (fun best g => nearer p best (nearestOnPolygon p g)) .nowhere

end Geofencing.Geo
