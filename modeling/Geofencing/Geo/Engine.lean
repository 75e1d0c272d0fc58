import Geofencing.Geo.Coordinate
import Geofencing.Geo.Nearest

/-!
# Membership of points in polygons

A spatial engine says whether a coordinate lies in a GeoJSON geometry and how far away it is. The
planar engine evaluates polygons itself; an engine that is out of service fails on every question.
-/

namespace Geofencing.Geo

/-- The answer to a membership question. -/
structure Membership where
  /-- Whether the point lies in the area or on its boundary. -/
  inside : Bool
  /-- Meters from the point to the area; 0 when inside. -/
  meters : Float
  deriving DecidableEq, Repr

/-- Positive infinity, the distance to an area that could not be evaluated. -/
def unknownMeters : Float := 1.0 / 0.0

/-- The answer when a question could not be settled. -/
def Membership.undetermined : Membership := ⟨false, unknownMeters⟩

/-- Why a membership question was not answered. -/
inductive EngineFailure where
  /-- The value is no GeoJSON geometry. -/
  | invalidGeometry
  /-- The geometry has no area. -/
  | notPolygon
  /-- The polygon has no edge to measure a distance to. -/
  | noClosestPoint
  /-- The engine did not answer in time. -/
  | timeout
  deriving DecidableEq, Repr

namespace EngineFailure

/-- The text of a failure. -/
def text : EngineFailure → String
  | .invalidGeometry => "invalid GeoJSON"
  | .notPolygon => "geometry is not a polygon"
  | .noClosestPoint => "no closest point for polygon"
  | .timeout => "timeout"

/-- A failure as an error of the domain. -/
def toError (f : EngineFailure) : DomainError := .spatialEngine f.text

end EngineFailure

/-- Answers membership questions about GeoJSON geometries. -/
abbrev Engine := Coordinate → Json → Except EngineFailure Membership

/-- A polygon from its rings: the first is the exterior, the others are holes. -/
def Polygon.ofRings : List (List Position) → Polygon Position
  | [] => ⟨[], []⟩
  | exterior :: holes => ⟨close Position.same exterior, holes.map (close Position.same)⟩

/-- The polygons that a GeoJSON value describes. -/
def polygons (geometry : Json) : Except EngineFailure (List (Polygon Position)) :=
  match GeoJson.parse? geometry with
  | none => .error .invalidGeometry
  | some .other => .error .notPolygon
  | some (.polygons rings) => .ok (rings.map Polygon.ofRings)

/-- The position of a coordinate. -/
def position (c : Coordinate) : Position := ⟨c.longitude, c.latitude⟩

/-- Whether a coordinate lies in one of the polygons; one that is not finite lies in none. -/
def holds (c : Coordinate) (gs : List (Polygon Position)) : Bool :=
  match (position c).point? with
  | some p => unionHolds measuredTurn p (gs.map Polygon.exact)
  | none => false

/-- Membership of a coordinate in the polygons of a GeoJSON geometry. -/
def planar : Engine := fun c geometry =>
  match polygons geometry with
  | .error f => .error f
  | .ok gs =>
    if holds c gs then .ok ⟨true, 0.0⟩
    else
      match (nearestOn (position c) gs).position? with
      | some n => .ok ⟨false, distance c ⟨n.latitude, n.longitude⟩⟩
      | none => .error .noClosestPoint

/-- An engine that never answers. -/
def outOfService : Engine := fun _ _ => .error .timeout

end Geofencing.Geo
