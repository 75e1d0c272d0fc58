import Geofencing.DomainError
import Geofencing.Json.Decode
import Geofencing.Validation

/-!
# Coordinates

A latitude and a longitude in decimal degrees, and the great-circle distance between two of them by
the haversine formula on a sphere with the mean radius of the Earth.
-/

namespace Geofencing

/-- A latitude and longitude in decimal degrees. -/
structure Coordinate where
  /-- Degrees north of the equator. -/
  latitude : Float
  /-- Degrees east of the prime meridian. -/
  longitude : Float
  deriving DecidableEq, Repr

namespace Coordinate

/-- The coordinate with the given degrees, if both are in range; the latitude is looked at first. -/
def make (latitude longitude : Float) : Except DomainError Coordinate :=
  if (Validation.latitude latitude).isSome then
    .error (.invalidCoordinate ("latitude " ++ Binary64.plain latitude ++ " out of range"))
  else if (Validation.longitude longitude).isSome then
    .error (.invalidCoordinate ("longitude " ++ Binary64.plain longitude ++ " out of range"))
  else .ok ⟨latitude, longitude⟩

/-- Check the ranges of an existing coordinate. -/
def validate (c : Coordinate) : Except DomainError Unit :=
  (make c.latitude c.longitude).map fun _ => ()

/-- A coordinate in JSON. -/
def toJson (c : Coordinate) : Json :=
  .object [("latitude", .float c.latitude), ("longitude", .float c.longitude)]

/-- Decode a coordinate, without checking its ranges. -/
def decoder : Json.Decoder Coordinate :=
  Json.Decoder.record
    [.always "latitude" Json.Decoder.float, .always "longitude" Json.Decoder.float]
    fun mode get => do
      let latitude ← Json.Decoder.required mode get "latitude" Json.Decoder.float
      let longitude ← Json.Decoder.required mode get "longitude" Json.Decoder.float
      return ⟨latitude, longitude⟩

end Coordinate

/-! ## Distances on the sphere -/

namespace Geo

/-- The mean radius of the Earth in meters. -/
def earthRadius : Float := 6371000.0

/-- The length of one degree in radians. -/
def radiansPerDegree : Float := 3.141592653589793 / 180.0

/-- An angle in radians, from degrees. -/
def radians (degrees : Float) : Float :=
  degrees * radiansPerDegree

/-- The number itself between 0 and 1, else the nearer end. -/
def clampUnit (x : Float) : Float :=
  if x < 0.0 then 0.0 else if x > 1.0 then 1.0 else x

/-- The haversine of the central angle between two coordinates. -/
def haversine (a b : Coordinate) : Float :=
  let halfLat := (radians (b.latitude - a.latitude) / 2.0).sin
  let halfLon := (radians (b.longitude - a.longitude) / 2.0).sin
  halfLat * halfLat +
    (radians a.latitude).cos * (radians b.latitude).cos * (halfLon * halfLon)

/-- The great-circle distance between two coordinates in meters. -/
def distance (a b : Coordinate) : Float :=
  let h := clampUnit (haversine a b)
  2.0 * earthRadius * Float.atan2 h.sqrt (1.0 - h).sqrt

/-- Whether a point lies within a radius of a center, the circle itself included. -/
def insideCircle (point center : Coordinate) (radius : Float) : Bool :=
  distance point center ≤ radius

end Geo

end Geofencing
