import Geofencing.Instant.Basic
import Geofencing.Json.Value

/-!
# Rules for single values

Each rule looks at one value and names the violation it finds, if any. No rule accepts NaN where a
range is asked for.
-/

namespace Geofencing

/-- What is wrong with a single value. -/
inductive Violation where
  /-- A latitude outside `[-90, 90]`. -/
  | latitudeRange
  /-- A longitude outside `[-180, 180]`. -/
  | longitudeRange
  /-- A radius outside `(0, 50000]`. -/
  | radiusRange
  /-- A negative accuracy. -/
  | accuracyRange
  /-- A heading outside `[0, 360]`. -/
  | headingRange
  /-- A negative speed. -/
  | speedRange
  /-- A battery level outside `[0, 100]`. -/
  | batteryRange
  /-- A timestamp that is no instant. -/
  | timestampInvalid
  /-- A timestamp more than five minutes ahead. -/
  | timestampFuture
  /-- A timestamp more than seven days back. -/
  | timestampOld
  /-- A geometry of another type than `Polygon` and `MultiPolygon`. -/
  | polygonType
  /-- A geometry without coordinates. -/
  | polygonCoordinates
  /-- A name that is empty or longer than a hundred characters. -/
  | nameLength
  deriving DecidableEq, Repr

namespace Violation

/-- The short code of a violation. -/
def code : Violation → String
  | .latitudeRange => "latitude_range"
  | .longitudeRange => "longitude_range"
  | .radiusRange => "radius_range"
  | .accuracyRange => "accuracy_range"
  | .headingRange => "heading_range"
  | .speedRange => "speed_range"
  | .batteryRange => "battery_range"
  | .timestampInvalid => "timestamp_invalid"
  | .timestampFuture => "timestamp_future"
  | .timestampOld => "timestamp_old"
  | .polygonType => "polygon_type"
  | .polygonCoordinates => "polygon_coordinates"
  | .nameLength => "length"

/-- The text shown for a violation. -/
def message : Violation → String
  | .latitudeRange => "Latitude must be between -90 and 90"
  | .longitudeRange => "Longitude must be between -180 and 180"
  | .radiusRange => "Radius must be greater than 0 and at most 50000 meters"
  | .accuracyRange => "Accuracy must be non-negative"
  | .headingRange => "Heading must be between 0 and 360"
  | .speedRange => "Speed must be non-negative"
  | .batteryRange => "Battery level must be between 0 and 100"
  | .timestampInvalid => "Invalid timestamp format"
  | .timestampFuture => "Timestamp cannot be in the future"
  | .timestampOld => "Timestamp cannot be older than 7 days"
  | .polygonType => "Polygon must be a GeoJSON Polygon or MultiPolygon geometry"
  | .polygonCoordinates => "Polygon coordinates must not be empty"
  | .nameLength => "Name must be 1-100 characters"

end Violation

namespace Validation

/-- Nothing if the condition holds, else the violation. -/
def expect (ok : Bool) (v : Violation) : Option Violation :=
  if ok then none else some v

/-- The rule for latitudes. -/
def latitude (x : Float) : Option Violation :=
  expect (-90 ≤ x && x ≤ 90) .latitudeRange

/-- The rule for longitudes. -/
def longitude (x : Float) : Option Violation :=
  expect (-180 ≤ x && x ≤ 180) .longitudeRange

/-- The rule for radii in meters. -/
def radius (x : Float) : Option Violation :=
  expect (0 < x && x ≤ 50000) .radiusRange

/-- The rule for accuracies in meters. -/
def accuracy (x : Float) : Option Violation :=
  expect (0 ≤ x) .accuracyRange

/-- The rule for headings in degrees. -/
def heading (x : Float) : Option Violation :=
  expect (0 ≤ x && x ≤ 360) .headingRange

/-- The rule for speeds. -/
def speed (x : Float) : Option Violation :=
  expect (0 ≤ x) .speedRange

/-- The rule for battery levels in percent. -/
def battery (level : Int) : Option Violation :=
  expect (0 ≤ level && level ≤ 100) .batteryRange

/-- How far ahead of the clock a timestamp may lie, in seconds. -/
def futureTolerance : Int := 300

/-- How far behind the clock a timestamp may lie, in seconds. -/
def maxAge : Int := 7 * 86400

/-- The rule for timestamps in milliseconds since the epoch, at an instant `now`. -/
def timestamp (now : Instant) (millis : Int) : Option Violation :=
  match Instant.ofMillis? millis with
  | none => some .timestampInvalid
  | some t =>
    if Instant.before ⟨now.seconds + futureTolerance, now.nanos⟩ t then some .timestampFuture
    else if t.before ⟨now.seconds - maxAge, now.nanos⟩ then some .timestampOld
    else none

/-- The rule for polygon geometries: the type of a polygon and a non-empty array of coordinates. -/
def polygon (geometry : Json) : Option Violation :=
  let type := (geometry.get? "type").bind Json.str?
  if type = some "Polygon" ∨ type = some "MultiPolygon" then
    match (geometry.get? "coordinates").bind Json.items? with
    | some (_ :: _) => none
    | _ => some .polygonCoordinates
  else some .polygonType

/-- The rule for names: one to a hundred characters. -/
def name (s : String) : Option Violation :=
  expect (1 ≤ s.length && s.length ≤ 100) .nameLength

end Validation

end Geofencing
