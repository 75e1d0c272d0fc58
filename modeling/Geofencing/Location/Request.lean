import Geofencing.Geofence.Request
import Geofencing.Location.Report

/-!
# Location submissions

What a client sends to report a position. The time of the observation is given in milliseconds
since the epoch; without it the observation counts as made now.
-/

namespace Geofencing

/-- A request to report a position. -/
structure SubmitLocation where
  /-- Degrees north. -/
  latitude : Float
  /-- Degrees east. -/
  longitude : Float
  /-- The accuracy in meters. -/
  accuracy : Option Float
  /-- The altitude in meters. -/
  altitude : Option Float
  /-- The heading in degrees. -/
  heading : Option Float
  /-- The speed. -/
  speed : Option Float
  /-- The battery level in percent. -/
  batteryLevel : Option Int
  /-- When the position was observed, in milliseconds since the epoch. -/
  timestamp : Option Int
  /-- The observing device. -/
  device : Device
  deriving DecidableEq, Repr

namespace SubmitLocation

/-- What is wrong with the single fields at an instant `now`. -/
def violations (r : SubmitLocation) (now : Instant) : Violations :=
  .field "latitude" (Validation.latitude r.latitude) ++
    (.field "longitude" (Validation.longitude r.longitude) ++
      (.optionalField "accuracy" Validation.accuracy r.accuracy ++
        (.optionalField "heading" Validation.heading r.heading ++
          (.optionalField "speed" Validation.speed r.speed ++
            (.optionalField "battery_level" Validation.battery r.batteryLevel ++
              .optionalField "timestamp" (Validation.timestamp now) r.timestamp)))))

open Json.Decoder in
/-- Decode a request. -/
def decoder : Json.Decoder SubmitLocation :=
  record
    [.always "latitude" float, .always "longitude" float, .always "accuracy" (option float),
     .always "altitude" (option float), .always "heading" (option float),
     .always "speed" (option float), .always "batteryLevel" (option int32),
     .always "timestamp" (option int64), .atEnd "device" Device.decoder]
    fun mode get => do
      let latitude ← required mode get "latitude" float
      let longitude ← required mode get "longitude" float
      let accuracy ← optional mode get "accuracy" float
      let altitude ← optional mode get "altitude" float
      let heading ← optional mode get "heading" float
      let speed ← optional mode get "speed" float
      let batteryLevel ← optional mode get "batteryLevel" int32
      let timestamp ← optional mode get "timestamp" int64
      let device ← defaulted mode get "device" .unknown Device.decoder
      return { latitude, longitude, accuracy, altitude, heading, speed, batteryLevel, timestamp,
               device }

/-- The observation that a request describes, at an instant `now`. -/
def observation (r : SubmitLocation) (now : Instant) : Except DomainError Observation :=
  match Coordinate.make r.latitude r.longitude with
  | .error e => .error e
  | .ok coordinate =>
    let observed (recordedAt : Instant) : Observation :=
      { coordinate, accuracy := r.accuracy, altitude := r.altitude, heading := r.heading,
        speed := r.speed, batteryLevel := r.batteryLevel, device := r.device, recordedAt }
    match r.timestamp with
    | none => .ok (observed now)
    | some millis =>
      match Instant.ofMillis? millis with
      | some t => .ok (observed t)
      | none => .error (.invalidReport ("invalid timestamp " ++ toString millis))

end SubmitLocation

end Geofencing
