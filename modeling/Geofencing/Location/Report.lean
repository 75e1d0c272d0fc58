import Geofencing.Geo.Coordinate
import Geofencing.Instant.Text
import Geofencing.Uuid

/-!
# Location reports

A position that a device observed for an actor, before and after it is stored, as a row of a table
with one column for each field. Reports are kept for a number of days, counted back from the moment
of a purge.
-/

namespace Geofencing

/-- What is known about the device that observed a position. -/
structure Device where
  /-- The identifier of the device. -/
  deviceId : Option String
  /-- The platform that the device runs. -/
  platform : Option String
  /-- The version of the reporting app. -/
  appVersion : Option String
  deriving DecidableEq, Repr

namespace Device

/-- A device of which nothing is known. -/
def unknown : Device := ⟨none, none, none⟩

/-- A device in JSON; what is not known is left out. -/
def toJson (d : Device) : Json :=
  .object <|
    (d.deviceId.map fun s => ("deviceId", Json.str s)).toList ++
      ((d.platform.map fun s => ("platform", Json.str s)).toList ++
        (d.appVersion.map fun s => ("appVersion", Json.str s)).toList)

open Json.Decoder in
/-- Decode a device. -/
def decoder : Json.Decoder Device :=
  record
    [.always "deviceId" (option string), .always "platform" (option string),
     .always "appVersion" (option string)]
    fun mode get => do
      let deviceId ← optional mode get "deviceId" string
      let platform ← optional mode get "platform" string
      let appVersion ← optional mode get "appVersion" string
      return { deviceId, platform, appVersion }

end Device

/-- What a device observed. -/
structure Observation where
  /-- Where the actor was. -/
  coordinate : Coordinate
  /-- The accuracy in meters. -/
  accuracy : Option Float
  /-- The altitude in meters. -/
  altitude : Option Float
  /-- The heading in degrees. -/
  heading : Option Float
  /-- The speed. -/
  speed : Option Float
  /-- The battery level in percent. -/
  batteryLevel : Option Int
  /-- The observing device. -/
  device : Device
  /-- When the position was observed. -/
  recordedAt : Instant
  deriving DecidableEq, Repr

/-- An observation of a bare position. -/
def Observation.at (coordinate : Coordinate) (recordedAt : Instant) : Observation :=
  { coordinate, accuracy := none, altitude := none, heading := none, speed := none,
    batteryLevel := none, device := .unknown, recordedAt }

/-- An observation stored for an actor. -/
structure Report where
  /-- The identifier of the report. -/
  id : Uuid
  /-- The tenant of the actor. -/
  tenant : Uuid
  /-- Who was observed. -/
  actor : Uuid
  /-- What was observed. -/
  observation : Observation
  /-- When the report arrived. -/
  createdAt : Instant
  deriving DecidableEq, Repr

namespace Report

/-- Where the actor was. -/
def coordinate (r : Report) : Coordinate := r.observation.coordinate

/-- When the position was observed. -/
def recordedAt (r : Report) : Instant := r.observation.recordedAt

/-- Whether a report is about a given actor. -/
def isAbout (r : Report) (tenant actor : Uuid) : Bool :=
  r.tenant == tenant && r.actor == actor

/-- A report in JSON. -/
def toJson (r : Report) : Json :=
  let o := r.observation
  .object
    [("id", r.id.toJson), ("tenantId", r.tenant.toJson), ("actorId", r.actor.toJson),
     ("coordinate", o.coordinate.toJson), ("accuracy", .option .float o.accuracy),
     ("altitude", .option .float o.altitude), ("heading", .option .float o.heading),
     ("speed", .option .float o.speed), ("batteryLevel", .option .int o.batteryLevel),
     ("device", o.device.toJson), ("recordedAt", o.recordedAt.toJson),
     ("createdAt", r.createdAt.toJson)]

end Report

/-! ## Rows -/

/-- A row of the report table. -/
structure ReportRow where
  /-- The identifier. -/
  id : Uuid
  /-- The tenant. -/
  tenant : Uuid
  /-- The actor. -/
  actor : Uuid
  /-- Degrees north. -/
  latitude : Float
  /-- Degrees east. -/
  longitude : Float
  /-- The accuracy in meters. -/
  accuracy : Option Float
  /-- The altitude in meters. -/
  altitude : Option Float
  /-- The heading in degrees. -/
  heading : Option Float
  /-- The speed. -/
  speed : Option Float
  /-- The battery level in percent. -/
  batteryLevel : Option Int
  /-- The identifier of the device. -/
  deviceId : Option String
  /-- The platform of the device. -/
  platform : Option String
  /-- The version of the reporting app. -/
  appVersion : Option String
  /-- When the position was observed. -/
  recordedAt : Instant
  /-- When the report arrived. -/
  createdAt : Instant

/-- The report of a row. -/
def ReportRow.report (r : ReportRow) : Report :=
  { id := r.id, tenant := r.tenant, actor := r.actor, createdAt := r.createdAt,
    observation :=
      { coordinate := ⟨r.latitude, r.longitude⟩, accuracy := r.accuracy, altitude := r.altitude,
        heading := r.heading, speed := r.speed, batteryLevel := r.batteryLevel,
        device := ⟨r.deviceId, r.platform, r.appVersion⟩, recordedAt := r.recordedAt } }

/-! ## Retention -/

/-- How long location reports are kept. -/
structure RetentionPolicy where
  /-- The number of days. -/
  days : Nat
  deriving DecidableEq, Repr

namespace RetentionPolicy

/-- Thirty days. -/
def standard : RetentionPolicy := ⟨30⟩

/-- Reports observed before this instant are no longer kept. There is none if it lies beyond the
reach of instants. -/
def cutoff? (p : RetentionPolicy) (now : Instant) : Option Instant :=
  now.subDays? p.days

end RetentionPolicy

end Geofencing
