import Geofencing.Geo.Coordinate
import Geofencing.Instant.Text
import Geofencing.Text
import Geofencing.Uuid

/-!
# Geofence events

An event records that an actor entered or left a geofence. When an actor enters the school grounds,
a hook outside of the service is told about it and takes attendance. Events are kept as rows of a
table and listed by queries.
-/

namespace Geofencing

/-- Which way an actor crossed the boundary of a geofence. -/
inductive EventKind where
  /-- Into the geofence. -/
  | enter
  /-- Out of the geofence. -/
  | exit
  deriving DecidableEq, Repr

namespace EventKind

/-- The name of a kind of event. -/
def text : EventKind → String
  | .enter => "ENTER"
  | .exit => "EXIT"

/-- The kind with exactly this name. -/
def ofText? (s : String) : Option EventKind :=
  if s = "ENTER" then some .enter else if s = "EXIT" then some .exit else none

/-- The kind with this name in any spelling of upper and lower case. -/
def parse? (s : String) : Option EventKind :=
  ofText? (Text.capitals s)

/-- A kind of event in JSON. -/
def toJson (k : EventKind) : Json := .str k.text

/-- Decode a kind of event. -/
def decoder : Json.Decoder EventKind := Json.Decoder.named ofText?

end EventKind

/-- A recorded crossing of a geofence's boundary. -/
structure Event where
  /-- The identifier of the event. -/
  id : Uuid
  /-- The tenant of the actor and the geofence. -/
  tenant : Uuid
  /-- Who crossed the boundary. -/
  actor : Uuid
  /-- The geofence. -/
  geofence : Uuid
  /-- The name of the geofence, filled in when events are read. -/
  geofenceName : Option String
  /-- Which way the boundary was crossed. -/
  kind : EventKind
  /-- Where the actor was observed. -/
  coordinate : Coordinate
  /-- When the actor was observed. -/
  occurredAt : Instant
  /-- When attendance was taken for the event, if it was. -/
  processedAt : Option Instant
  /-- When the event was recorded. -/
  createdAt : Instant
  deriving DecidableEq, Repr

namespace Event

/-- An event in JSON, with its tenant. -/
def toJson (e : Event) : Json :=
  .object
    [("id", e.id.toJson), ("tenantId", e.tenant.toJson), ("actorId", e.actor.toJson),
     ("geofenceId", e.geofence.toJson), ("geofenceName", .option .str e.geofenceName),
     ("eventType", e.kind.toJson), ("coordinate", e.coordinate.toJson),
     ("occurredAt", e.occurredAt.toJson), ("processedAt", .option Instant.toJson e.processedAt),
     ("createdAt", e.createdAt.toJson)]

/-- An event as it is shown to its tenant. -/
def response (e : Event) : Json :=
  .object <|
    [("id", e.id.toJson), ("actorId", e.actor.toJson), ("geofenceId", e.geofence.toJson),
     ("eventType", e.kind.toJson), ("latitude", .float e.coordinate.latitude),
     ("longitude", .float e.coordinate.longitude), ("occurredAt", e.occurredAt.toJson),
     ("processedAt", .option Instant.toJson e.processedAt)] ++
    (e.geofenceName.map fun n => ("geofenceName", Json.str n)).toList

end Event

/-! ## Attendance -/

/-- What the attendance hook is told about an entry to the school grounds. -/
structure SchoolEntry where
  /-- The tenant. -/
  tenant : Uuid
  /-- Who entered. -/
  actor : Uuid
  /-- The geofence that was entered. -/
  geofence : Uuid
  /-- The event that recorded it. -/
  event : Uuid
  /-- When the actor was observed. -/
  occurredAt : Instant
  deriving DecidableEq, Repr

/-- The entry that an event describes. -/
def Event.schoolEntry (e : Event) : SchoolEntry :=
  { tenant := e.tenant, actor := e.actor, geofence := e.geofence, event := e.id,
    occurredAt := e.occurredAt }

/-! ## Queries -/

/-- Which events to list. -/
structure EventQuery where
  /-- Only events of this actor. -/
  actor : Option Uuid
  /-- Only events of this geofence. -/
  geofence : Option Uuid
  /-- How many events to list at most, as asked for. -/
  limit : Option Int
  deriving DecidableEq, Repr

namespace EventQuery

/-- How many events are listed unless asked otherwise. -/
def defaultLimit : Int := 50

/-- How many events are listed at most. -/
def maxLimit : Int := 200

/-- How many events are listed: at least one and at most `maxLimit`. -/
def effectiveLimit (q : EventQuery) : Nat :=
  (max 1 (min (q.limit.getD defaultLimit) maxLimit)).toNat

/-- Whether an event of a tenant is asked for. -/
def selects (q : EventQuery) (tenant : Uuid) (e : Event) : Bool :=
  e.tenant == tenant && q.actor.all (e.actor == ·) && q.geofence.all (e.geofence == ·)

open Json.Decoder in
/-- Decode a query. -/
def decoder : Json.Decoder EventQuery :=
  record
    [.always "actorId" (option Uuid.decoder), .always "geofenceId" (option Uuid.decoder),
     .always "limit" (option int64)]
    fun mode get => do
      let actor ← optional mode get "actorId" Uuid.decoder
      let geofence ← optional mode get "geofenceId" Uuid.decoder
      let limit ← optional mode get "limit" int64
      return { actor, geofence, limit }

end EventQuery

/-! ## Rows -/

/-- A row of the event table, joined with the name of the geofence. -/
structure EventRow where
  /-- The identifier. -/
  id : Uuid
  /-- The tenant. -/
  tenant : Uuid
  /-- The actor. -/
  actor : Uuid
  /-- The geofence. -/
  geofence : Uuid
  /-- The name of the geofence. -/
  geofenceName : Option String
  /-- The name of the kind of event. -/
  kind : String
  /-- Degrees north. -/
  latitude : Float
  /-- Degrees east. -/
  longitude : Float
  /-- When the actor was observed. -/
  occurredAt : Instant
  /-- When attendance was taken. -/
  processedAt : Option Instant
  /-- When the event was recorded. -/
  createdAt : Instant

/-- The event of a row. -/
def EventRow.event (r : EventRow) : Except DomainError Event :=
  match EventKind.parse? r.kind with
  | none => .error (.persistence ("unknown event type " ++ r.kind))
  | some kind =>
    .ok { id := r.id, tenant := r.tenant, actor := r.actor, geofence := r.geofence,
          geofenceName := r.geofenceName, kind, coordinate := ⟨r.latitude, r.longitude⟩,
          occurredAt := r.occurredAt, processedAt := r.processedAt, createdAt := r.createdAt }

end Geofencing
