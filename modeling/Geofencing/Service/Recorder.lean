import Geofencing.Membership
import Geofencing.Service.Prog

/-!
# Recording events

Every crossing of a boundary is stored as an event. Entering the school grounds also takes
attendance; if that succeeds the event is marked as processed, and if it does not the event stays
as it is.
-/

namespace Geofencing.Recorder

/-- The event of a crossing, with the name that the geofence had. -/
def event (id tenant actor : Uuid) (f : Finding) (kind : EventKind) (location : Coordinate)
    (occurredAt createdAt : Instant) : Event :=
  { id, tenant, actor, geofence := f.geofence, geofenceName := some f.name, kind,
    coordinate := location, occurredAt, processedAt := none, createdAt }

/-- Take attendance for an event and mark it as processed if that succeeds. Neither the hook nor the
mark can make recording fail. -/
def attend (e : Event) : Prog Unit := do
  if ← Prog.attend e.schoolEntry then
    let now ← Prog.now
    let _ ← Prog.store (.markProcessed e.tenant e.id now)
    pure ()
  else pure ()

/-- Store the event of one crossing. -/
def recordOne (tenant actor : Uuid) (location : Coordinate) (occurredAt : Instant) (f : Finding)
    (kind : EventKind) : Service Uuid := do
  let id ← Prog.fresh
  let createdAt ← Prog.now
  let e := event id tenant actor f kind location occurredAt createdAt
  Service.store (.insertEvent e)
  Prog.count (.eventsRecorded kind) 1
  if kind = .enter ∧ f.kind.takesAttendance = true then attend e
  return id

/-- Store the events of all crossings among the findings, in their order. -/
def record (tenant actor : Uuid) (location : Coordinate) (occurredAt : Instant) :
    List Finding → Service (List Uuid)
  | [] => return []
  | f :: rest =>
    match f.transition.event? with
    | none => record tenant actor location occurredAt rest
    | some kind => do
      let id ← recordOne tenant actor location occurredAt f kind
      let ids ← record tenant actor location occurredAt rest
      return id :: ids

end Geofencing.Recorder
