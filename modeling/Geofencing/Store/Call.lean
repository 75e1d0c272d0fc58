import Geofencing.Store.Basic

/-!
# Calls to the store

Each way to use the store is one call that is carried out at once and answered with a value of its
own type. A call that fails leaves the store as it was.
-/

namespace Geofencing

/-- A call to the store. -/
inductive StoreCall where
  /-- The active geofences of a tenant, in listing order. -/
  | findActive (tenant : Uuid)
  /-- Store a new geofence. -/
  | create (geofence : Geofence)
  /-- The geofence of a tenant under an identifier. -/
  | find (tenant id : Uuid)
  /-- The geofences of a tenant, in listing order. -/
  | list (tenant : Uuid) (includeInactive : Bool)
  /-- Replace a geofence of the same tenant. -/
  | update (geofence : Geofence)
  /-- Remove a geofence of a tenant and the events about it. -/
  | delete (tenant id : Uuid)
  /-- Store a report. -/
  | insertReport (report : Report)
  /-- The report of an actor that arrived last. -/
  | latest (tenant actor : Uuid)
  /-- Remove the reports that were observed before a cutoff. -/
  | deleteBefore (tenant : Option Uuid) (cutoff : Instant)
  /-- Store an event. -/
  | insertEvent (event : Event)
  /-- Mark an event of a tenant as processed. -/
  | markProcessed (tenant id : Uuid) (processedAt : Instant)
  /-- One page of events of a tenant. -/
  | listEvents (tenant : Uuid) (query : EventQuery)
  /-- How many events of a tenant a query selects. -/
  | countEvents (tenant : Uuid) (query : EventQuery)

namespace StoreCall

/-- What a call is answered with. -/
@[reducible]
def Value : StoreCall → Type
  | .findActive _ | .list _ _ => List Geofence
  | .create _ | .insertReport _ | .insertEvent _ | .markProcessed _ _ _ => Unit
  | .find _ _ => Option Geofence
  | .update _ | .delete _ _ => Bool
  | .latest _ _ => Option Report
  | .deleteBefore _ _ | .countEvents _ _ => Nat
  | .listEvents _ _ => List Event

end StoreCall

/-- The name of a kind of call. -/
inductive StoreMethod where
  /-- `StoreCall.findActive`. -/
  | findActive
  /-- `StoreCall.create`. -/
  | create
  /-- `StoreCall.find`. -/
  | find
  /-- `StoreCall.list`. -/
  | list
  /-- `StoreCall.update`. -/
  | update
  /-- `StoreCall.delete`. -/
  | delete
  /-- `StoreCall.insertReport`. -/
  | insertReport
  /-- `StoreCall.latest`. -/
  | latest
  /-- `StoreCall.deleteBefore`. -/
  | deleteBefore
  /-- `StoreCall.insertEvent`. -/
  | insertEvent
  /-- `StoreCall.markProcessed`. -/
  | markProcessed
  /-- `StoreCall.listEvents`. -/
  | listEvents
  /-- `StoreCall.countEvents`. -/
  | countEvents
  deriving DecidableEq, Repr

namespace StoreMethod

/-- The name under which a kind of call is reported. -/
def text : StoreMethod → String
  | .findActive => "find_active"
  | .create => "create"
  | .find => "find_by_id"
  | .list => "list"
  | .update => "update"
  | .delete => "delete"
  | .insertReport => "insert_location"
  | .latest => "find_latest"
  | .deleteBefore => "delete_recorded_before"
  | .insertEvent => "insert_event"
  | .markProcessed => "mark_processed"
  | .listEvents => "list_events"
  | .countEvents => "count_events"

end StoreMethod

namespace StoreCall

/-- The kind of a call. -/
def method : StoreCall → StoreMethod
  | .findActive _ => .findActive
  | .create _ => .create
  | .find _ _ => .find
  | .list _ _ => .list
  | .update _ => .update
  | .delete _ _ => .delete
  | .insertReport _ => .insertReport
  | .latest _ _ => .latest
  | .deleteBefore _ _ => .deleteBefore
  | .insertEvent _ => .insertEvent
  | .markProcessed _ _ _ => .markProcessed
  | .listEvents _ _ => .listEvents
  | .countEvents _ _ => .countEvents

end StoreCall

namespace Store

/-- Carry out a call. -/
def perform (s : Store) : (c : StoreCall) → Except DomainError (c.Value × Store)
  | .findActive tenant => .ok (s.list tenant false, s)
  | .create g =>
    if (s.geofence? g.id).isSome then
      .error (.persistence ("geofence " ++ g.id.toText ++ " already exists"))
    else .ok ((), s.insert g)
  | .find tenant id => .ok (s.find tenant id, s)
  | .list tenant includeInactive => .ok (s.list tenant includeInactive, s)
  | .update g =>
    if (s.find g.tenant g.id).isSome then .ok (true, s.replace g) else .ok (false, s)
  | .delete tenant id =>
    if (s.find tenant id).isSome then .ok (true, s.remove id) else .ok (false, s)
  | .insertReport r => .ok ((), s.addReport r)
  | .latest tenant actor => .ok (s.latest tenant actor, s)
  | .deleteBefore tenant cutoff => .ok (s.purgeCount tenant cutoff, s.purge tenant cutoff)
  | .insertEvent e => .ok ((), s.addEvent e)
  | .markProcessed tenant id processedAt =>
    match markFirst tenant id processedAt s.events with
    | some events => .ok ((), { s with events })
    | none => .error (.notFound ("geofence event " ++ id.toText))
  | .listEvents tenant q => .ok (s.page tenant q, s)
  | .countEvents tenant q => .ok ((s.selected tenant q).length, s)

end Store

end Geofencing
