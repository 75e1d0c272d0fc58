import Geofencing.Http.Handler
import Geofencing.Service.Tracker

/-!
# The interface for tenants

Reporting locations, looking at geofences and events, and administering them. Each handler works
for the tenant of the caller only.
-/

namespace Geofencing.Http.Api

open Handler

/-- The error for a geofence that the tenant does not have. -/
def noGeofence (id : Uuid) : Refusal :=
  .api (.notFound ("Geofence " ++ id.toText ++ " not found"))

/-- Report the position of the caller. -/
def submitLocation (v : Verifier) (req : Request) : Handler Response := do
  let caller ← Handler.caller v req
  let r ← body SubmitLocation.decoder req
  let now ← Prog.now
  check (r.violations now)
  let now ← Prog.now
  let observation ← ofDomain (r.observation now)
  let outcome ← serve (Tracker.submit caller.tenant caller.actor observation)
  return .json 201 (.object [("reportId", outcome.report.toJson),
    ("eventIds", .arr (outcome.events.map Uuid.toJson))])

/-- The geofences that an actor is inside of. -/
def currentGeofences (v : Verifier) (actor : List Char) (req : Request) : Handler Response := do
  let caller ← Handler.caller v req
  let actor ← ofOption .path (segmentId? actor)
  ofApi (caller.mayAccess actor)
  let ids ← serve (Tracker.current caller.tenant actor)
  return .json 200 (.object [("actorId", actor.toJson),
    ("geofenceIds", .arr (ids.map Uuid.toJson))])

/-- List the geofences of the tenant. -/
def listGeofences (v : Verifier) (query : List Char) (req : Request) : Handler Response := do
  let caller ← Handler.caller v req
  let includeInactive ← ofOption .query (listingQuery? query)
  let geofences : List Geofence ← serve (Service.store (.list caller.tenant includeInactive))
  return .json 200 (.object [("geofences", .arr (geofences.map Geofence.response)),
    ("total", .nat geofences.length)])

/-- Create a geofence of the tenant. -/
def createGeofence (v : Verifier) (req : Request) : Handler Response := do
  let caller ← Handler.caller v req
  let r ← body CreateGeofence.decoder req
  ofApi caller.requireAdmin
  check r.violations
  let shape ← ofDomain ((Shape.ofColumns r.shape).mapError ShapeFault.toError)
  let id ← Prog.fresh
  let now ← Prog.now
  let geofence := r.geofence id caller.tenant shape now
  serve (Service.store (.create geofence))
  return .json 201 geofence.response

/-- Show a geofence of the tenant. -/
def getGeofence (v : Verifier) (id : List Char) (req : Request) : Handler Response := do
  let caller ← Handler.caller v req
  let id ← ofOption .path (segmentId? id)
  let found ← serve (Service.store (.find caller.tenant id))
  let geofence ← ofOption (noGeofence id) found
  return .json 200 geofence.response

/-- Change a geofence of the tenant. -/
def updateGeofence (v : Verifier) (id : List Char) (req : Request) : Handler Response := do
  let caller ← Handler.caller v req
  let id ← ofOption .path (segmentId? id)
  let r ← body UpdateGeofence.decoder req
  ofApi caller.requireAdmin
  check r.violations
  let found ← serve (Service.store (.find caller.tenant id))
  let geofence ← ofOption (noGeofence id) found
  let now ← Prog.now
  let geofence ← ofDomain ((r.apply now geofence).mapError ShapeFault.toError)
  let updated : Bool ← serve (Service.store (.update geofence))
  if !updated then throw (noGeofence id)
  return .json 200 geofence.response

/-- Remove a geofence of the tenant and the events about it. -/
def deleteGeofence (v : Verifier) (id : List Char) (req : Request) : Handler Response := do
  let caller ← Handler.caller v req
  let id ← ofOption .path (segmentId? id)
  ofApi caller.requireAdmin
  let deleted : Bool ← serve (Service.store (.delete caller.tenant id))
  if !deleted then throw (noGeofence id)
  return .bare 204

/-- The query that a caller is entitled to: students see their own events only. -/
def entitled (caller : Caller) (q : EventQuery) : Except ApiError EventQuery :=
  if caller.role.isStaff then .ok q
  else
    let actor := q.actor.getD caller.actor
    (caller.mayAccess actor).map fun () => { q with actor := some actor }

/-- List the events of the tenant, newest first. -/
def listEvents (v : Verifier) (query : List Char) (req : Request) : Handler Response := do
  let caller ← Handler.caller v req
  let q ← ofOption .query (eventQuery? query)
  let q ← ofApi (entitled caller q)
  let events : List Event ← serve (Service.store (.listEvents caller.tenant q))
  let total : Nat ← serve (Service.store (.countEvents caller.tenant q))
  return .json 200 (.object [("events", .arr (events.map Event.response)),
    ("total", .nat total)])

/-- Remove the reports of the tenant that are no longer kept. -/
def purgeLocations (v : Verifier) (policy : RetentionPolicy) (req : Request) :
    Handler Response := do
  let caller ← Handler.caller v req
  ofApi caller.requireAdmin
  let deleted ← serve (Tracker.purge policy (some caller.tenant))
  return .json 200 (.object [("deletedCount", .nat deleted)])

end Geofencing.Http.Api
