import Geofencing.Http.Message
import Geofencing.Http.Target

/-!
# Resources

What the paths of the service lead to, and what may be done there.
-/

namespace Geofencing.Http

/-- Something that a path leads to. Identifiers stand as they are written in the path. -/
inductive Resource where
  /-- The reports of the calling actor. -/
  | locations
  /-- The geofences that an actor is inside of. -/
  | actorGeofences (actor : List Char)
  /-- All geofences. -/
  | geofences
  /-- One geofence. -/
  | geofence (id : List Char)
  /-- The history of events. -/
  | events
  /-- The purge of old reports. -/
  | purge
  /-- The health of the service. -/
  | health
  /-- Whether the service is ready. -/
  | readiness
  /-- Whether the service runs at all. -/
  | liveness
  /-- The page of counters. -/
  | metrics
  deriving DecidableEq, Repr

namespace Resource

/-- The resource that path segments lead to. An identifier at the end may not be empty. -/
def ofSegments? (segments : List (List Char)) : Option Resource :=
  match segments.map String.ofList with
  | ["", "api", "v1", "locations"] => some .locations
  | ["", "api", "v1", "actors", actor, "geofences"] => some (.actorGeofences actor.toList)
  | ["", "api", "v1", "geofences"] => some .geofences
  | ["", "api", "v1", "geofences", id] => if id.isEmpty then none else some (.geofence id.toList)
  | ["", "api", "v1", "geofence-events"] => some .events
  | ["", "api", "v1", "admin", "locations", "purge"] => some .purge
  | ["", "api", "health"] => some .health
  | ["", "api", "health", "ready"] => some .readiness
  | ["", "api", "health", "live"] => some .liveness
  | ["", "metrics"] => some .metrics
  | _ => none

/-- The pattern of the paths that lead to a resource, as it is counted. -/
def pattern : Resource → String
  | .locations => "/api/v1/locations"
  | .actorGeofences _ => "/api/v1/actors/:actor_id/geofences"
  | .geofences => "/api/v1/geofences"
  | .geofence _ => "/api/v1/geofences/:geofence_id"
  | .events => "/api/v1/geofence-events"
  | .purge => "/api/v1/admin/locations/purge"
  | .health => "/api/health"
  | .readiness => "/api/health/ready"
  | .liveness => "/api/health/live"
  | .metrics => "/metrics"

/-- The methods that may be used on a resource. -/
def methods : Resource → List Method
  | .locations | .purge => [.post]
  | .geofences => [.get, .head, .post]
  | .geofence _ => [.get, .head, .patch, .delete]
  | .actorGeofences _ | .events | .health | .readiness | .liveness | .metrics => [.get, .head]

/-- The methods as they are announced. -/
def allow (r : Resource) : String :=
  ",".intercalate (r.methods.map Method.label)

end Resource

end Geofencing.Http
