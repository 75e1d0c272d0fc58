/-!
# Errors of the geofencing domain

Every operation on geofences, reports and events fails for one of six reasons, each with a detail
that says what was wrong.
-/

namespace Geofencing

/-- Why an operation of the domain failed. -/
inductive DomainError where
  /-- A latitude or longitude is out of range. -/
  | invalidCoordinate (detail : String)
  /-- A geofence has no well-formed shape or an unknown type. -/
  | invalidGeofence (detail : String)
  /-- A location report cannot be built. -/
  | invalidReport (detail : String)
  /-- A polygon could not be evaluated. -/
  | spatialEngine (detail : String)
  /-- A store refused or could not carry out a call. -/
  | persistence (detail : String)
  /-- Something that was asked for does not exist. -/
  | notFound (detail : String)
  deriving DecidableEq, Repr

namespace DomainError

/-- The detail without the reason. -/
def detail : DomainError → String
  | .invalidCoordinate d | .invalidGeofence d | .invalidReport d | .spatialEngine d
  | .persistence d | .notFound d => d

/-- The reason and the detail. -/
def message : DomainError → String
  | .invalidCoordinate d => "Invalid coordinate: " ++ d
  | .invalidGeofence d => "Invalid geofence: " ++ d
  | .invalidReport d => "Invalid location report: " ++ d
  | .spatialEngine d => "Spatial engine failure: " ++ d
  | .persistence d => "Persistence failure: " ++ d
  | .notFound d => "Not found: " ++ d

end DomainError

end Geofencing
