import Geofencing.Location.Report
import Geofencing.Location.Request
import Geofencing.Service.Recorder

/-!
# Tracking actors

Submitting a location stores it and records which boundaries the actor crossed since the last
report. What an actor was inside of is never stored: it is found anew from the last report that
arrived.
-/

namespace Geofencing.Tracker

/-- What a submission led to. -/
structure Outcome where
  /-- The stored report. -/
  report : Uuid
  /-- The recorded events, in order. -/
  events : List Uuid
  /-- What was found about each geofence. -/
  findings : List Finding
  deriving DecidableEq, Repr

/-- Evaluate a location, asking the spatial engine about polygons. -/
def evaluate (tenant : Uuid) (location : Coordinate) (geofences : List Geofence) :
    Prog (List Finding) :=
  Membership.evaluateWith Prog.locate tenant location geofences

/-- The geofences that the actor was inside of at the last report. -/
def previouslyInside (tenant : Uuid) (geofences : List Geofence) :
    Option Report → Prog (List Uuid)
  | none => pure []
  | some r => do
    let findings ← evaluate tenant r.coordinate geofences
    pure (Membership.insideIds findings)

/-- Store an observation of an actor and record the boundaries it crossed. -/
def submit (tenant actor : Uuid) (o : Observation) : Service Outcome := do
  ExceptT.mk (pure o.coordinate.validate)
  let geofences ← Service.store (.findActive tenant)
  let previous ← Service.store (.latest tenant actor)
  let before ← previouslyInside tenant geofences previous
  let id ← Prog.fresh
  let createdAt ← Prog.now
  Service.store (.insertReport ⟨id, tenant, actor, o, createdAt⟩)
  Prog.count .locationsSubmitted 1
  let findings ← evaluate tenant o.coordinate geofences
  let findings := Membership.transitions before findings
  let events ← Recorder.record tenant actor o.coordinate o.recordedAt findings
  return ⟨id, events, findings⟩

/-- The geofences that an actor is inside of, as far as the last report tells. -/
def current (tenant actor : Uuid) : Service (List Uuid) := do
  match ← Service.store (.latest tenant actor) with
  | none => return []
  | some r =>
    let geofences ← Service.store (.findActive tenant)
    let findings ← evaluate tenant r.coordinate geofences
    return Membership.insideIds findings

/-- Remove the reports that are no longer kept, of one tenant or of all, and count them. A cutoff
beyond the reach of instants breaks the program down. -/
def purge (policy : RetentionPolicy) (tenant : Option Uuid) : Service Nat := do
  let now ← Prog.now
  match policy.cutoff? now with
  | none => ExceptT.mk Prog.abort
  | some cutoff =>
    let deleted ← Service.store (.deleteBefore tenant cutoff)
    Prog.count .reportsPurged deleted
    return deleted

end Geofencing.Tracker
