import Geofencing.Event
import Geofencing.Geofence.Basic
import Geofencing.Location.Report

/-!
# The store

Geofences by identifier, and the reports and events of all tenants in the order of their arrival.
-/

namespace Geofencing

/-- Everything that is stored. -/
structure Store where
  /-- The geofences, each under its identifier. -/
  geofences : List (Uuid × Geofence)
  /-- The location reports, in the order of their arrival. -/
  reports : List Report
  /-- The events, in the order in which they were recorded. -/
  events : List Event

namespace Store

/-- The store that holds nothing. -/
def empty : Store := ⟨[], [], []⟩

/-! ## Geofences -/

/-- The geofence under an identifier, whatever its tenant. -/
def geofence? (s : Store) (id : Uuid) : Option Geofence :=
  s.geofences.lookup id

/-- The geofence of a tenant under an identifier. -/
def find (s : Store) (tenant id : Uuid) : Option Geofence :=
  (s.geofence? id).filter fun g => g.tenant == tenant

/-- The order in which geofences are listed: by name, then by age. -/
def listedBefore (a b : Geofence) : Bool :=
  a.name < b.name || (a.name == b.name && a.createdAt.notAfter b.createdAt)

/-- The geofences of a tenant in listing order, inactive ones only if asked for. -/
def list (s : Store) (tenant : Uuid) (includeInactive : Bool) : List Geofence :=
  ((s.geofences.map Prod.snd).filter fun g =>
    g.tenant == tenant && (includeInactive || g.active)).mergeSort listedBefore

/-- Store a new geofence. -/
def insert (s : Store) (g : Geofence) : Store :=
  { s with geofences := s.geofences ++ [(g.id, g)] }

/-- Replace the geofence under an identifier. -/
def replace (s : Store) (g : Geofence) : Store :=
  { s with geofences := s.geofences.map fun (id, old) => if id = g.id then (id, g) else (id, old) }

/-- Remove the geofence under an identifier together with all events about it. -/
def remove (s : Store) (id : Uuid) : Store :=
  { s with
    geofences := s.geofences.filter fun entry => entry.1 != id
    events := s.events.filter fun e => e.geofence != id }

/-! ## Reports -/

/-- The report of an actor that arrived last. -/
def latest (s : Store) (tenant actor : Uuid) : Option Report :=
  s.reports.reverse.find? fun r => r.isAbout tenant actor

/-- Store a report. -/
def addReport (s : Store) (r : Report) : Store :=
  { s with reports := s.reports ++ [r] }

/-- Whether a purge removes a report: it is of the tenant, if one is given, and was observed before
the cutoff. -/
def expired (tenant : Option Uuid) (cutoff : Instant) (r : Report) : Bool :=
  tenant.all (r.tenant == ·) && r.recordedAt.before cutoff

/-- Remove expired reports. -/
def purge (s : Store) (tenant : Option Uuid) (cutoff : Instant) : Store :=
  { s with reports := s.reports.filter fun r => !expired tenant cutoff r }

/-- How many reports a purge removes. -/
def purgeCount (s : Store) (tenant : Option Uuid) (cutoff : Instant) : Nat :=
  (s.reports.filter (expired tenant cutoff)).length

/-! ## Events -/

/-- Store an event. -/
def addEvent (s : Store) (e : Event) : Store :=
  { s with events := s.events ++ [e] }

/-- The event with an identifier, whatever its tenant. -/
def event? (s : Store) (id : Uuid) : Option Event :=
  s.events.find? fun e => e.id == id

/-- Whether an event has a given identifier and tenant. -/
def isEvent (tenant id : Uuid) (e : Event) : Bool :=
  e.id == id && e.tenant == tenant

/-- Mark the first event with an identifier and tenant; none if there is no such event. -/
def markFirst (tenant id : Uuid) (processedAt : Instant) : List Event → Option (List Event)
  | [] => none
  | e :: rest =>
    if isEvent tenant id e then some ({ e with processedAt := some processedAt } :: rest)
    else (markFirst tenant id processedAt rest).map (e :: ·)

/-- An event with the present name of its geofence, as far as that is stored. -/
def named (s : Store) (e : Event) : Event :=
  match s.geofence? e.geofence with
  | some g => { e with geofenceName := some g.name }
  | none => e

/-- The events of a tenant that a query selects, in the order in which they were recorded. -/
def selected (s : Store) (tenant : Uuid) (q : EventQuery) : List Event :=
  s.events.filter (q.selects tenant)

/-- The order in which events are listed: the latest first. -/
def newerFirst (a b : Event) : Bool :=
  b.occurredAt.notAfter a.occurredAt

/-- One page of the events of a tenant that a query selects. -/
def page (s : Store) (tenant : Uuid) (q : EventQuery) : List Event :=
  (((s.selected tenant q).map s.named).mergeSort newerFirst).take q.effectiveLimit

end Store

end Geofencing
