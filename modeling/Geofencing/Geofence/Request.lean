import Geofencing.Geofence.Basic

/-!
# Requests about geofences

What a client sends to create or change a geofence. A change leaves out what it does not touch; the
four shape fields replace the shape as a whole.
-/

namespace Geofencing

/-- The violations of a request, each with the field it concerns. -/
abbrev Violations := List (String × Violation)

namespace Violations

/-- The violation of one field, if its value has one. -/
def field (name : String) (v : Option Violation) : Violations :=
  (v.map fun v => (name, v)).toList

/-- The violation of a field that may be absent. -/
def optionalField {α : Type} (name : String) (rule : α → Option Violation) (value : Option α) :
    Violations :=
  field name (value.bind rule)

end Violations

/-- A request to create a geofence. -/
structure CreateGeofence where
  /-- The name. -/
  name : String
  /-- The kind of area. -/
  kind : AreaKind
  /-- The shape, as sent. -/
  shape : ShapeColumns
  /-- Whether the geofence is evaluated from the start. -/
  active : Bool
  /-- Free-form data. -/
  metadata : Option Json

/-- A request to change a geofence. -/
structure UpdateGeofence where
  /-- The new name. -/
  name : Option String
  /-- The new kind of area. -/
  kind : Option AreaKind
  /-- The new shape, as sent. -/
  shape : ShapeColumns
  /-- Whether the geofence is evaluated from now on. -/
  active : Option Bool
  /-- The new free-form data. -/
  metadata : Option Json

/-- The violations of shape fields. -/
def ShapeColumns.violations (c : ShapeColumns) : Violations :=
  .optionalField "center_latitude" Validation.latitude c.latitude ++
    (.optionalField "center_longitude" Validation.longitude c.longitude ++
      .optionalField "radius_meters" Validation.radius c.radius)

open Json.Decoder in
/-- Collect the four shape fields of a request. -/
def ShapeColumns.collect (mode : Json.Mode) (get : Lookup) : Except Json.Fault ShapeColumns := do
  let latitude ← optional mode get "centerLatitude" float
  let longitude ← optional mode get "centerLongitude" float
  let radius ← optional mode get "radiusMeters" float
  let polygon ← optional mode get "polygon" json
  return ⟨latitude, longitude, radius, polygon⟩

namespace CreateGeofence

/-- What is wrong with the single fields. -/
def violations (r : CreateGeofence) : Violations :=
  .field "name" (Validation.name r.name) ++ r.shape.violations

open Json.Decoder in
/-- Decode a request. -/
def decoder : Json.Decoder CreateGeofence :=
  record
    [.always "name" string, .always "geofenceType" AreaKind.decoder,
     .always "centerLatitude" (option float), .always "centerLongitude" (option float),
     .always "radiusMeters" (option float), .always "polygon" (option json),
     .atEnd "active" bool, .always "metadata" (option json)]
    fun mode get => do
      let name ← required mode get "name" string
      let kind ← required mode get "geofenceType" AreaKind.decoder
      let shape ← ShapeColumns.collect mode get
      let active ← defaulted mode get "active" true bool
      let metadata ← optional mode get "metadata" json
      return { name, kind, shape, active, metadata }

/-- The geofence that a request asks for. -/
def geofence (r : CreateGeofence) (id tenant : Uuid) (shape : Shape) (now : Instant) : Geofence :=
  { id, tenant, name := Text.trim r.name, kind := r.kind, shape, active := r.active,
    metadata := r.metadata, createdAt := now, updatedAt := now }

end CreateGeofence

namespace UpdateGeofence

/-- What is wrong with the single fields. -/
def violations (r : UpdateGeofence) : Violations :=
  .optionalField "name" Validation.name r.name ++ r.shape.violations

open Json.Decoder in
/-- Decode a request. -/
def decoder : Json.Decoder UpdateGeofence :=
  record
    [.always "name" (option string), .always "geofenceType" (option AreaKind.decoder),
     .always "centerLatitude" (option float), .always "centerLongitude" (option float),
     .always "radiusMeters" (option float), .always "polygon" (option json),
     .always "active" (option bool), .always "metadata" (option json)]
    fun mode get => do
      let name ← optional mode get "name" string
      let kind ← optional mode get "geofenceType" AreaKind.decoder
      let shape ← ShapeColumns.collect mode get
      let active ← optional mode get "active" bool
      let metadata ← optional mode get "metadata" json
      return { name, kind, shape, active, metadata }

/-- The shape that replaces the old one, if any shape field was sent. -/
def newShape (r : UpdateGeofence) : Except ShapeFault (Option Shape) :=
  if r.shape.isEmpty then .ok none else (Shape.ofColumns r.shape).map some

/-- The geofence with the sent fields replaced. A shape that is none refuses the whole change. -/
def apply (r : UpdateGeofence) (now : Instant) (g : Geofence) : Except ShapeFault Geofence :=
  match r.newShape with
  | .error f => .error f
  | .ok shape =>
    .ok { g with
      shape := shape.getD g.shape
      name := r.name.getD g.name
      kind := r.kind.getD g.kind
      active := r.active.getD g.active
      metadata := r.metadata.orElse fun _ => g.metadata
      updatedAt := now }

end UpdateGeofence

end Geofencing
