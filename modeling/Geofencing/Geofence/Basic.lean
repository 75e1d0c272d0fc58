import Geofencing.Geofence.Kind
import Geofencing.Geofence.Shape
import Geofencing.Instant.Text
import Geofencing.Uuid

/-!
# Geofences

A named area of one tenant, and how it is laid out as a row of a table: the kind as text and the
shape in four nullable columns.
-/

namespace Geofencing

/-- A named area of a tenant. -/
structure Geofence where
  /-- The identifier, unique over all tenants. -/
  id : Uuid
  /-- The tenant that owns the geofence. -/
  tenant : Uuid
  /-- The name shown to people. -/
  name : String
  /-- The kind of area. -/
  kind : AreaKind
  /-- The area itself. -/
  shape : Shape
  /-- Whether the geofence is evaluated at all. -/
  active : Bool
  /-- Free-form data of the tenant. -/
  metadata : Option Json
  /-- When the geofence was created. -/
  createdAt : Instant
  /-- When the geofence was last changed. -/
  updatedAt : Instant

namespace Geofence

/-- A geofence in JSON, with its tenant. -/
def toJson (g : Geofence) : Json :=
  .object
    [("id", g.id.toJson), ("tenantId", g.tenant.toJson), ("name", .str g.name),
     ("geofenceType", g.kind.toJson), ("shape", g.shape.toJson), ("active", .bool g.active),
     ("metadata", g.metadata.getD .null), ("createdAt", g.createdAt.toJson),
     ("updatedAt", g.updatedAt.toJson)]

/-- A geofence as it is shown to its tenant: metadata only if there is any. -/
def response (g : Geofence) : Json :=
  .object <|
    [("id", g.id.toJson), ("name", .str g.name), ("geofenceType", g.kind.toJson),
     ("shape", g.shape.toJson), ("active", .bool g.active), ("createdAt", g.createdAt.toJson),
     ("updatedAt", g.updatedAt.toJson)] ++ (g.metadata.map fun m => ("metadata", m)).toList

open Json.Decoder in
/-- Decode a geofence. -/
def decoder : Json.Decoder Geofence :=
  record
    [.always "id" Uuid.decoder, .always "tenantId" Uuid.decoder, .always "name" string,
     .always "geofenceType" AreaKind.decoder, .always "shape" Shape.decoder,
     .always "active" bool, .always "metadata" (option json),
     .always "createdAt" Instant.decoder, .always "updatedAt" Instant.decoder]
    fun mode get => do
      let id ← required mode get "id" Uuid.decoder
      let tenant ← required mode get "tenantId" Uuid.decoder
      let name ← required mode get "name" string
      let kind ← required mode get "geofenceType" AreaKind.decoder
      let shape ← required mode get "shape" Shape.decoder
      let active ← required mode get "active" bool
      let metadata ← optional mode get "metadata" json
      let createdAt ← required mode get "createdAt" Instant.decoder
      let updatedAt ← required mode get "updatedAt" Instant.decoder
      return { id, tenant, name, kind, shape, active, metadata, createdAt, updatedAt }

end Geofence

/-! ## Rows -/

/-- A row of the geofence table. -/
structure GeofenceRow where
  /-- The identifier. -/
  id : Uuid
  /-- The owning tenant. -/
  tenant : Uuid
  /-- The name. -/
  name : String
  /-- The name of the kind of area. -/
  kind : String
  /-- The shape. -/
  shape : ShapeColumns
  /-- Whether the geofence is evaluated. -/
  active : Bool
  /-- Free-form data. -/
  metadata : Option Json
  /-- When the row was created. -/
  createdAt : Instant
  /-- When the row was last changed. -/
  updatedAt : Instant

namespace GeofenceRow

/-- The geofence of a row; the kind is looked at before the shape. -/
def geofence (r : GeofenceRow) : Except DomainError Geofence :=
  match AreaKind.parse? r.kind with
  | none => .error (.invalidGeofence ("unknown geofence type " ++ r.kind))
  | some kind =>
    match Shape.ofColumns r.shape with
    | .error f => .error f.toError
    | .ok shape =>
      .ok { id := r.id, tenant := r.tenant, name := r.name, kind, shape, active := r.active,
            metadata := r.metadata, createdAt := r.createdAt, updatedAt := r.updatedAt }

/-- The geofences of those rows that hold one. -/
def geofences (rows : List GeofenceRow) : List Geofence :=
  rows.filterMap fun r => r.geofence.toOption

end GeofenceRow

/-- The row of a geofence. -/
def Geofence.row (g : Geofence) : GeofenceRow :=
  { id := g.id, tenant := g.tenant, name := g.name, kind := g.kind.text, shape := g.shape.columns,
    active := g.active, metadata := g.metadata, createdAt := g.createdAt, updatedAt := g.updatedAt }

end Geofencing
