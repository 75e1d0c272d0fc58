import Geofencing.Geo.Coordinate

/-!
# Shapes of geofences

A geofence covers a circle or the polygons of a GeoJSON geometry. A shape is kept in four nullable
columns, of which either the three of a circle or the one of a polygon are filled.
-/

namespace Geofencing

/-- The area that a geofence covers. -/
inductive Shape where
  /-- A circle around a center, with a radius in meters. -/
  | circle (center : Coordinate) (radius : Float)
  /-- A GeoJSON geometry, read by the spatial engine. -/
  | polygon (geometry : Json)

/-- The columns in which a shape is kept. -/
structure ShapeColumns where
  /-- Latitude of a circle's center. -/
  latitude : Option Float
  /-- Longitude of a circle's center. -/
  longitude : Option Float
  /-- Radius of a circle in meters. -/
  radius : Option Float
  /-- A GeoJSON geometry. -/
  polygon : Option Json

/-- Why columns do not make a shape. -/
inductive ShapeFault where
  /-- The center of the circle is out of range. -/
  | center (error : DomainError)
  /-- All columns are empty. -/
  | missing
  /-- A circle and a polygon are mixed, or a circle is incomplete. -/
  | mixed
  /-- The radius is negative or not finite. -/
  | radius (value : Float)
  /-- The geometry is no polygon or has no coordinates. -/
  | geometry (violation : Violation)

namespace ShapeFault

/-- The text of a fault. -/
def text : ShapeFault → String
  | .center e => e.message
  | .missing => "neither circle nor polygon is populated"
  | .mixed => "a geofence needs either center and radius or a polygon"
  | .radius x => "radius " ++ Binary64.plain x ++ " must be a non-negative number of meters"
  | .geometry v => v.message

/-- A fault as an error of the domain. -/
def toError (f : ShapeFault) : DomainError := .invalidGeofence f.text

end ShapeFault

namespace ShapeColumns

/-- Whether no column is filled. -/
def isEmpty (c : ShapeColumns) : Bool :=
  c.latitude.isNone && c.longitude.isNone && c.radius.isNone && c.polygon.isNone

end ShapeColumns

namespace Shape

/-- What keeps a shape from being evaluated: a radius that is negative or not finite, or a geometry
that is no polygon. -/
def fault? : Shape → Option ShapeFault
  | .circle _ radius => if Binary64.isFinite radius && 0 ≤ radius then none else some (.radius radius)
  | .polygon geometry => (Validation.polygon geometry).map .geometry

/-- Whether a shape can be evaluated. -/
def wellFormed (s : Shape) : Bool := s.fault?.isNone

/-- Check that a shape can be evaluated. -/
def check (s : Shape) : Except DomainError Unit :=
  match s.fault? with
  | none => .ok ()
  | some f => .error f.toError

/-- The shape itself, unless it cannot be evaluated. -/
def checked (s : Shape) : Except ShapeFault Shape :=
  match s.fault? with
  | none => .ok s
  | some f => .error f

/-- The shape kept in the given columns. -/
def ofColumns (c : ShapeColumns) : Except ShapeFault Shape :=
  match c.latitude, c.longitude, c.radius, c.polygon with
  | some latitude, some longitude, some radius, none =>
    match Coordinate.make latitude longitude with
    | .error e => .error (.center e)
    | .ok center => (Shape.circle center radius).checked
  | none, none, none, some geometry => (Shape.polygon geometry).checked
  | none, none, none, none => .error .missing
  | _, _, _, _ => .error .mixed

/-- The columns that keep a shape. -/
def columns : Shape → ShapeColumns
  | .circle center radius => ⟨some center.latitude, some center.longitude, some radius, none⟩
  | .polygon geometry => ⟨none, none, none, some geometry⟩

/-- A shape in JSON, tagged with its kind. -/
def toJson : Shape → Json
  | .circle center radius =>
    .object [("kind", .str "circular"), ("center", center.toJson), ("radiusMeters", .float radius)]
  | .polygon geometry => .object [("kind", .str "polygon"), ("geometry", geometry)]

/-- The kinds of shapes. -/
inductive Tag where
  /-- A circle. -/
  | circular
  /-- A polygon. -/
  | polygon
  deriving DecidableEq

/-- The kind with a given name. -/
def Tag.parse? (s : String) : Option Tag :=
  if s = "circular" then some .circular else if s = "polygon" then some .polygon else none

/-- Walk the members of a tagged object: the tag must come once and be known, every other member
must be a value. -/
def scanTagged (mode : Json.Mode) (tag : Option Tag) :
    List (Option String × Json.Tree) → Except Json.Fault (Option Tag)
  | [] => .ok tag
  | (none, _) :: _ => .error .malformed
  | (some k, t) :: rest =>
    if k = "kind" then
      match tag with
      | some _ => .error .mismatch
      | none =>
        match Json.Decoder.parsed Tag.parse? mode t with
        | .error f => .error f
        | .ok tag => scanTagged mode (some tag) rest
    else
      match Json.Decoder.json mode t with
      | .error f => .error f
      | .ok _ => scanTagged mode tag rest

/-- The members of a circle. -/
def circleDecoder : Json.Decoder Shape :=
  Json.Decoder.record
    [.always "center" Coordinate.decoder, .always "radiusMeters" Json.Decoder.float]
    fun mode get => do
      let center ← Json.Decoder.required mode get "center" Coordinate.decoder
      let radius ← Json.Decoder.required mode get "radiusMeters" Json.Decoder.float
      return .circle center radius

/-- The members of a polygon. -/
def polygonDecoder : Json.Decoder Shape :=
  Json.Decoder.record [.always "geometry" Json.Decoder.json]
    fun mode get => do
      let geometry ← Json.Decoder.required mode get "geometry" Json.Decoder.json
      return .polygon geometry

/-- The content of a shape of a known kind, all of which has been read before. -/
def contentDecoder : Tag → Json.Decoder Shape
  | .circular => circleDecoder
  | .polygon => polygonDecoder

/-- Decode a shape. In an object the tag may come last, so the whole object is read before its
content is looked at. In an array the tag comes first, and the fields follow in order. -/
def decoder : Json.Decoder Shape
  | mode, .object members closed => do
    let inner ← mode.enter
    let tag ← scanTagged inner none members
    if ¬ closed then .error .malformed
    else
      let rest := members.filter fun m => m.1 != some "kind"
      match tag with
      | none => .error .mismatch
      | some tag => contentDecoder tag .inMemory (.object rest true)
  | mode, .array items closed => do
    let inner ← mode.enter
    match items with
    | [] => .error (if closed then .mismatch else .malformed)
    | t :: rest =>
      let tag ← Json.Decoder.parsed Tag.parse? inner t
      let _ ← Json.Decoder.jsonItems inner rest
      if ¬ closed then .error .malformed
      else contentDecoder tag .inMemory (.array rest true)
  | _, t => Json.Decoder.refuse t

end Shape

end Geofencing
