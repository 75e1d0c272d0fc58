import Geofencing.Json.Value

/-!
# Reading GeoJSON geometries

A geometry object is read strictly: every position must be an array of at least two numbers, and
the nesting of the coordinates must fit the type. Only polygons are of further use.
-/

namespace Geofencing.Geo

/-- A position in degrees: the longitude comes first. -/
structure Position where
  /-- Degrees east. -/
  longitude : Float
  /-- Degrees north. -/
  latitude : Float
  deriving DecidableEq, Repr

/-- What a GeoJSON value turned out to be. -/
inductive Geometry where
  /-- Polygons, each as its rings. -/
  | polygons (rings : List (List (List Position)))
  /-- A well-formed geometry without area. -/
  | other
  deriving DecidableEq

namespace GeoJson

/-- The numbers of an array of numbers. -/
def numbers? : List Json → Option (List Float)
  | [] => some []
  | .num n :: rest => (numbers? rest).map (n.toFloat :: ·)
  | _ => none

/-- A position: at least two numbers, of which the first two are used. -/
def position? (j : Json) : Option Position :=
  match j.items?.bind numbers? with
  | some (lon :: lat :: _) => some ⟨lon, lat⟩
  | _ => none

/-- All items of a list, if each can be read. -/
def all? {α β : Type} (f : α → Option β) : List α → Option (List β)
  | [] => some []
  | a :: rest =>
    match f a with
    | some b => (all? f rest).map (b :: ·)
    | none => none

/-- An array whose items can all be read. -/
def array? {α : Type} (f : Json → Option α) (j : Json) : Option (List α) :=
  j.items?.bind (all? f)

/-- Whether the `bbox` member of an object is absent, `null` or an array of numbers. -/
def bboxOk (members : List (String × Json)) : Bool :=
  match members.lookup "bbox" with
  | none | some .null => true
  | some (.arr items) => (numbers? items).isSome
  | some _ => false

/-- The geometry of an object with coordinates, by its type. -/
def ofCoordinates? (type : String) (coordinates : Json) : Option Geometry :=
  if type = "Point" then (position? coordinates).map fun _ => .other
  else if type = "MultiPoint" ∨ type = "LineString" then
    (array? position? coordinates).map fun _ => .other
  else if type = "MultiLineString" then
    (array? (array? position?) coordinates).map fun _ => .other
  else if type = "Polygon" then
    (array? (array? position?) coordinates).map fun rings => .polygons [rings]
  else if type = "MultiPolygon" then
    (array? (array? (array? position?)) coordinates).map .polygons
  else none

mutual

/-- The geometry that a value describes. -/
def parse? : Json → Option Geometry
  | .obj members =>
    if bboxOk members then
      match members.lookup "type" with
      | some (.str type) =>
        if type = "GeometryCollection" then
          if collectionOk members then some .other else none
        else (members.lookup "coordinates").bind (ofCoordinates? type)
      | _ => none
    else none
  | _ => none

/-- Whether the first `geometries` member is an array of geometries. -/
def collectionOk : List (String × Json) → Bool
  | [] => false
  | (k, v) :: rest =>
    if k = "geometries" then
      match v with
      | .arr items => geometriesOk items
      | _ => false
    else collectionOk rest

/-- Whether all values are geometries. -/
def geometriesOk : List Json → Bool
  | [] => true
  | j :: rest => (parse? j).isSome && geometriesOk rest

end

end GeoJson

end Geofencing.Geo
