import Geofencing.Json.Decode

/-!
# Kinds of campus areas

What kind of area a geofence describes. Entering the school grounds triggers attendance.
-/

namespace Geofencing

/-- The kind of area that a geofence describes. -/
inductive AreaKind where
  /-- The grounds of the school. -/
  | schoolGrounds
  /-- A classroom. -/
  | classroom
  /-- A library. -/
  | library
  /-- A cafeteria. -/
  | cafeteria
  /-- A playground. -/
  | playground
  /-- A bus route. -/
  | busRoute
  /-- A gymnasium. -/
  | gymnasium
  /-- A parking lot. -/
  | parkingLot
  /-- Anything else. -/
  | custom
  deriving DecidableEq, Repr

namespace AreaKind

/-- All kinds. -/
def all : List AreaKind :=
  [schoolGrounds, classroom, library, cafeteria, playground, busRoute, gymnasium, parkingLot, custom]

/-- The name of a kind. -/
def text : AreaKind → String
  | .schoolGrounds => "SCHOOL_GROUNDS"
  | .classroom => "CLASSROOM"
  | .library => "LIBRARY"
  | .cafeteria => "CAFETERIA"
  | .playground => "PLAYGROUND"
  | .busRoute => "BUS_ROUTE"
  | .gymnasium => "GYMNASIUM"
  | .parkingLot => "PARKING_LOT"
  | .custom => "CUSTOM"

/-- The kind with a given name. -/
def parse? (s : String) : Option AreaKind :=
  all.find? fun k => k.text == s

/-- Reading the name of a kind gives the kind. -/
@[simp]
theorem parse?_text (k : AreaKind) : parse? k.text = some k := by
  cases k <;> decide

/-- Whether entering an area of this kind triggers attendance. -/
def takesAttendance (k : AreaKind) : Bool := k == .schoolGrounds

/-- A kind in JSON. -/
def toJson (k : AreaKind) : Json := .str k.text

/-- Decode a kind. -/
def decoder : Json.Decoder AreaKind := Json.Decoder.named parse?

end AreaKind

end Geofencing
