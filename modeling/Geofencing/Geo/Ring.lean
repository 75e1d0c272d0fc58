/-!
# Points and rings

Where a point lies relative to a closed ring of vertices, by counting how often the ring winds
around it. Coordinates are integers, so they are compared without rounding. The side of an edge on
which a point lies is told by a `Turn`; `orientation` is the exact one.
-/

namespace Geofencing.Geo

/-- A point of the plane. -/
structure Point where
  /-- To the east. -/
  x : Int
  /-- To the north. -/
  y : Int
  deriving DecidableEq, Repr

/-- Where a point lies relative to a ring or polygon. -/
inductive Side where
  /-- Off the area and its boundary. -/
  | outside
  /-- On an edge. -/
  | boundary
  /-- Strictly within. -/
  | inside
  deriving DecidableEq, Repr

/-- Tells on which side of the edge from the first to the second point the third one lies: positive
to the left, negative to the right, and zero on the line through the edge. -/
abbrev Turn := Point → Point → Point → Int

/-- The exact turn, twice the signed area of the triangle. -/
def orientation : Turn := fun a b p =>
  (b.x - a.x) * (p.y - a.y) - (b.y - a.y) * (p.x - a.x)

/-- Whether a number lies between two others, in either order and ends included. -/
def between (v a b : Int) : Bool :=
  min a b ≤ v && v ≤ max a b

/-- What one edge contributes to the position of a point. -/
inductive Crossing where
  /-- The point is on the edge. -/
  | touches
  /-- The edge turns around the point by this much. -/
  | turns (amount : Int)
  deriving DecidableEq, Repr

/-- The contribution of the edge from `a` to `b` to the position of `p`: an upward edge counts its
start and not its end, a downward edge its end and not its start, and only edges to the right of
the point count. -/
def crossing (turn : Turn) (p a b : Point) : Crossing :=
  if a.y ≤ p.y then
    if p.y ≤ b.y then
      if 0 < turn a b p ∧ b.y ≠ p.y then .turns 1
      else if turn a b p = 0 ∧ between p.x a.x b.x = true then .touches
      else .turns 0
    else .turns 0
  else if b.y ≤ p.y then
    if turn a b p < 0 then .turns (-1)
    else if turn a b p = 0 ∧ between p.x a.x b.x = true then .touches
    else .turns 0
  else .turns 0

/-- Whether a point lies on the edge from `a` to `b`. -/
def onEdge (turn : Turn) (p a b : Point) : Bool :=
  turn a b p == 0 && between p.x a.x b.x && between p.y a.y b.y

/-- The edges between successive vertices. -/
def edges {α : Type} : List α → List (α × α)
  | a :: b :: rest => (a, b) :: edges (b :: rest)
  | _ => []

/-- Follow the edges of a ring and sum up their turns; an edge that holds the point ends the
walk. -/
def wind (turn : Turn) (p : Point) (turns : Int) : List (Point × Point) → Side
  | [] => if turns = 0 then .outside else .inside
  | (a, b) :: rest =>
    match crossing turn p a b with
    | .touches => .boundary
    | .turns n => wind turn p (turns + n) rest

/-- Where a point lies relative to a closed ring. A ring of one vertex is a single boundary
point. -/
def ringSide (turn : Turn) (p : Point) : List Point → Side
  | [] => .outside
  | [v] => if p = v then .boundary else .outside
  | ring => wind turn p 0 (edges ring)

/-- A ring whose last vertex is not the same as the first is closed by repeating the first. -/
def close {α : Type} (same : α → α → Bool) : List α → List α
  | [] => []
  | v :: rest => if same v (rest.getLastD v) then v :: rest else v :: rest ++ [v]

/-- An area bounded by an exterior ring, less its holes. All rings are closed. -/
structure Polygon (α : Type) where
  /-- The outer ring. -/
  exterior : List α
  /-- The rings of the holes. -/
  holes : List (List α)
  deriving DecidableEq, Repr

/-- The same polygon in other coordinates. -/
def Polygon.map {α β : Type} (f : α → β) (g : Polygon α) : Polygon β :=
  ⟨g.exterior.map f, g.holes.map fun ring => ring.map f⟩

/-- Look at the holes in turn for a point within the exterior: the first hole that holds the point
decides. -/
def holesSide (turn : Turn) (p : Point) : List (List Point) → Side
  | [] => .inside
  | hole :: rest =>
    match ringSide turn p hole with
    | .outside => holesSide turn p rest
    | .boundary => .boundary
    | .inside => .outside

/-- Where a point lies relative to a polygon. -/
def Polygon.side (turn : Turn) (p : Point) (g : Polygon Point) : Side :=
  match ringSide turn p g.exterior with
  | .outside => .outside
  | .boundary => .boundary
  | .inside => holesSide turn p g.holes

/-- Whether a point lies in a polygon, its boundary included. -/
def Polygon.holds (turn : Turn) (p : Point) (g : Polygon Point) : Bool :=
  g.side turn p != .outside

/-- A rectangle with sides along the axes. -/
structure Box where
  /-- The smallest `x`. -/
  west : Int
  /-- The largest `x`. -/
  east : Int
  /-- The smallest `y`. -/
  south : Int
  /-- The largest `y`. -/
  north : Int
  deriving DecidableEq, Repr

namespace Box

/-- The box of a single point. -/
def ofPoint (p : Point) : Box := ⟨p.x, p.x, p.y, p.y⟩

/-- The smallest box that also holds a point. -/
def extend (b : Box) (p : Point) : Box :=
  ⟨min b.west p.x, max b.east p.x, min b.south p.y, max b.north p.y⟩

/-- The smallest box around points, if there are any. -/
def around : List Point → Option Box
  | [] => none
  | p :: rest => some (rest.foldl extend (ofPoint p))

/-- Whether a point lies in a box, its sides included. -/
def holds (b : Box) (p : Point) : Bool :=
  b.west ≤ p.x && p.x ≤ b.east && b.south ≤ p.y && p.y ≤ b.north

end Box

/-- Whether a point lies in one of several polygons. A point off the box around all exteriors is in
none, so that box is looked at first. -/
def unionHolds (turn : Turn) (p : Point) (polygons : List (Polygon Point)) : Bool :=
  match Box.around (polygons.flatMap Polygon.exterior) with
  | some box => box.holds p && polygons.any fun g => g.holds turn p
  | none => polygons.any fun g => g.holds turn p

end Geofencing.Geo
