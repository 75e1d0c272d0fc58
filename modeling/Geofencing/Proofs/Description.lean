import Geofencing.Geo.Engine
import Mathlib.Data.List.Forall2

/-!
# What a GeoJSON value describes

The reader of geometries takes a value apart item by item. What it finds can also be said without
it: a value describes polygons if it has the type of one or of several, and if its coordinates are
nested arrays, as deep as the type asks for, with positions at the bottom.

* `Describes`: a value and the rings of the polygons that it describes.
* `parse?_eq_polygons_iff`: the reader finds the polygons that are described, and no others.
* `parse?_eq_none_of_typed`: a value with the type of polygons that describes none is not read.
-/

namespace Geofencing.Geo

/-- A position is an array of at least two numbers, of which the first two count. -/
inductive IsPosition : Json → Position → Prop where
  /-- The longitude comes first. -/
  | mk (longitude latitude : Number) (more : List Number) :
    IsPosition (.arr (.num longitude :: .num latitude :: more.map .num))
      ⟨longitude.toFloat, latitude.toFloat⟩

/-- A list is an array with one item for each element. -/
def IsList {α : Type} (is : Json → α → Prop) (j : Json) (xs : List α) : Prop :=
  ∃ items, j = .arr items ∧ List.Forall₂ is items xs

/-- The rings of a polygon are lists of positions. -/
abbrev IsRings : Json → List (List Position) → Prop :=
  IsList (IsList IsPosition)

/-- A value has a type and coordinates. -/
structure Typed (geometry : Json) (type : String) (coordinates : Json) : Prop where
  type : geometry.get? "type" = some (.str type)
  coordinates : geometry.get? "coordinates" = some coordinates

/-- If a value has a box, it is `null` or an array of numbers. -/
def Boxed (geometry : Json) : Prop :=
  ∀ box, geometry.get? "bbox" = some box →
    box = .null ∨ ∃ numbers : List Number, box = .arr (numbers.map .num)

/-- A value describes polygons, each with its rings. -/
inductive Describes (geometry : Json) : List (List (List Position)) → Prop where
  /-- A single polygon. -/
  | polygon {coordinates : Json} {rings : List (List Position)} (hboxed : Boxed geometry)
    (htyped : Typed geometry "Polygon" coordinates) (h : IsRings coordinates rings) :
    Describes geometry [rings]
  /-- Several polygons. -/
  | multiPolygon {coordinates : Json} {rings : List (List (List Position))}
    (hboxed : Boxed geometry) (htyped : Typed geometry "MultiPolygon" coordinates)
    (h : IsList IsRings coordinates rings) :
    Describes geometry rings

namespace GeoJson

/-! ## Arrays -/

/-- The numbers of an array are read if it has nothing else. -/
theorem numbers?_eq_some_iff {items : List Json} {xs : List Float} :
    numbers? items = some xs ↔
      ∃ ns : List Number, items = ns.map .num ∧ xs = ns.map Number.toFloat := by
  fun_induction numbers? items generalizing xs with
  | case1 => simp [eq_comm]
  | case2 n rest ih =>
    rw [Option.map_eq_some_iff]
    constructor
    · rintro ⟨ys, hys, rfl⟩
      obtain ⟨ns, rfl, rfl⟩ := ih.1 hys
      exact ⟨n :: ns, rfl, rfl⟩
    · rintro ⟨ns, hitems, rfl⟩
      obtain ⟨m, ms, rfl, hm, hms⟩ := List.map_eq_cons_iff.1 hitems.symm
      obtain rfl := Json.num.inj hm
      exact ⟨_, ih.2 ⟨ms, hms.symm, rfl⟩, rfl⟩
  | case3 items hnil hnum =>
    refine iff_of_false nofun ?_
    rintro ⟨ns, rfl, -⟩
    cases ns with
    | nil => exact hnil rfl
    | cons n ns => exact hnum n _ rfl

/-- A position is read just where there is one. -/
theorem position?_eq_some_iff {j : Json} {p : Position} :
    position? j = some p ↔ IsPosition j p := by
  unfold position?
  constructor
  · intro h
    split at h
    · rename_i x y more hnumbers
      obtain ⟨items, hitems, hnumbers⟩ := Option.bind_eq_some_iff.1 hnumbers
      obtain ⟨ns, rfl, hns⟩ := numbers?_eq_some_iff.1 hnumbers
      -- The two numbers in front stand for two numbers of the array.
      obtain ⟨m, ms, rfl, rfl, hms⟩ := List.map_eq_cons_iff.1 hns.symm
      obtain ⟨n, ns, rfl, rfl, -⟩ := List.map_eq_cons_iff.1 hms
      cases j with
      | arr =>
        cases hitems
        cases h
        exact .mk m n ns
      | _ => cases hitems
    · cases h
  · rintro ⟨longitude, latitude, more⟩
    have hnumbers := numbers?_eq_some_iff.2 ⟨longitude :: latitude :: more, rfl, rfl⟩
    simp only [List.map_cons] at hnumbers
    simp [Json.items?, hnumbers]

/-- A list is read if every item of it is. -/
theorem all?_eq_some_iff {α β : Type} {f : α → Option β} {xs : List α} {ys : List β} :
    all? f xs = some ys ↔ List.Forall₂ (fun x y => f x = some y) xs ys := by
  fun_induction all? f xs generalizing ys with
  | case1 => simp [eq_comm]
  | case2 x rest y hy ih =>
    rw [Option.map_eq_some_iff, List.forall₂_cons_left_iff]
    constructor
    · rintro ⟨ys, hys, rfl⟩
      exact ⟨y, ys, hy, ih.1 hys, rfl⟩
    · rintro ⟨z, zs, hz, hzs, rfl⟩
      obtain rfl := Option.some_inj.1 (hy.symm.trans hz)
      exact ⟨zs, ih.2 hzs, rfl⟩
  | case3 x rest hx =>
    refine iff_of_false nofun ?_
    rw [List.forall₂_cons_left_iff]
    rintro ⟨y, _, hy, -⟩
    rw [hx] at hy
    cases hy

/-- An array is read as a list if its items are read as the elements. -/
theorem array?_eq_some_iff {α : Type} {f : Json → Option α} {is : Json → α → Prop}
    (h : ∀ {j x}, f j = some x ↔ is j x) {j : Json} {xs : List α} :
    array? f j = some xs ↔ IsList is j xs := by
  have hitems {items : List Json} : all? f items = some xs ↔ List.Forall₂ is items xs := by
    rw [all?_eq_some_iff]
    simp only [h]
  unfold array? IsList
  cases j with
  | arr items => simp [Json.items?, hitems]
  | _ => exact iff_of_false nofun (by rintro ⟨_, hj, -⟩; cases hj)

/-- Rings are read just where there are some. -/
theorem rings?_eq_some_iff {j : Json} {rings : List (List Position)} :
    array? (array? position?) j = some rings ↔ IsRings j rings :=
  array?_eq_some_iff (array?_eq_some_iff position?_eq_some_iff)

/-! ## Geometries -/

/-- The reader accepts the boxes that a value may have. -/
theorem bboxOk_iff {members : List (String × Json)} :
    bboxOk members = true ↔ Boxed (.obj members) := by
  have hnumbers {items : List Json} :
      (numbers? items).isSome = true ↔ ∃ ns : List Number, items = ns.map .num := by
    simp only [Option.isSome_iff_exists, numbers?_eq_some_iff]
    exact ⟨fun ⟨_, ns, hns, _⟩ => ⟨ns, hns⟩, fun ⟨ns, hns⟩ => ⟨_, ns, hns, rfl⟩⟩
  unfold bboxOk Boxed
  rw [Json.get?]
  cases members.lookup "bbox" with
  | none => simp
  | some box =>
    simp only [Option.some.injEq, forall_eq']
    cases box <;> simp [hnumbers]

/-- The type says how deep the coordinates of polygons are nested. -/
theorem ofCoordinates?_eq_polygons_iff {type : String} {coordinates : Json}
    {rings : List (List (List Position))} :
    ofCoordinates? type coordinates = some (.polygons rings) ↔
      (type = "Polygon" ∧ ∃ r, IsRings coordinates r ∧ [r] = rings) ∨
      (type = "MultiPolygon" ∧ IsList IsRings coordinates rings) := by
  unfold ofCoordinates?
  split_ifs with hpoint hline hlines hpolygon hpolygons
  · simp [hpoint]
  · rcases hline with rfl | rfl <;> simp
  · simp [hlines]
  · rw [Option.map_eq_some_iff]
    simp [hpolygon, rings?_eq_some_iff]
  · rw [Option.map_eq_some_iff]
    simp [hpolygons, array?_eq_some_iff rings?_eq_some_iff]
  · simp [hpolygon, hpolygons]

/-- A geometry with coordinates is read by its type, unless its box stands in the way. -/
theorem parse?_of_typed {geometry : Json} {type : String} {coordinates : Json}
    (h : Typed geometry type coordinates) (htype : type ≠ "GeometryCollection")
    (hboxed : Boxed geometry) : parse? geometry = ofCoordinates? type coordinates := by
  obtain ⟨hlookup, hcoordinates⟩ := h
  cases geometry with
  | obj members =>
    rw [Json.get?] at hlookup hcoordinates
    rw [parse?, if_pos (bboxOk_iff.2 hboxed), hlookup]
    simp [htype, hcoordinates]
  | _ => cases hlookup

/-- What is read is a collection, or it has a type and coordinates that fit. -/
theorem parse?_cases {geometry : Json} {g : Geometry} (h : parse? geometry = some g) :
    Boxed geometry ∧
      ((geometry.get? "type" = some (.str "GeometryCollection") ∧ g = .other) ∨
        ∃ type coordinates, Typed geometry type coordinates ∧
          ofCoordinates? type coordinates = some g) := by
  cases geometry with
  | obj members =>
    rw [parse?] at h
    -- The reader looks at the box, at the type and at the coordinates, in this order.
    split at h
    · rename_i hbox
      refine ⟨bboxOk_iff.1 hbox, ?_⟩
      split at h
      · rename_i type htype
        split at h
        · rename_i hcollection
          subst hcollection
          split at h
          · cases h
            exact .inl ⟨htype, rfl⟩
          · cases h
        · obtain ⟨coordinates, hcoordinates, h⟩ := Option.bind_eq_some_iff.1 h
          exact .inr ⟨type, coordinates, ⟨htype, hcoordinates⟩, h⟩
      · cases h
    · cases h
  | _ => simp [parse?] at h

end GeoJson

open GeoJson

variable {geometry coordinates : Json} {rings : List (List (List Position))}

/-- The reader finds the polygons that a value describes, and no others. -/
theorem parse?_eq_polygons_iff :
    parse? geometry = some (.polygons rings) ↔ Describes geometry rings := by
  constructor
  · intro h
    obtain ⟨hboxed, ⟨-, h⟩ | ⟨type, coordinates, htyped, h⟩⟩ := parse?_cases h
    · cases h
    · obtain ⟨rfl, r, hr, rfl⟩ | ⟨rfl, hr⟩ := ofCoordinates?_eq_polygons_iff.1 h
      · exact .polygon hboxed htyped hr
      · exact .multiPolygon hboxed htyped hr
  · rintro (⟨hboxed, htyped, h⟩ | ⟨hboxed, htyped, h⟩)
    · rw [parse?_of_typed htyped (by decide) hboxed]
      exact ofCoordinates?_eq_polygons_iff.2 (.inl ⟨rfl, _, h, rfl⟩)
    · rw [parse?_of_typed htyped (by decide) hboxed]
      exact ofCoordinates?_eq_polygons_iff.2 (.inr ⟨rfl, h⟩)

/-- A value with the type of polygons that describes none is not read at all. -/
theorem parse?_eq_none_of_typed
    (htype : geometry.get? "type" = some (.str "Polygon") ∨
      geometry.get? "type" = some (.str "MultiPolygon"))
    (h : ∀ rings, ¬Describes geometry rings) : parse? geometry = none := by
  cases hparse : parse? geometry with
  | none => rfl
  | some g =>
    obtain ⟨-, ⟨hcollection, -⟩ | ⟨type, coordinates, htyped, hg⟩⟩ := parse?_cases hparse
    · rw [hcollection] at htype
      simp at htype
    · -- The coordinates of polygons are read as polygons if they are read at all.
      rw [htyped.type] at htype
      simp only [Option.some.injEq, Json.str.injEq] at htype
      obtain ⟨rings, rfl⟩ : ∃ rings, g = .polygons rings := by
        rcases htype with rfl | rfl <;> simp only [ofCoordinates?] at hg
        · obtain ⟨r, -, rfl⟩ := Option.map_eq_some_iff.1 hg
          exact ⟨_, rfl⟩
        · obtain ⟨r, -, rfl⟩ := Option.map_eq_some_iff.1 hg
          exact ⟨_, rfl⟩
      exact absurd (parse?_eq_polygons_iff.1 hparse) (h rings)

end Geofencing.Geo
