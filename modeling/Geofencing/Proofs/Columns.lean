import Geofencing.Geofence.Basic
import Geofencing.Proofs.Evaluation
import Geofencing.Proofs.Soundness

/-!
# Rows and the geofences in them

A row holds the kind of a geofence as text and its shape in four columns, each of which may be
empty. Geofences are written into rows field by field, and read from them by a check of each pattern
of filled columns. The two do not refer to each other, but they are inverse.

* `Shape.ofColumns_eq_ok_iff`: columns make a shape exactly if they are those of the shape, and its
  values are in range.
* `GeofenceRow.geofence_eq_ok_iff`: the same for whole rows.
* `GeofenceRow.Whole`: which rows hold a geofence, by their columns alone.
* `GeofenceRow.conversion`: all of it, for single rows and for lists of them.
-/

namespace Geofencing

/-! ## Shapes -/

/-- A coordinate is made of two numbers just when they are in range. -/
theorem Coordinate.make_eq_ok_iff {latitude longitude : Float} {c : Coordinate} :
    make latitude longitude = .ok c ↔
      c.InRange ∧ c.latitude = latitude ∧ c.longitude = longitude := by
  constructor
  · exact inRange_of_make
  · rintro ⟨⟨hlatitude, hlongitude⟩, rfl, rfl⟩
    simp [make, Validation.latitude, Validation.longitude, Validation.expect, hlatitude, hlongitude]

/-- The columns of a circle are filled or those of a polygon, and the values make one. -/
inductive ShapeColumns.Filled : ShapeColumns → Prop
  /-- The columns of a circle, with a center in range and a finite radius. -/
  | circle {latitude longitude radius : Float}
      (center : (⟨latitude, longitude⟩ : Coordinate).InRange)
      (finite : Binary64.isFinite radius = true) (nonneg : 0 ≤ radius) :
      Filled ⟨some latitude, some longitude, some radius, none⟩
  /-- The column of a polygon, with a geometry that passes the check. -/
  | polygon {geometry : Json} (checked : (Shape.polygon geometry).check = .ok ()) :
      Filled ⟨none, none, none, some geometry⟩

namespace Shape

variable {s s' : Shape} {c : ShapeColumns}

/-- A circle has its center on the map. -/
def Centered : Shape → Prop
  | .circle center _ => center.InRange
  | .polygon _ => True

/-- A shape that passes the check is left as it is. -/
theorem checked_eq_ok_iff : s.checked = .ok s' ↔ s' = s ∧ s.check = .ok () := by
  rw [checked, check]
  cases s.fault? <;> simp [eq_comm]

/-- A circle passes the check just when its radius is finite and not negative. -/
theorem check_circle_iff {center : Coordinate} {radius : Float} :
    (circle center radius).check = .ok () ↔ Binary64.isFinite radius = true ∧ 0 ≤ radius := by
  simp [check_eq_ok_iff, wellFormed, fault?]

/-- A shape that can be evaluated is read back from its columns. -/
theorem ofColumns_columns (hcentered : s.Centered) (hcheck : s.check = .ok ()) :
    ofColumns s.columns = .ok s := by
  cases s with
  | circle center radius =>
    have hmake : Coordinate.make center.latitude center.longitude = .ok center :=
      Coordinate.make_eq_ok_iff.2 ⟨hcentered, rfl, rfl⟩
    simp [columns, ofColumns, hmake, checked_eq_ok_iff, hcheck]
  | polygon geometry => simp [columns, ofColumns, checked_eq_ok_iff, hcheck]

/-- Columns make a shape exactly if they are the columns of the shape, the center of a circle is in
range and the shape can be evaluated. -/
theorem ofColumns_eq_ok_iff :
    ofColumns c = .ok s ↔ s.columns = c ∧ s.Centered ∧ s.check = .ok () := by
  constructor
  · intro h
    rw [ofColumns] at h
    obtain ⟨latitude, longitude, radius, polygon⟩ := c
    -- Of the patterns of filled columns two make a shape, and only if they pass the checks.
    split at h
    · split at h
      · cases h
      · rename_i center hcenter
        obtain ⟨rfl, hcheck⟩ := checked_eq_ok_iff.1 h
        obtain ⟨hrange, rfl, rfl⟩ := Coordinate.make_eq_ok_iff.1 hcenter
        simp_all [columns, Centered]
    · obtain ⟨rfl, hcheck⟩ := checked_eq_ok_iff.1 h
      simp_all [columns, Centered]
    · cases h
    · cases h
  · rintro ⟨rfl, hcentered, hcheck⟩
    exact ofColumns_columns hcentered hcheck

/-- Columns hold a shape just when they are filled for one. -/
theorem exists_ofColumns_iff : (∃ s, ofColumns c = .ok s) ↔ c.Filled := by
  constructor
  · rintro ⟨s, h⟩
    obtain ⟨rfl, hcentered, hcheck⟩ := ofColumns_eq_ok_iff.1 h
    cases s with
    | circle center radius =>
      obtain ⟨hfinite, hnonneg⟩ := check_circle_iff.1 hcheck
      exact .circle hcentered hfinite hnonneg
    | polygon geometry => exact .polygon hcheck
  · intro h
    cases h with
    | @circle latitude longitude radius hcenter hfinite hnonneg =>
      have hcheck : (circle ⟨latitude, longitude⟩ radius).check = .ok () :=
        check_circle_iff.2 ⟨hfinite, hnonneg⟩
      exact ⟨_, ofColumns_columns (s := .circle ⟨latitude, longitude⟩ radius) hcenter hcheck⟩
    | @polygon geometry hcheck =>
      exact ⟨_, ofColumns_columns (s := .polygon geometry) trivial hcheck⟩

end Shape

/-! ## Rows -/

/-- A text is read as the kind that is written so. -/
theorem AreaKind.parse?_eq_some_iff {text : String} {kind : AreaKind} :
    parse? text = some kind ↔ kind.text = text := by
  constructor
  · intro h
    simpa using List.find?_some h
  · rintro rfl
    exact parse?_text kind

namespace GeofenceRow

variable {r : GeofenceRow} {g : Geofence}

/-- The kind of a row is known, and its columns make a shape. -/
@[mk_iff]
structure Whole (r : GeofenceRow) : Prop where
  kind : ∃ kind : AreaKind, kind.text = r.kind
  shape : r.shape.Filled

/-- A row holds a geofence exactly if it is the row of the geofence, and its shape is such that it
can be read. -/
theorem geofence_eq_ok_iff :
    r.geofence = .ok g ↔ g.row = r ∧ g.shape.Centered ∧ g.shape.check = .ok () := by
  constructor
  · intro h
    rw [geofence] at h
    split at h
    · cases h
    · rename_i kind hkind
      split at h
      · cases h
      · rename_i shape hshape
        cases h
        -- Kind and shape are read from text and columns; all else is copied.
        obtain ⟨hcolumns, hkept⟩ := Shape.ofColumns_eq_ok_iff.1 hshape
        refine ⟨?_, hkept⟩
        simp [Geofence.row, AreaKind.parse?_eq_some_iff.1 hkind, hcolumns]
  · rintro ⟨rfl, hkept⟩
    have hshape : Shape.ofColumns g.shape.columns = .ok g.shape :=
      Shape.ofColumns_eq_ok_iff.2 ⟨rfl, hkept⟩
    simp [geofence, Geofence.row, hshape]

/-- A row holds a geofence just when it is whole. -/
theorem exists_geofence_iff : (∃ g, r.geofence = .ok g) ↔ r.Whole := by
  constructor
  · rintro ⟨g, h⟩
    obtain ⟨rfl, hkept⟩ := geofence_eq_ok_iff.1 h
    exact ⟨⟨g.kind, rfl⟩, Shape.exists_ofColumns_iff.1
      ⟨g.shape, Shape.ofColumns_eq_ok_iff.2 ⟨rfl, hkept⟩⟩⟩
  · rintro ⟨⟨kind, hkind⟩, hfilled⟩
    obtain ⟨s, hs⟩ := Shape.exists_ofColumns_iff.2 hfilled
    exact ⟨_, by rw [geofence, AreaKind.parse?_eq_some_iff.2 hkind, hs]⟩

instance : DecidablePred Whole := fun r =>
  decidable_of_iff (r.geofence.isOk = true) <| by
    rw [← exists_geofence_iff]
    cases r.geofence <;> simp [Except.isOk, Except.toBool]

/-- The geofences of some rows are those of the whole ones among them, one by one. -/
theorem forall₂_geofences (rows : List GeofenceRow) :
    List.Forall₂ (fun r g => r.geofence = .ok g) (rows.filter fun r => r.Whole)
      (geofences rows) := by
  induction rows with
  | nil => exact .nil
  | cons r rest ih =>
    -- A row that holds no geofence drops out of both lists.
    cases h : r.geofence with
    | ok g =>
      have hwhole : r.Whole := exists_geofence_iff.1 ⟨g, h⟩
      rw [List.filter_cons_of_pos (by simpa using hwhole), geofences, List.filterMap_cons, h]
      exact .cons h ih
    | error e =>
      have hbroken : ¬r.Whole := by
        rw [← exists_geofence_iff, h]
        rintro ⟨g, hg⟩
        cases hg
      rw [List.filter_cons_of_neg (by simpa using hbroken), geofences, List.filterMap_cons, h]
      exact ih

/-- A geofence whose shape has its center on the map and can be evaluated is read back from its row.
A row holds a geofence exactly if its kind is known and its columns are filled as those of a circle
or of a polygon; the row is then the one of that geofence. Of a list of rows, exactly those that
hold a geofence are read, in their order. -/
theorem conversion :
    (∀ g : Geofence, g.shape.Centered → g.shape.check = .ok () → g.row.geofence = .ok g) ∧
    (∀ r : GeofenceRow,
      ((∃ g, r.geofence = .ok g) ↔ (∃ kind : AreaKind, kind.text = r.kind) ∧ r.shape.Filled) ∧
      ∀ g, r.geofence = .ok g → g.kind.text = r.kind ∧ g.shape.columns = r.shape ∧ g.row = r) ∧
    ∀ rows : List GeofenceRow, List.Forall₂ (fun r g => r.geofence = .ok g)
      (rows.filter fun r => r.Whole) (geofences rows) := by
  refine ⟨fun g hcentered hcheck => ?_, fun r => ⟨?_, fun g h => ?_⟩, forall₂_geofences⟩
  · exact geofence_eq_ok_iff.2 ⟨rfl, hcentered, hcheck⟩
  · rw [exists_geofence_iff, whole_iff]
  · obtain ⟨rfl, -⟩ := geofence_eq_ok_iff.1 h
    exact ⟨rfl, rfl, rfl⟩

end GeofenceRow

end Geofencing

namespace Geofencing.Campus

/-- The garden around the fountain. -/
def garden : Geofence :=
  { grounds with name := "Garden", kind := .playground, shape := .circle ⟨24.7136, 46.6753⟩ 500.0 }

/-- The row of an area of no known kind. -/
def moonBase : GeofenceRow :=
  { garden.row with kind := "MOON_BASE" }

/-- The row of a garden with a fence. -/
def fencedGarden : GeofenceRow :=
  { garden.row with shape := { garden.row.shape with polygon := grounds.row.shape.polygon } }

end Geofencing.Campus

namespace Geofencing.GeofenceRow

open Campus

/-- The garden is read back from its row; the moon base and the garden with a fence are passed
over. -/
theorem conversion_campus :
    garden.row.geofence = .ok garden ∧ ¬moonBase.Whole ∧ ¬fencedGarden.Whole ∧
    geofences [moonBase, garden.row, fencedGarden] = [garden] := by
  have hcentered : garden.shape.Centered := by
    unfold garden Shape.Centered Coordinate.InRange
    decide +kernel
  have hcheck : garden.shape.check = .ok () := by decide +kernel
  have hgarden := conversion.1 garden hcentered hcheck
  have hmoon : ¬moonBase.Whole := by decide +kernel
  have hfenced : ¬fencedGarden.Whole := by decide +kernel
  have hread := conversion.2.2 [moonBase, garden.row, fencedGarden]
  have hwhole : garden.row.Whole := exists_geofence_iff.1 ⟨garden, hgarden⟩
  simp only [List.filter_cons, hmoon, hwhole, hfenced, decide_true, decide_false] at hread
  refine ⟨hgarden, hmoon, hfenced, ?_⟩
  generalize geofences [moonBase, garden.row, fencedGarden] = found at hread
  cases hread with
  | cons hfirst hrest =>
    cases hrest
    rw [Except.ok.inj (hgarden.symm.trans hfirst)]

end Geofencing.GeofenceRow
