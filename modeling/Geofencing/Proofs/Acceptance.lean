import Geofencing.Proofs.Description
import Geofencing.Proofs.Evaluation
import Geofencing.Proofs.Soundness
import Geofencing.Proofs.Spelling

/-!
# Accepted polygons and answers about them

Two readers look at the geometry of a geofence. The check of its shape looks at the type and at
whether there are any coordinates; the spatial engine reads the coordinates to the last number and
needs something to measure a distance to.

* `exists_planar_iff`: when the engine answers a question about polygons that it can read.
* `check_of_planar`: a geometry about which the engine answers passes the check.
* `planar_accepted`: of the geometries that pass, the engine answers about those that describe
  polygons, if the coordinate lies in one of them or some ring has an edge with a length.
* `accepted_unanswerable`: so there are some that pass and about which it never answers.
-/

namespace Geofencing.Geo

/-- A polygon holds the coordinate, or there is an edge with a length to measure a distance to. -/
def Answerable (c : Coordinate) (rings : List (List (List Position))) : Prop :=
  (∃ r ∈ rings, (Polygon.ofRings r).covers (position c) = true) ∨
    ∃ r ∈ rings, ∃ vs ∈ r, ¬Flat (edges (close Position.same vs))

section Engine

variable {c : Coordinate} {geometry : Json} {rings : List (List (List Position))}

theorem not_answerable_iff :
    ¬Answerable c rings ↔ nearestOn (position c) (rings.map Polygon.ofRings) = .nowhere := by
  rw [nearestOn_eq_nowhere_iff, List.forall_mem_map]
  simp only [flat_rings_iff, Answerable, not_or, not_exists, not_and, not_not, Bool.not_eq_true]
  exact ⟨fun ⟨hcovers, hflat⟩ r hr => ⟨hcovers r hr, hflat r hr⟩,
    fun h => ⟨fun r hr => (h r hr).1, fun r hr => (h r hr).2⟩⟩

theorem answerable_of_holds (h : holds c (rings.map Polygon.ofRings) = true) :
    Answerable c rings := by
  unfold holds at h
  cases hc : (position c).point? with
  | none => simp [hc] at h
  | some p =>
    rw [hc] at h
    obtain ⟨-, g, hg, hholds⟩ := unionHolds_iff.1 h
    obtain ⟨_, hmem, rfl⟩ := List.mem_map.1 hg
    obtain ⟨r, hr, rfl⟩ := List.mem_map.1 hmem
    refine .inl ⟨r, hr, ?_⟩
    rw [Polygon.covers, hc]
    exact hholds

theorem planar_of_not_answerable (h : Describes geometry rings) (hnot : ¬Answerable c rings) :
    planar c geometry = .error .noClosestPoint := by
  have hholds : holds c (rings.map Polygon.ofRings) = false :=
    Bool.eq_false_iff.2 (mt answerable_of_holds hnot)
  simp [planar, polygons_of_parse (parse?_eq_polygons_iff.2 h), hholds, not_answerable_iff.1 hnot,
    Nearest.position?]

/-- The engine answers about polygons that it can read if there is an answer. -/
theorem exists_planar_iff (h : Describes geometry rings) :
    (∃ m, planar c geometry = .ok m) ↔ Answerable c rings := by
  constructor
  · rintro ⟨m, hm⟩
    by_contra hnot
    rw [planar_of_not_answerable h hnot] at hm
    cases hm
  · intro hanswerable
    have hsomewhere := mt not_answerable_iff.2 (not_not.2 hanswerable)
    -- the answer to whether it is inside is known if the search for an edge comes to something
    have hinside := map_inside_planar (c := c) (parse?_eq_polygons_iff.2 h)
    rw [if_neg hsomewhere] at hinside
    cases hplanar : planar c geometry with
    | ok m => exact ⟨m, rfl⟩
    | error f =>
      rw [hplanar] at hinside
      split at hinside <;> cases hinside

/-- What the engine answers about describes polygons. -/
theorem exists_describes_of_planar {m : Membership} (h : planar c geometry = .ok m) :
    ∃ rings, Describes geometry rings := by
  unfold planar polygons at h
  cases hparse : GeoJson.parse? geometry with
  | none => simp [hparse] at h
  | some g =>
    cases g with
    | other => simp [hparse] at h
    | polygons rings => exact ⟨rings, parse?_eq_polygons_iff.1 hparse⟩

theorem planar_of_not_describes (htype : geometry.get? "type" = some (.str "Polygon") ∨
    geometry.get? "type" = some (.str "MultiPolygon")) (h : ∀ rings, ¬Describes geometry rings) :
    planar c geometry = .error .invalidGeometry := by
  rw [planar, polygons, parse?_eq_none_of_typed htype h]

/-- A polygon without an exterior holds nothing. -/
theorem covers_of_exterior_nil (holes : List (List Position)) (p : Position) :
    (⟨[], holes⟩ : Polygon Position).covers p = false := by
  unfold Polygon.covers
  cases p.point? <;> rfl

/-- Where there are no coordinates there is no answer. -/
theorem withinLimits_of_answerable (h : Describes geometry rings)
    (hanswerable : Answerable c rings) : (Shape.polygon geometry).WithinLimits := by
  cases h with
  | @polygon coordinates r _ htyped hr =>
    obtain ⟨items, rfl, hr⟩ := hr
    refine ⟨.inl htyped.type, items, htyped.coordinates, ?_⟩
    rintro rfl
    -- a polygon without rings has neither an inside nor an edge
    obtain rfl := List.forall₂_nil_left_iff.1 hr
    simp [Answerable, Polygon.ofRings, covers_of_exterior_nil] at hanswerable
  | multiPolygon _ htyped hrings =>
    obtain ⟨items, rfl, hrings⟩ := hrings
    refine ⟨.inr htyped.type, items, htyped.coordinates, ?_⟩
    rintro rfl
    -- without polygons there are no rings either
    obtain rfl := List.forall₂_nil_left_iff.1 hrings
    simp [Answerable] at hanswerable

end Engine

/-! ## What the check of a shape lets pass -/

section Check

variable {c : Coordinate} {geometry : Json} {s : Shape}

theorem check_of_withinLimits (h : (Shape.polygon geometry).WithinLimits) :
    (Shape.polygon geometry).check = .ok () := by
  obtain ⟨htype, items, hitems, hne⟩ := h
  obtain ⟨item, rest, rfl⟩ := List.exists_cons_of_ne_nil hne
  have htype' : (geometry.get? "type").bind Json.str? = some "Polygon" ∨
      (geometry.get? "type").bind Json.str? = some "MultiPolygon" :=
    htype.imp (fun h => by rw [h]; rfl) fun h => by rw [h]; rfl
  have hnone : Validation.polygon geometry = none := by
    simp [Validation.polygon, htype', hitems, Json.items?]
  rw [Shape.check_eq_ok_iff, Shape.wellFormed, Shape.fault?, hnone]
  rfl

/-- A polygon shape that is accepted has the geometry that was sent, within limits. -/
theorem withinLimits_of_accepted
    (h : Shape.ofColumns ⟨none, none, none, some geometry⟩ = .ok s) :
    s = .polygon geometry ∧ (Shape.polygon geometry).WithinLimits := by
  obtain ⟨rfl, hfault⟩ := Shape.eq_of_checked (s := .polygon geometry) h
  exact ⟨rfl, Validation.withinLimits_of_polygon (Option.map_eq_none_iff.1 hfault)⟩

/-- A geometry about which the engine answers, at whatever coordinate, passes the check of shapes.
So an active geofence of that shape is never passed over: wherever and with whatever engine a
location is evaluated, something is found about it. -/
theorem check_of_planar {m : Membership} (h : planar c geometry = .ok m) :
    (Shape.polygon geometry).check = .ok () ∧
    ∀ (engine : Engine) (location : Coordinate) (geofences : List Geofence),
      ∀ g ∈ geofences, g.active = true → g.shape = .polygon geometry →
      ∃ f ∈ Membership.evaluate engine g.tenant location geofences,
        f.Measures engine location g := by
  obtain ⟨rings, hdescribes⟩ := exists_describes_of_planar h
  have hanswerable := (exists_planar_iff hdescribes).1 ⟨m, h⟩
  -- what can be answered has coordinates, and more than that is not checked
  have hcheck := check_of_withinLimits (withinLimits_of_answerable hdescribes hanswerable)
  refine ⟨hcheck, fun engine location geofences g hg hactive hshape => ?_⟩
  have hevaluable : Membership.evaluable g.tenant g = true :=
    Membership.evaluable_iff.2 ⟨rfl, hactive, hshape ▸ hcheck⟩
  refine ⟨_, ?_, Membership.measures_finding engine location g⟩
  rw [Membership.evaluate_eq_map]
  exact List.mem_map_of_mem (List.mem_filter.2 ⟨hg, hevaluable⟩)

end Check

end Geofencing.Geo

namespace Geofencing.Campus

/-- The courtyard as an area of the school. -/
def playground : Geofence :=
  { grounds with shape := .polygon courtyard }

end Geofencing.Campus

namespace Geofencing.Geo

open Campus

/-- The engine knows the middle of the southern fence, so the playground is never passed over, not
even by an engine that is out of service. -/
theorem check_of_planar_campus :
    planar ⟨0.0, 2.0⟩ courtyard = .ok ⟨true, 0.0⟩ ∧
    (Shape.polygon courtyard).check = .ok () ∧
    ∃ f ∈ Membership.evaluate outOfService school ⟨9.0, 9.0⟩ [grounds, playground],
      f.Measures outOfService ⟨9.0, 9.0⟩ playground := by
  have hanswer : planar ⟨0.0, 2.0⟩ courtyard = .ok ⟨true, 0.0⟩ := by decide +kernel
  obtain ⟨hcheck, hfound⟩ := check_of_planar hanswer
  exact ⟨hanswer, hcheck, hfound _ _ _ playground (by simp) rfl rfl⟩

section Accepted

variable {geometry : Json} {s : Shape}

/-- The engine answers about an accepted geometry exactly if the geometry describes polygons, to the
last number, and if one of them holds the coordinate or some ring has an edge with a length. It
fails on an accepted geometry that cannot be read at every coordinate, and on one without an edge at
every coordinate that is not in it. An active geofence of that shape is evaluated by its answer. -/
theorem planar_accepted (h : Shape.ofColumns ⟨none, none, none, some geometry⟩ = .ok s)
    (c : Coordinate) :
    ((∃ m, planar c geometry = .ok m) ↔ ∃ rings, Describes geometry rings ∧ Answerable c rings) ∧
    ((∀ rings, ¬Describes geometry rings) → planar c geometry = .error .invalidGeometry) ∧
    (∀ rings, Describes geometry rings → ¬Answerable c rings →
      planar c geometry = .error .noClosestPoint) ∧
    ∀ g : Geofence, g.active = true → g.shape = s →
      ∃ f, Membership.evaluate planar g.tenant c [g] = [f] ∧ f.Measures planar c g := by
  obtain ⟨rfl, hwithin⟩ := withinLimits_of_accepted h
  refine ⟨⟨?_, ?_⟩, planar_of_not_describes hwithin.1, fun _ => planar_of_not_answerable, ?_⟩
  · -- An answer is about the polygons that the geometry describes.
    rintro ⟨m, hm⟩
    obtain ⟨rings, hdescribes⟩ := exists_describes_of_planar hm
    exact ⟨rings, hdescribes, (exists_planar_iff hdescribes).1 ⟨m, hm⟩⟩
  · rintro ⟨rings, hdescribes, hanswerable⟩
    exact (exists_planar_iff hdescribes).2 hanswerable
  · intro g hactive hshape
    have hevaluable : Membership.evaluable g.tenant g = true :=
      Membership.evaluable_iff.2 ⟨rfl, hactive, hshape ▸ check_of_withinLimits hwithin⟩
    exact ⟨_, Membership.evaluate_singleton planar c hevaluable,
      Membership.measures_finding planar c g⟩

end Accepted

end Geofencing.Geo

namespace Geofencing.Campus

/-- A fence with a single corner, and no edge. -/
def flagpole : Json :=
  fenced [(3, 4)]

/-- A fence without corners. -/
def hollow : Json :=
  fenced []

/-- A fence with a name for a ring. -/
def scribbled : Json :=
  .object [("type", .str "Polygon"), ("coordinates", .arr [.str "around the pond"])]

end Geofencing.Campus

namespace Geofencing.Geo

open Campus

/-- A geofence around the courtyard is accepted, and the engine answers wherever it is asked. -/
theorem planar_accepted_campus :
    Shape.ofColumns ⟨none, none, none, some courtyard⟩ = .ok (.polygon courtyard) ∧
    ∀ c, ∃ m, planar c courtyard = .ok m := by
  have haccepted : Shape.ofColumns ⟨none, none, none, some courtyard⟩ = .ok (.polygon courtyard) :=
    rfl
  have hdescribes : Describes courtyard
      [[[corner 0 0, corner 4 0, corner 4 4, corner 0 4, corner 0 0]]] :=
    parse?_eq_polygons_iff.1 (by decide +kernel)
  have hedge : ¬Flat (edges (close Position.same
      [corner 0 0, corner 4 0, corner 4 4, corner 0 4, corner 0 0])) := by
    intro hflat
    have hsouth := hflat (corner 0 0, corner 4 0) (by decide +kernel)
    exact absurd hsouth (by decide +kernel)
  refine ⟨haccepted, fun c => ((planar_accepted haccepted c).1).2 ⟨_, hdescribes, ?_⟩⟩
  exact .inr ⟨_, List.mem_singleton_self _, _, List.mem_singleton_self _, hedge⟩

/-- A flagpole, a fence without corners and one that is no ring are accepted too. The engine does
not answer about the flagpole from afar, and about the others it answers nowhere. -/
theorem accepted_unanswerable :
    (Shape.ofColumns ⟨none, none, none, some flagpole⟩ = .ok (.polygon flagpole) ∧
      Coordinate.make 0.0 2.0 = .ok ⟨0.0, 2.0⟩ ∧
      planar ⟨0.0, 2.0⟩ flagpole = .error .noClosestPoint) ∧
    (Shape.ofColumns ⟨none, none, none, some hollow⟩ = .ok (.polygon hollow) ∧
      ∀ c, planar c hollow = .error .noClosestPoint) ∧
    (Shape.ofColumns ⟨none, none, none, some scribbled⟩ = .ok (.polygon scribbled) ∧
      ∀ c, planar c scribbled = .error .invalidGeometry) := by
  refine ⟨⟨rfl, by decide +kernel, by decide +kernel⟩, ⟨rfl, fun c => ?_⟩, ⟨rfl, fun c => ?_⟩⟩
  · have hdescribes : Describes hollow [[[]]] := parse?_eq_polygons_iff.1 (by decide +kernel)
    refine planar_of_not_answerable hdescribes ?_
    simp [Answerable, Polygon.ofRings, close, covers_of_exterior_nil, Flat, edges]
  · have hparse : GeoJson.parse? scribbled = none := by decide +kernel
    rw [planar, polygons, hparse]

end Geofencing.Geo
