import Geofencing.Proofs.Description
import Geofencing.Proofs.Shown
import Geofencing.Proofs.Spelling

/-!
# Unions of polygons

A coordinate off the box around all exterior rings is not looked at any further. Nothing is lost by
that, since no ring winds around a point off the box around its vertices. To the north, the south
and the east of them no edge counts. To the west every edge counts that passes the height of the
point, upward edges against downward ones, and a ring returns to the height at which it starts.

* `wind_of_not_spans`: a ring does not wind around a point off its box.
* `side_of_not_spans`: so neither does a polygon hold the point.
* `union_of_polygons`: the box is no more than a shortcut, and what the engine finds inside of
  several polygons is what it finds inside of one of them.
-/

namespace Geofencing.Geo

/-! ## A point off the box around a ring -/

section Ring

variable {p a b : Point} {vs : List Point}

/-- The turn is a combination of how far the ends of the edge lie to the east of the point. -/
theorem orientation_eq (a b p : Point) :
    orientation a b p = (p.y - a.y) * (b.x - p.x) + (b.y - p.y) * (a.x - p.x) := by
  unfold orientation
  ring

/-- Whether a vertex lies no higher than a point, as a number. -/
def below (p v : Point) : Int :=
  if v.y ≤ p.y then 1 else 0

/-- For a point to the west of an edge, only the heights of its ends matter. -/
theorem amount_crossing_of_west (ha : p.x < a.x) (hb : p.x < b.x) :
    (crossing orientation p a b).amount = below p a - below p b := by
  rw [amount_crossing, orientation_eq, below, below]
  by_cases hay : a.y ≤ p.y
  · by_cases hby : b.y ≤ p.y
    · rw [if_neg (by omega), if_neg (by omega), if_pos hay, if_pos hby]
      rfl
    · -- the edge goes up, and the point is to the left of it
      have hturn : 0 < (p.y - a.y) * (b.x - p.x) + (b.y - p.y) * (a.x - p.x) := by
        nlinarith
      rw [if_pos ⟨hay, by omega, hturn⟩, if_pos hay, if_neg hby]
      rfl
  · by_cases hby : b.y ≤ p.y
    · -- the edge goes down, and the point is to the right of it
      have hturn : (p.y - a.y) * (b.x - p.x) + (b.y - p.y) * (a.x - p.x) < 0 := by
        nlinarith
      rw [if_neg (by omega), if_pos ⟨hby, by omega, hturn⟩, if_neg hay, if_pos hby]
      rfl
    · rw [if_neg (by omega), if_neg (by omega), if_neg hay, if_neg hby]
      rfl

/-- No edge counts for a point to the east of it. -/
theorem amount_crossing_of_east (ha : a.x < p.x) (hb : b.x < p.x) :
    (crossing orientation p a b).amount = 0 := by
  rw [amount_crossing, orientation_eq, if_neg, if_neg]
  · rintro ⟨hby, hay, hturn⟩
    nlinarith
  · rintro ⟨hay, hby, hturn⟩
    nlinarith

/-- No edge counts for a point above or below it. -/
theorem amount_crossing_of_level (h : (a.y < p.y ∧ b.y < p.y) ∨ (p.y < a.y ∧ p.y < b.y)) :
    (crossing orientation p a b).amount = 0 := by
  rw [amount_crossing, if_neg (by omega), if_neg (by omega)]

/-- Along a ring, whatever is gained is lost again. -/
theorem sum_cycle {α : Type} (f : α → Int) (vs : List α) :
    ((cycle vs).map fun e => f e.1 - f e.2).sum = 0 := by
  have hstarts : (cycle vs).map Prod.fst = vs := List.map_fst_zip (by simp)
  have hends : (cycle vs).map Prod.snd = vs.rotate 1 := List.map_snd_zip (by simp)
  -- each vertex starts one edge and ends one
  have hsame : ((cycle vs).map fun e => f e.2).sum = ((cycle vs).map fun e => f e.1).sum := by
    calc ((cycle vs).map fun e => f e.2).sum
        = (((cycle vs).map Prod.snd).map f).sum := by rw [List.map_map]; rfl
      _ = (vs.map f).sum := by rw [hends, ((vs.rotate_perm 1).map f).sum_eq]
      _ = (((cycle vs).map Prod.fst).map f).sum := by rw [hstarts]
      _ = ((cycle vs).map fun e => f e.1).sum := by rw [List.map_map]; rfl
  have hadd := List.sum_map_add (l := cycle vs) (f := fun e => f e.1 - f e.2) (g := fun e => f e.2)
  simp only [Int.sub_add_cancel] at hadd
  omega

/-- A point is off the box around vertices if all of them lie to one side of it. -/
theorem not_spans_iff : ¬Spans vs p ↔
    ((∀ q ∈ vs, p.x < q.x) ∨ ∀ q ∈ vs, q.x < p.x) ∨
      (∀ q ∈ vs, p.y < q.y) ∨ ∀ q ∈ vs, q.y < p.y := by
  rw [Spans, not_and_or, not_and_or, not_and_or]
  simp only [not_exists, not_and, not_le]

/-- A ring does not turn around a point off the box around it. -/
theorem winding_of_not_spans (h : ¬Spans vs p) : winding p (cycle vs) = 0 := by
  have hmem : ∀ e ∈ cycle vs, e.1 ∈ vs ∧ e.2 ∈ vs := by
    intro e he
    obtain ⟨hfirst, hsecond⟩ := List.of_mem_zip he
    exact ⟨hfirst, List.mem_rotate.1 hsecond⟩
  -- unless the point lies to the west of the ring, no edge counts at all
  have hzero (hamount : ∀ e ∈ cycle vs, (crossing orientation p e.1 e.2).amount = 0) :
      winding p (cycle vs) = 0 := by
    rw [winding, List.map_congr_left hamount]
    simp
  obtain (hwest | heast) | hsouth | hnorth := not_spans_iff.1 h
  · have hamount : ∀ e ∈ cycle vs,
        (crossing orientation p e.1 e.2).amount = below p e.1 - below p e.2 :=
      fun e he => amount_crossing_of_west (hwest _ (hmem e he).1) (hwest _ (hmem e he).2)
    rw [winding, List.map_congr_left hamount, sum_cycle]
  · exact hzero fun e he => amount_crossing_of_east
      (heast _ (hmem e he).1) (heast _ (hmem e he).2)
  · exact hzero fun e he => amount_crossing_of_level
      (.inr ⟨hsouth _ (hmem e he).1, hsouth _ (hmem e he).2⟩)
  · exact hzero fun e he => amount_crossing_of_level
      (.inl ⟨hnorth _ (hmem e he).1, hnorth _ (hmem e he).2⟩)

theorem touched_of_not_spans (h : ¬Spans vs p) : touched p (cycle vs) = false := by
  rw [touched, List.any_eq_false]
  intro e he hon
  obtain ⟨hfirst, hsecond⟩ := List.of_mem_zip he
  exact h (spans_of_onEdge hfirst (List.mem_rotate.1 hsecond) hon)

/-- A point off the box around a ring is outside of the ring. -/
theorem wind_of_not_spans (h : ¬Spans vs p) : wind orientation p 0 (cycle vs) = .outside := by
  rw [wind_cycle, touched_of_not_spans h, winding_of_not_spans h]
  rfl

end Ring

/-! ## A point off the box around polygons -/

section Polygon

variable {p : Point} {r : List (List Position)}

/-- A polygon does not hold a point off the box around its exterior. -/
theorem side_of_not_spans (hfinite : ∀ vs ∈ r, ∀ v ∈ vs, v.point?.isSome = true)
    (hexact : ∀ vs ∈ r, ExactAt p (points vs))
    (h : ¬Spans (Polygon.ofRings r).exact.exterior p) :
    (Polygon.ofRings r).exact.side measuredTurn p = .outside := by
  cases r with
  | nil => rfl
  | cons exterior holes =>
    have hspans : ¬Spans (points exterior) p := by
      rwa [← spans_congr fun q => mem_points_close]
    have houtside : ringSide measuredTurn p (points (close Position.same exterior)) = .outside := by
      rw [ringSide_close (hfinite _ List.mem_cons_self) (hexact _ List.mem_cons_self)]
      exact wind_of_not_spans hspans
    exact side_of_outside houtside

end Polygon

/-! ## Inside of several polygons -/

/-- The engine finds a coordinate inside of a geometry. -/
def FoundInside (c : Coordinate) (geometry : Json) : Prop :=
  ∃ m, planar c geometry = .ok m ∧ m.inside = true

/-- A polygon with given coordinates. -/
def GeoJson.polygon (coordinates : Json) : Json :=
  .object [("type", .str "Polygon"), ("coordinates", coordinates)]

section Engine

variable {c : Coordinate} {geometry : Json} {rings : List (List (List Position))}

theorem foundInside_iff (h : Describes geometry rings) :
    FoundInside c geometry ↔ holds c (rings.map Polygon.ofRings) = true := by
  -- The engine looks for the nearest point only if no polygon holds the coordinate.
  have hinside := map_inside_planar (c := c) (parse?_eq_polygons_iff.2 h)
  constructor
  · rintro ⟨m, hm, hm'⟩
    rw [hm, Except.map, hm'] at hinside
    by_contra hholds
    rw [if_neg hholds] at hinside
    split at hinside <;> cases hinside
  · intro hholds
    rw [if_pos hholds] at hinside
    cases hplanar : planar c geometry with
    | error f => rw [hplanar] at hinside; cases hinside
    | ok m =>
      rw [hplanar] at hinside
      exact ⟨m, hplanar, Except.ok.inj hinside⟩

/-- A coordinate is held by several polygons if one of them holds it. -/
theorem holds_map_iff (hfinite : ∀ r ∈ rings, ∀ vs ∈ r, ∀ v ∈ vs, v.point?.isSome = true)
    (hexact : ∀ p, (position c).point? = some p → ∀ r ∈ rings, ∀ vs ∈ r, ExactAt p (points vs)) :
    holds c (rings.map Polygon.ofRings) = true ↔
      ∃ r ∈ rings, holds c [Polygon.ofRings r] = true := by
  unfold holds
  cases hc : (position c).point? with
  | none => simp
  | some p =>
    simp only [unionHolds_iff, List.map_map, List.flatMap_map, List.map_cons, List.map_nil,
      List.flatMap_cons, List.flatMap_nil, List.append_nil, List.mem_singleton, exists_eq_left,
      List.mem_map, exists_exists_and_eq_and, Function.comp_apply]
    constructor
    · rintro ⟨-, r, hr, hholds⟩
      refine ⟨r, hr, ?_, hholds⟩
      -- A polygon that holds the point reaches around it, so the point is in its box.
      by_contra hspans
      have hside := side_of_not_spans (hfinite r hr) (hexact p hc r hr) hspans
      simp [Polygon.holds, hside] at hholds
    · rintro ⟨r, hr, hspans, hholds⟩
      refine ⟨hspans.mono fun q hq => ?_, r, hr, hholds⟩
      exact List.mem_flatMap.2 ⟨r, hr, hq⟩

end Engine

/-! ## A polygon by itself -/

section Single

variable {c : Coordinate} {geometry single several coordinates : Json}
  {rings : List (List (List Position))}

theorem typed_polygon (coordinates : Json) :
    Typed (GeoJson.polygon coordinates) "Polygon" coordinates :=
  ⟨Json.get?_object _, Json.get?_object _⟩

theorem boxed_polygon (coordinates : Json) : Boxed (GeoJson.polygon coordinates) := by
  intro box hbox
  rw [GeoJson.polygon, Json.get?_object] at hbox
  cases hbox

theorem Typed.unique {type type' : String} {coordinates' : Json}
    (h : Typed geometry type coordinates) (h' : Typed geometry type' coordinates') :
    type = type' ∧ coordinates = coordinates' := by
  refine ⟨?_, Option.some_inj.1 (h.coordinates.symm.trans h'.coordinates)⟩
  exact Json.str.inj (Option.some_inj.1 (h.type.symm.trans h'.type))

/-- Several polygons are described by an item for each of them. -/
theorem Describes.members {members : List Json} (h : Describes geometry rings)
    (htyped : Typed geometry "MultiPolygon" (.arr members)) :
    List.Forall₂ IsRings members rings := by
  cases h with
  | polygon _ htyped' _ => exact absurd (htyped'.unique htyped).1 (by decide)
  | multiPolygon _ htyped' h =>
    obtain ⟨-, rfl⟩ := htyped'.unique htyped
    obtain ⟨items, hitems, h⟩ := h
    exact Json.arr.inj hitems ▸ h

theorem describes_single_iff (hsingle : Typed single "Polygon" coordinates)
    (hseveral : Typed several "MultiPolygon" (.arr [coordinates]))
    (hbox : single.get? "bbox" = several.get? "bbox") :
    Describes single rings ↔ Describes several rings := by
  have hboxed : Boxed single ↔ Boxed several := by
    rw [Boxed, Boxed, hbox]
  constructor
  · rintro (⟨hboxed', htyped, h⟩ | ⟨-, htyped, -⟩)
    · obtain ⟨-, rfl⟩ := hsingle.unique htyped
      exact .multiPolygon (hboxed.1 hboxed') hseveral ⟨_, rfl, .cons h .nil⟩
    · exact absurd (hsingle.unique htyped).1 (by decide)
  · intro h
    obtain ⟨r, _, hr, hnil, rfl⟩ := List.forall₂_cons_left_iff.1 (h.members hseveral)
    obtain rfl := List.forall₂_nil_left_iff.1 hnil
    cases h with
    | polygon _ htyped _ => exact absurd (hseveral.unique htyped).1 (by decide)
    | multiPolygon hboxed' _ _ => exact .polygon (hboxed.2 hboxed') hsingle hr

/-- A polygon and the only one of several are the same to the engine, whether they can be read or
not. -/
theorem planar_single (hsingle : Typed single "Polygon" coordinates)
    (hseveral : Typed several "MultiPolygon" (.arr [coordinates]))
    (hbox : single.get? "bbox" = several.get? "bbox") (c : Coordinate) :
    planar c single = planar c several := by
  have hiff {rings} : Describes single rings ↔ Describes several rings :=
    describes_single_iff hsingle hseveral hbox
  have hparse : GeoJson.parse? single = GeoJson.parse? several := by
    by_cases h : ∃ rings, Describes single rings
    · obtain ⟨rings, h⟩ := h
      rw [parse?_eq_polygons_iff.2 h, parse?_eq_polygons_iff.2 (hiff.1 h)]
    · rw [not_exists] at h
      rw [parse?_eq_none_of_typed (.inl hsingle.type) h,
        parse?_eq_none_of_typed (.inr hseveral.type) fun rings hrings => h rings (hiff.2 hrings)]
  rw [planar, planar, polygons, polygons, hparse]

end Single

/-- Several polygons are a union, and the box around them is no more than a shortcut. A coordinate
off the box around all exterior rings is outside of every polygon by the winding numbers alone. The
engine finds a coordinate inside of several polygons if it finds it inside of one of them, taken by
itself. This holds of finite positions, for which the turns around the coordinate have their exact
signs. Of a single polygon, the engine says the same whether it is written down by itself or as the
only one of several. -/
theorem union_of_polygons :
    (∀ (geometry : Json) (members : List Json) (rings : List (List (List Position))),
      Typed geometry "MultiPolygon" (.arr members) → Describes geometry rings →
      (∀ v ∈ rings.flatten.flatten, v.point?.isSome = true) → ∀ c : Coordinate,
      (∀ p, (position c).point? = some p → ExactAt p (points rings.flatten.flatten)) →
      let gs := (rings.map Polygon.ofRings).map Polygon.exact
      (∀ p, (position c).point? = some p →
        (Box.around (gs.flatMap Polygon.exterior)).any (fun box => box.holds p) = false →
        ∀ g ∈ gs, g.side measuredTurn p = .outside) ∧
      (FoundInside c geometry ↔ ∃ member ∈ members, FoundInside c (GeoJson.polygon member))) ∧
    ∀ (single several coordinates : Json), Typed single "Polygon" coordinates →
      Typed several "MultiPolygon" (.arr [coordinates]) →
      single.get? "bbox" = several.get? "bbox" →
      ∀ c, planar c single = planar c several := by
  refine ⟨?_, fun _ _ _ hsingle hseveral hbox c => planar_single hsingle hseveral hbox c⟩
  intro geometry members rings htyped hdescribes hfinite c hexact gs
  have hvertex : ∀ r ∈ rings, ∀ vs ∈ r, ∀ v ∈ vs, v ∈ rings.flatten.flatten := by
    intro r hr vs hvs v hv
    exact List.mem_flatten_of_mem (List.mem_flatten_of_mem hr hvs) hv
  have hfinite' : ∀ r ∈ rings, ∀ vs ∈ r, ∀ v ∈ vs, v.point?.isSome = true :=
    fun r hr vs hvs v hv => hfinite v (hvertex r hr vs hvs v hv)
  have hexact' : ∀ p, (position c).point? = some p → ∀ r ∈ rings, ∀ vs ∈ r,
      ExactAt p (points vs) := by
    intro p hc r hr vs hvs
    exact (hexact p hc).mono (List.filterMap_subset _ (hvertex r hr vs hvs))
  constructor
  · intro p hc hoff g hg
    obtain ⟨_, ⟨r, hr, rfl⟩, rfl⟩ : ∃ g', (∃ r ∈ rings, Polygon.ofRings r = g') ∧ g'.exact = g := by
      simpa [gs] using hg
    refine side_of_not_spans (hfinite' r hr) (hexact' p hc r hr) fun hspans => ?_
    -- the box around one exterior is part of the box around all
    have hall : Spans (gs.flatMap Polygon.exterior) p :=
      hspans.mono fun q hq => List.mem_flatMap.2 ⟨_, hg, hq⟩
    rw [holds_around_iff.2 hall] at hoff
    cases hoff
  · rw [foundInside_iff hdescribes, holds_map_iff hfinite' hexact']
    refine (mem_iff_of_forall₂ (hdescribes.members htyped) fun member _ r hr => ?_).1.symm
    exact foundInside_iff (.polygon (boxed_polygon member) (typed_polygon member) hr)

end Geofencing.Geo

/-! ### Two courts -/

namespace Geofencing.Campus

/-- The ring of a fence with the given corners, as the only one of a polygon. -/
def fence (corners : List (Int × Int)) : Json :=
  .arr [.arr (corners.map fun c => .arr [.int c.1, .int c.2])]

/-- The western court. -/
def westCourt : Json := fence [(0, 0), (4, 0), (4, 4), (0, 4)]

/-- The eastern court. -/
def eastCourt : Json := fence [(8, 0), (12, 0), (12, 4), (8, 4)]

/-- Polygons with the given coordinates. -/
def together (members : List Json) : Json :=
  .object [("type", .str "MultiPolygon"), ("coordinates", .arr members)]

/-- The rings of both courts. -/
def courtRings : List (List (List Geo.Position)) :=
  [[[corner 0 0, corner 4 0, corner 4 4, corner 0 4]],
    [[corner 8 0, corner 12 0, corner 12 4, corner 8 4]]]

end Geofencing.Campus

namespace Geofencing.Geo

open Campus

/-- The middle of the eastern court is inside of both courts together. A point to the west of both,
at the height of their middles, is outside of each. -/
theorem union_of_polygons_campus :
    FoundInside ⟨2.0, 10.0⟩ (GeoJson.polygon eastCourt) ∧
    FoundInside ⟨2.0, 10.0⟩ (together [westCourt, eastCourt]) ∧
    (position ⟨2.0, -1.0⟩).point? = some ⟨-twoTo 1074, twoTo 1075⟩ ∧
    (∀ g ∈ (courtRings.map Polygon.ofRings).map Polygon.exact,
      g.side measuredTurn ⟨-twoTo 1074, twoTo 1075⟩ = .outside) ∧
    ∀ c, planar c (GeoJson.polygon eastCourt) = planar c (together [eastCourt]) := by
  obtain ⟨hunion, hsingle⟩ := union_of_polygons
  have htogether (members : List Json) :
      Typed (together members) "MultiPolygon" (.arr members) :=
    ⟨Json.get?_object _, Json.get?_object _⟩
  have hdescribes : Describes (together [westCourt, eastCourt]) courtRings :=
    parse?_eq_polygons_iff.1 (by decide +kernel)
  have hexact : ∀ c p, (position c).point? = some p → p.ordinary = true →
      ExactAt p (points courtRings.flatten.flatten) :=
    fun c p _ hp => exactAt_of_ordinary hp (by decide +kernel)
  have hfinite : ∀ v ∈ courtRings.flatten.flatten, v.point?.isSome = true := by decide +kernel
  have hmiddle : (position ⟨2.0, 10.0⟩).point? = some ⟨10 * twoTo 1074, twoTo 1075⟩ := by
    decide +kernel
  have hwest : (position ⟨2.0, -1.0⟩).point? = some ⟨-twoTo 1074, twoTo 1075⟩ := by decide +kernel
  have heast : FoundInside ⟨2.0, 10.0⟩ (GeoJson.polygon eastCourt) := by
    have hparse : GeoJson.parse? (GeoJson.polygon eastCourt) =
        some (.polygons [[[corner 8 0, corner 12 0, corner 12 4, corner 8 4]]]) := by
      decide +kernel
    exact (foundInside_iff (parse?_eq_polygons_iff.1 hparse)).2 (by decide +kernel)
  obtain ⟨-, hfound⟩ := hunion _ _ _ (htogether _) hdescribes hfinite ⟨2.0, 10.0⟩ fun p hp => by
    obtain rfl := Option.some_inj.1 (hmiddle.symm.trans hp)
    exact hexact _ _ hp (by decide +kernel)
  obtain ⟨hoff, -⟩ := hunion _ _ _ (htogether _) hdescribes hfinite ⟨2.0, -1.0⟩ fun p hp => by
    obtain rfl := Option.some_inj.1 (hwest.symm.trans hp)
    exact hexact _ _ hp (by decide +kernel)
  refine ⟨heast, hfound.2 ⟨eastCourt, by simp, heast⟩, hwest, hoff _ hwest (by decide +kernel), ?_⟩
  exact hsingle _ _ _ (typed_polygon _) (htogether _)
    ((Json.get?_object _).trans (Json.get?_object _).symm)

end Geofencing.Geo
