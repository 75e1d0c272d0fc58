import Geofencing.Geo.Engine
import Geofencing.Proofs.EdgeLength
import Geofencing.Proofs.Winding

/-!
# Spellings of a polygon

Whether a coordinate is inside a geometry depends on the rings that the geometry describes, and not
on the way in which they are written down. Positions are binary64 numbers, of which two may be
written differently and stand for the same point, and a ring may come with or without its closing
vertex. All of that is gone once a ring is seen as a cycle of exact points.

* `ringSide_close`: a ring is closed and looked at as the cycle of its points.
* `Respelled.wind_eq`, `Respelled.mem_points` and `Respelled.flat_iff`: what a spelling leaves as it
  is.
* `membership_respelled`: the answer of the engine, for each spelling and on the boundary.
-/

namespace Geofencing.Geo

/-! ## Rings of positions -/

/-- The points of a ring that are finite. -/
abbrev points (vs : List Position) : List Point :=
  vs.filterMap Position.point?

/-- The turns around a point between any two of the given points have their exact signs. -/
def ExactAt (p : Point) (ps : List Point) : Prop :=
  ∀ a ∈ ps, ∀ b ∈ ps, (measuredTurn a b p).sign = (orientation a b p).sign

/-- Signs are exact among points of ordinary size. -/
theorem exactAt_of_ordinary {p : Point} {ps : List Point} (hp : p.ordinary = true)
    (hps : ∀ a ∈ ps, a.ordinary = true) : ExactAt p ps := by
  intro a ha b hb
  rw [measuredTurn_eq_orientation (hps a ha) (hps b hb) hp]

theorem ExactAt.mono {p : Point} {ps qs : List Point} (h : ExactAt p qs) (hsub : ps ⊆ qs) :
    ExactAt p ps :=
  fun a ha b hb => h a (hsub ha) b (hsub hb)

section Ring

variable {p : Point} {vs ws : List Position}

/-- The closing vertex is a vertex that was there. -/
theorem mem_close {a : Position} : a ∈ close Position.same vs ↔ a ∈ vs := by
  rcases vs with _ | ⟨v, rest⟩
  · rfl
  · rw [close]
    split_ifs
    · rfl
    · rw [List.mem_append, List.mem_singleton]
      exact or_iff_left_of_imp fun h => h ▸ List.mem_cons_self

/-- A finite position is a point of the ring. -/
theorem points_cons {v : Position} {q : Point} (hv : v.point? = some q) :
    points (v :: vs) = q :: points vs :=
  List.filterMap_cons_some hv

/-- Closing a ring adds no point to it. -/
theorem mem_points_close {q : Point} : q ∈ points (close Position.same vs) ↔ q ∈ points vs := by
  simp only [points, List.mem_filterMap, mem_close]

/-- The last point of a ring of finite positions is that of its last position. -/
theorem point?_getLastD {v : Position} {q : Point} (hv : v.point? = some q)
    (hfinite : ∀ a ∈ vs, a.point?.isSome = true) :
    (vs.getLastD v).point? = some ((points vs).getLastD q) := by
  induction vs generalizing v q with
  | nil => exact hv
  | cons w rest ih =>
    obtain ⟨hw, hrest⟩ := List.forall_mem_cons.1 hfinite
    obtain ⟨r, hr⟩ := Option.isSome_iff_exists.1 hw
    rw [List.getLastD_cons, points_cons hr, List.getLastD_cons]
    exact ih hr hrest

/-- Once it is closed, a ring of finite positions is the cycle of its points. -/
theorem ringSide_close (hfinite : ∀ v ∈ vs, v.point?.isSome = true)
    (hexact : ExactAt p (points vs)) :
    ringSide measuredTurn p (points (close Position.same vs)) =
      wind orientation p 0 (cycle (points vs)) := by
  -- All turns have their exact signs, so the ring is looked at with exact ones.
  have hturn : ringSide measuredTurn p (points (close Position.same vs)) =
      ringSide orientation p (points (close Position.same vs)) :=
    ringSide_congr fun a ha b hb => hexact a (mem_points_close.1 ha) b (mem_points_close.1 hb)
  rw [hturn]
  rcases vs with _ | ⟨v, rest⟩
  · rfl
  · obtain ⟨hv, hrest⟩ := List.forall_mem_cons.1 hfinite
    obtain ⟨q, hq⟩ := Option.isSome_iff_exists.1 hv
    rw [close]
    split_ifs with hsame
    · -- The ring was written with its closing vertex.
      have hlast := point?_getLastD hq hrest
      rw [← point?_of_same hsame, hq, Option.some_inj] at hlast
      rw [points_cons hq]
      exact ringSide_closed hlast.symm
    · have hclosed : points (v :: rest ++ [v]) = q :: points rest ++ [q] := by
        simp [points, hq]
      rw [hclosed, points_cons hq]
      exact ringSide_concat p q _

/-! ## What a spelling leaves as it is -/

/-- Whether all edges lack length does not depend on their order. -/
theorem flat_perm {es es' : List (Position × Position)} (h : es.Perm es') : Flat es ↔ Flat es' :=
  forall_congr' fun _ => imp_congr_left h.mem_iff

theorem flat_swap {es : List (Position × Position)} : Flat (es.map Prod.swap) ↔ Flat es := by
  simp only [Flat, List.forall_mem_map, Prod.fst_swap, Prod.snd_swap]
  exact forall_congr' fun e => imp_congr_right fun _ => by rw [planarDistance_comm]

theorem flat_append {es es' : List (Position × Position)} :
    Flat (es ++ es') ↔ Flat es ∧ Flat es' :=
  List.forall_mem_append

theorem flat_cons {e : Position × Position} {es : List (Position × Position)} :
    Flat (e :: es) ↔ (planarDistance e.1 e.2 == 0.0) = true ∧ Flat es :=
  List.forall_mem_cons

/-- The edge that closes a ring twice has no length, so it does not count. -/
theorem flat_edges_close (hfinite : ∀ v ∈ vs, v.point?.isSome = true) :
    Flat (edges (close Position.same vs)) ↔ Flat (cycle vs) := by
  rcases vs with _ | ⟨v, rest⟩
  · rfl
  · rw [cycle_cons, close]
    split_ifs with hsame
    · have hlast := planarDistance_of_same hsame (hfinite v List.mem_cons_self)
      rw [flat_append, flat_cons]
      exact (and_iff_left ⟨hlast, fun _ h => absurd h List.not_mem_nil⟩).symm
    · rw [edges_concat]

namespace Respelled

/-- A spelling has the points of the ring. -/
theorem mem_points (h : Respelled Position.same vs ws) {q : Point} :
    q ∈ points vs ↔ q ∈ points ws := by
  refine iff_of_eq (h.invariant (fun vs => q ∈ points vs) ?_ ?_ ?_)
  · intro front back
    simp only [points, List.filterMap_append, List.mem_append, or_comm]
  · intro vs
    simp only [points, List.filterMap_reverse, List.mem_reverse]
  · intro v w rest hsame
    have hclosing : q ∈ points [w] → q ∈ points (v :: rest) := by
      intro hq
      have hv : v.point? = some q := by simpa [point?_of_same hsame] using hq
      exact List.mem_filterMap.2 ⟨v, List.mem_cons_self, hv⟩
    rw [points, points, List.filterMap_append, List.mem_append]
    exact propext (or_iff_left_of_imp hclosing).symm

/-- If one spelling is finite, so is every other. -/
theorem finite_iff (h : Respelled Position.same vs ws) :
    (∀ v ∈ vs, v.point?.isSome = true) ↔ ∀ w ∈ ws, w.point?.isSome = true := by
  refine iff_of_eq (h.invariant (fun vs => ∀ v ∈ vs, v.point?.isSome = true) ?_ ?_ ?_)
  · intro front back
    simp only [List.forall_mem_append, and_comm]
  · intro vs
    simp only [List.mem_reverse]
  · intro v w rest hsame
    rw [List.forall_mem_append, List.forall_mem_singleton, ← point?_of_same hsame]
    exact propext (and_iff_left_of_imp fun hfinite => hfinite v List.mem_cons_self).symm

/-- A ring winds around a point in each spelling or in none. -/
theorem wind_eq (h : Respelled Position.same vs ws) (p : Point) :
    wind orientation p 0 (cycle (points vs)) = wind orientation p 0 (cycle (points ws)) := by
  refine h.invariant (fun vs => wind orientation p 0 (cycle (points vs))) ?_ ?_ ?_
  · intro front back
    rw [points, points, List.filterMap_append, List.filterMap_append, wind_cycle_restart]
  · intro vs
    rw [points, points, List.filterMap_reverse, wind_cycle_reverse]
  · intro v w rest hsame
    have hpoint := point?_of_same hsame
    -- The closing vertex may be written differently, but it is the same point.
    cases hv : v.point? with
    | none => simp [points, hv, ← hpoint]
    | some q =>
      have hclosed : points (v :: rest ++ [w]) = q :: points rest ++ [q] := by
        simp [points, hv, ← hpoint]
      rw [hclosed, wind_cycle_close, points_cons hv]

/-- A ring of finite positions has an edge with a length in each spelling or in none. -/
theorem flat_iff (h : Respelled Position.same vs ws) (hfinite : ∀ v ∈ vs, v.point?.isSome = true) :
    Flat (cycle vs) ↔ Flat (cycle ws) := by
  -- Only finite vertices are at no distance from themselves, so the invariant has to say both.
  have hboth : ((∀ v ∈ vs, v.point?.isSome = true) ∧ Flat (cycle vs)) =
      ((∀ w ∈ ws, w.point?.isSome = true) ∧ Flat (cycle ws)) := by
    refine h.invariant (fun vs => (∀ v ∈ vs, v.point?.isSome = true) ∧ Flat (cycle vs)) ?_ ?_ ?_
    · intro front back
      rw [(restart front back).finite_iff, flat_perm (cycle_append_comm front back)]
    · intro vs
      rw [(reverse vs).finite_iff, flat_perm (cycle_reverse vs), flat_swap]
    · intro v w rest hsame
      rw [(close rest hsame).finite_iff, cycle_cons, cycle_concat]
      refine propext (and_congr_right fun hfinite => ?_)
      have hv : v.point?.isSome = true := hfinite v (by simp)
      have hclosing := planarDistance_of_same hsame hv
      have hnil : Flat [] := fun _ h => absurd h List.not_mem_nil
      rw [flat_append, flat_append, flat_cons, flat_cons, flat_cons, planarDistance_congr hsame]
      simp only [hclosing, hnil, and_true]
  rw [eq_iff_iff, and_iff_right hfinite, and_iff_right (h.finite_iff.1 hfinite)] at hboth
  exact hboth

/-- If signs are exact for one spelling, they are for every other. -/
theorem exactAt (h : Respelled Position.same vs ws) (hexact : ExactAt p (points vs)) :
    ExactAt p (points ws) :=
  hexact.mono fun _ => h.mem_points.2

/-- A point is on the same side of a ring however the ring is written down. -/
theorem ringSide_eq (h : Respelled Position.same vs ws)
    (hfinite : ∀ v ∈ vs, v.point?.isSome = true) (hexact : ExactAt p (points vs)) :
    ringSide measuredTurn p (points (Geo.close Position.same vs)) =
      ringSide measuredTurn p (points (Geo.close Position.same ws)) := by
  rw [ringSide_close hfinite hexact, ringSide_close (h.finite_iff.1 hfinite) (h.exactAt hexact),
    h.wind_eq]

end Respelled

end Ring

/-! ## Polygons -/

/-- Lists of related items have the same images if related items have. -/
theorem map_eq_of_forall₂ {α β : Type} {S : α → α → Prop} {f : α → β} {xs ys : List α}
    (h : List.Forall₂ S xs ys) (hf : ∀ x ∈ xs, ∀ y, S x y → f x = f y) : xs.map f = ys.map f := by
  induction h with
  | nil => rfl
  | cons hxy _ ih =>
    obtain ⟨hx, hxs⟩ := List.forall_mem_cons.1 hf
    rw [List.map_cons, List.map_cons, hx _ hxy, ih hxs]

/-- What holds of related items alike holds of some, or of all, items of both lists alike. -/
theorem mem_iff_of_forall₂ {α β : Type} {S : α → β → Prop} {P : α → Prop} {Q : β → Prop}
    {xs : List α} {ys : List β} (h : List.Forall₂ S xs ys)
    (hP : ∀ x ∈ xs, ∀ y, S x y → (P x ↔ Q y)) :
    ((∃ x ∈ xs, P x) ↔ ∃ y ∈ ys, Q y) ∧ ((∀ x ∈ xs, P x) ↔ ∀ y ∈ ys, Q y) := by
  induction h with
  | nil => simp
  | cons hxy _ ih =>
    obtain ⟨hx, hxs⟩ := List.forall_mem_cons.1 hP
    obtain ⟨hsome, hall⟩ := ih hxs
    simp only [List.exists_mem_cons_iff, List.forall_mem_cons, hx _ hxy, hsome, hall, and_self]

/-- The side of a polygon is settled by the sides of its rings. -/
theorem side_ofRings_congr {turn : Turn} {p : Point} {rings rings' : List (List Position)}
    (h : rings.map (fun vs => ringSide turn p (points (close Position.same vs))) =
      rings'.map fun vs => ringSide turn p (points (close Position.same vs))) :
    (Polygon.ofRings rings).exact.side turn p = (Polygon.ofRings rings').exact.side turn p := by
  rcases rings with _ | ⟨exterior, holes⟩
  · rw [List.map_eq_nil_iff.1 h.symm]
  · obtain ⟨exterior', holes', rfl, hexterior, hholes⟩ := List.map_eq_cons_iff.1 h.symm
    apply side_congr
    · exact hexterior.symm
    · simp only [Polygon.exact, Polygon.ofRings, List.map_map]
      exact hholes.symm

section Respelled

variable {p : Point} {rings rings' : List (List Position)}

/-- A polygon holds the same points however its rings are written down. -/
theorem holds_ofRings_respelled (h : List.Forall₂ (Respelled Position.same) rings rings')
    (hfinite : ∀ vs ∈ rings, ∀ v ∈ vs, v.point?.isSome = true)
    (hexact : ∀ vs ∈ rings, ExactAt p (points vs)) :
    (Polygon.ofRings rings).exact.holds measuredTurn p =
      (Polygon.ofRings rings').exact.holds measuredTurn p := by
  have hsides := map_eq_of_forall₂ h fun vs hvs ws hws =>
    hws.ringSide_eq (hfinite vs hvs) (hexact vs hvs)
  rw [Polygon.holds, Polygon.holds, side_ofRings_congr hsides]

/-- Its exterior ring has the same points. -/
theorem mem_exterior_respelled (h : List.Forall₂ (Respelled Position.same) rings rings')
    {q : Point} :
    q ∈ (Polygon.ofRings rings).exact.exterior ↔ q ∈ (Polygon.ofRings rings').exact.exterior := by
  cases h with
  | nil => rfl
  | cons hexterior _ =>
    exact mem_points_close.trans (hexterior.mem_points.trans mem_points_close.symm)

/-- The rings of a polygon lack length if the given ones do once they are closed. -/
theorem flat_rings_iff :
    (∀ ring ∈ (Polygon.ofRings rings).rings, Flat (edges ring)) ↔
      ∀ vs ∈ rings, Flat (edges (close Position.same vs)) := by
  cases rings with
  | nil => simp [Polygon.ofRings, Polygon.rings, edges, Flat]
  | cons exterior holes =>
    rw [Polygon.ofRings, Polygon.rings, List.forall_mem_append, List.forall_mem_singleton,
      List.forall_mem_map, List.forall_mem_cons, and_comm]

/-- Whether a polygon has an edge with a length does not depend on the spelling. -/
theorem flat_respelled (h : List.Forall₂ (Respelled Position.same) rings rings')
    (hfinite : ∀ vs ∈ rings, ∀ v ∈ vs, v.point?.isSome = true) :
    (∀ ring ∈ (Polygon.ofRings rings).rings, Flat (edges ring)) ↔
      ∀ ring ∈ (Polygon.ofRings rings').rings, Flat (edges ring) := by
  rw [flat_rings_iff, flat_rings_iff]
  refine (mem_iff_of_forall₂ h fun vs hvs ws hws => ?_).2
  rw [flat_edges_close (hfinite vs hvs), flat_edges_close (hws.finite_iff.1 (hfinite vs hvs)),
    hws.flat_iff (hfinite vs hvs)]

end Respelled

/-! ## The engine -/

section Engine

variable {c : Coordinate} {rings rings' : List (List (List Position))}

section Respelled

variable (h : List.Forall₂ (List.Forall₂ (Respelled Position.same)) rings rings')
  (hfinite : ∀ r ∈ rings, ∀ vs ∈ r, ∀ v ∈ vs, v.point?.isSome = true)
  (hexact : ∀ p, (position c).point? = some p → ∀ r ∈ rings, ∀ vs ∈ r, ExactAt p (points vs))

include h hfinite hexact

/-- Several polygons hold a coordinate however their rings are written down. -/
theorem holds_respelled :
    holds c (rings.map Polygon.ofRings) = holds c (rings'.map Polygon.ofRings) := by
  unfold holds
  cases hc : (position c).point? with
  | none => rfl
  | some p =>
    -- The same polygons hold the point, and the box around all exteriors is the same.
    have hholds : (∃ r ∈ rings, (Polygon.ofRings r).exact.holds measuredTurn p = true) ↔
        ∃ r ∈ rings', (Polygon.ofRings r).exact.holds measuredTurn p = true := by
      refine (mem_iff_of_forall₂ h fun r hr r' hr' => ?_).1
      rw [holds_ofRings_respelled hr' (hfinite r hr) (hexact p hc r hr)]
    have hmem (q : Point) : (∃ r ∈ rings, q ∈ (Polygon.ofRings r).exact.exterior) ↔
        ∃ r ∈ rings', q ∈ (Polygon.ofRings r).exact.exterior :=
      (mem_iff_of_forall₂ h fun _ _ _ hr' => mem_exterior_respelled hr').1
    have hspans :
        Spans (((rings.map Polygon.ofRings).map Polygon.exact).flatMap Polygon.exterior) p ↔
          Spans (((rings'.map Polygon.ofRings).map Polygon.exact).flatMap Polygon.exterior) p :=
      spans_congr fun q => by simpa using hmem q
    rw [Bool.eq_iff_iff, unionHolds_iff, unionHolds_iff, hspans]
    simpa using fun _ => hholds

/-- The search for the nearest point comes to nothing for all spellings or for none. -/
theorem nearestOn_respelled :
    nearestOn (position c) (rings.map Polygon.ofRings) = .nowhere ↔
      nearestOn (position c) (rings'.map Polygon.ofRings) = .nowhere := by
  rw [nearestOn_eq_nowhere_iff, nearestOn_eq_nowhere_iff, List.forall_mem_map, List.forall_mem_map]
  refine (mem_iff_of_forall₂ h fun r hr r' hr' => ?_).2
  have hcovers : (Polygon.ofRings r).covers (position c) =
      (Polygon.ofRings r').covers (position c) := by
    unfold Polygon.covers
    cases hc : (position c).point? with
    | none => rfl
    | some p => exact holds_ofRings_respelled hr' (hfinite r hr) (hexact p hc r hr)
  rw [hcovers, flat_respelled hr' (hfinite r hr)]

end Respelled

/-- The engine looks at the polygons that were parsed. -/
theorem polygons_of_parse {geometry : Json}
    (h : GeoJson.parse? geometry = some (.polygons rings)) :
    polygons geometry = .ok (rings.map Polygon.ofRings) := by
  rw [polygons, h]

/-- Whether the engine answers, and whether it says inside, is settled by the two questions: does a
polygon hold the coordinate, and is there an edge to measure a distance to? -/
theorem map_inside_planar {geometry : Json}
    (h : GeoJson.parse? geometry = some (.polygons rings)) :
    (planar c geometry).map Membership.inside =
      if holds c (rings.map Polygon.ofRings) then .ok true
      else if nearestOn (position c) (rings.map Polygon.ofRings) = .nowhere then
        .error .noClosestPoint
      else .ok false := by
  simp only [planar, polygons_of_parse h]
  cases holds c (rings.map Polygon.ofRings) with
  | true => rfl
  | false =>
    rcases nearestOn (position c) (rings.map Polygon.ofRings) with _ | n | n
    · rfl
    · rfl
    · rfl

/-- A point on the segment between two neighbouring vertices of an exterior ring is held. -/
theorem holds_of_onSegment {p : Point} (hc : (position c).point? = some p)
    {exterior : List Position} {holes : List (List Position)} (hmem : exterior :: holes ∈ rings)
    (hfinite : ∀ v ∈ exterior, v.point?.isSome = true) (hexact : ExactAt p (points exterior))
    {a b : Point} (hedge : (a, b) ∈ cycle (points exterior)) (hp : OnSegment p a b) :
    holds c (rings.map Polygon.ofRings) = true := by
  have hon : onEdge orientation p a b = true := onEdge_of_onSegment hp
  have hboundary : ringSide measuredTurn p (points (close Position.same exterior)) = .boundary := by
    rw [ringSide_close hfinite hexact, wind_cycle, if_pos]
    exact List.any_eq_true.2 ⟨(a, b), hedge, hon⟩
  have hholds : (Polygon.ofRings (exterior :: holes)).exact.holds measuredTurn p = true := by
    rw [Polygon.holds, side_of_boundary hboundary]
    rfl
  -- The box is the one around all exterior rings, so it holds every point of this one.
  have hvertex : ∀ q ∈ points exterior,
      q ∈ ((rings.map Polygon.ofRings).map Polygon.exact).flatMap Polygon.exterior := by
    intro q hq
    rw [List.map_map, List.mem_flatMap]
    exact ⟨_, List.mem_map_of_mem hmem, mem_points_close.2 hq⟩
  obtain ⟨ha, hb⟩ := List.of_mem_zip hedge
  simp only [holds, hc]
  refine unionHolds_iff.2 ⟨?_, ?_⟩
  · exact spans_of_onEdge (hvertex a ha) (hvertex b (List.mem_rotate.1 hb)) hon
  · rw [List.map_map]
    exact ⟨_, List.mem_map_of_mem hmem, hholds⟩

end Engine

/-- Whether a coordinate is inside a geometry does not depend on how its rings are written down, be
it the vertex at which a ring starts, its direction or its closing vertex. The engine also fails for
each spelling or for none. A coordinate on the segment between two neighbouring vertices of an
exterior ring, the last and the first among them, is inside. All this holds of finite positions, for
which the turns around the coordinate have their exact signs. -/
theorem membership_respelled {geometry : Json} {rings : List (List (List Position))}
    (hgeometry : GeoJson.parse? geometry = some (.polygons rings))
    (hfinite : ∀ v ∈ rings.flatten.flatten, v.point?.isSome = true) {c : Coordinate}
    (hexact : ∀ p, (position c).point? = some p → ExactAt p (points rings.flatten.flatten)) :
    (∀ geometry' rings', GeoJson.parse? geometry' = some (.polygons rings') →
      List.Forall₂ (List.Forall₂ (Respelled Position.same)) rings rings' →
      (planar c geometry).map Membership.inside = (planar c geometry').map Membership.inside) ∧
    ∀ p, (position c).point? = some p → ∀ exterior holes, exterior :: holes ∈ rings →
      ∀ a b, (a, b) ∈ cycle (points exterior) → OnSegment p a b →
      planar c geometry = .ok ⟨true, 0.0⟩ := by
  -- What is assumed of all vertices at once is needed ring by ring.
  have hvertex : ∀ r ∈ rings, ∀ vs ∈ r, ∀ v ∈ vs, v ∈ rings.flatten.flatten := by
    intro r hr vs hvs v hv
    exact List.mem_flatten_of_mem (List.mem_flatten_of_mem hr hvs) hv
  have hfinite' : ∀ r ∈ rings, ∀ vs ∈ r, ∀ v ∈ vs, v.point?.isSome = true :=
    fun r hr vs hvs v hv => hfinite v (hvertex r hr vs hvs v hv)
  have hexact' : ∀ p, (position c).point? = some p → ∀ r ∈ rings, ∀ vs ∈ r,
      ExactAt p (points vs) := by
    intro p hc r hr vs hvs a ha b hb
    have hpoints : points vs ⊆ points rings.flatten.flatten :=
      List.filterMap_subset _ (hvertex r hr vs hvs)
    exact hexact p hc a (hpoints ha) b (hpoints hb)
  refine ⟨?_, ?_⟩
  · intro geometry' rings' hgeometry' hrespelled
    -- The answer says inside if a polygon holds the point, unless there is nothing to measure.
    rw [map_inside_planar hgeometry, map_inside_planar hgeometry',
      holds_respelled hrespelled hfinite' hexact']
    simp only [nearestOn_respelled hrespelled hfinite' hexact']
  · intro p hc exterior holes hmem a b hedge hp
    have hholds := holds_of_onSegment hc hmem (hfinite' _ hmem exterior List.mem_cons_self)
      (hexact' p hc _ hmem exterior List.mem_cons_self) hedge hp
    simp only [planar, polygons_of_parse hgeometry, hholds, if_true]

end Geofencing.Geo

/-! ### A courtyard in two spellings -/

namespace Geofencing.Campus

/-- An area inside a fence with the given corners. -/
def fenced (corners : List (Int × Int)) : Json :=
  .object [("type", .str "Polygon"),
    ("coordinates", .arr [.arr (corners.map fun c => .arr [.int c.1, .int c.2])])]

/-- The corner of a fence. -/
def corner (x y : Int) : Geo.Position :=
  ⟨(Number.int x).toFloat, (Number.int y).toFloat⟩

/-- The courtyard, once around from its south-western corner. -/
def courtyard : Json :=
  fenced [(0, 0), (4, 0), (4, 4), (0, 4), (0, 0)]

/-- The courtyard the other way around, from its north-eastern corner and not closed. -/
def courtyardTurned : Json :=
  fenced [(4, 4), (4, 0), (0, 0), (0, 4)]

end Geofencing.Campus

namespace Geofencing.Geo

open Campus

/-- In both spellings, the middle of the southern fence is inside the courtyard. -/
theorem membership_respelled_campus :
    GeoJson.parse? courtyard =
      some (.polygons [[[corner 0 0, corner 4 0, corner 4 4, corner 0 4, corner 0 0]]]) ∧
    GeoJson.parse? courtyardTurned =
      some (.polygons [[[corner 4 4, corner 4 0, corner 0 0, corner 0 4]]]) ∧
    planar ⟨0.0, 2.0⟩ courtyard = .ok ⟨true, 0.0⟩ ∧
    (planar ⟨0.0, 2.0⟩ courtyardTurned).map Membership.inside = .ok true := by
  have hparse : GeoJson.parse? courtyard =
      some (.polygons [[[corner 0 0, corner 4 0, corner 4 4, corner 0 4, corner 0 0]]]) := by
    decide +kernel
  have hparse' : GeoJson.parse? courtyardTurned =
      some (.polygons [[[corner 4 4, corner 4 0, corner 0 0, corner 0 4]]]) := by
    decide +kernel
  have hpoint : (position ⟨0.0, 2.0⟩).point? = some ⟨twoTo 1075, 0⟩ := by decide +kernel
  have hexact : ∀ p, (position ⟨0.0, 2.0⟩).point? = some p →
      ExactAt p (points
        [[[corner 0 0, corner 4 0, corner 4 4, corner 0 4, corner 0 0]]].flatten.flatten) := by
    intro p hp
    obtain rfl := Option.some_inj.1 (hpoint.symm.trans hp)
    exact exactAt_of_ordinary (by decide +kernel) (by decide +kernel)
  obtain ⟨hspelling, hboundary⟩ := membership_respelled hparse (by decide +kernel) hexact
  have hinside : planar ⟨0.0, 2.0⟩ courtyard = .ok ⟨true, 0.0⟩ := by
    have hmiddle (n : Int) : OnSegment ⟨n, 0⟩ ⟨0, 0⟩ ⟨2 * n, 0⟩ :=
      ⟨1 / 2, by norm_num, by norm_num, by push_cast; ring, by norm_num⟩
    exact hboundary _ hpoint _ _ List.mem_cons_self _ _ (by decide +kernel) (hmiddle _)
  have hrespelled : Respelled Position.same
      [corner 0 0, corner 4 0, corner 4 4, corner 0 4, corner 0 0]
      [corner 4 4, corner 4 0, corner 0 0, corner 0 4] := by
    have hsouthwest : (corner 0 0).same (corner 0 0) = true := by decide +kernel
    have hnortheast : (corner 4 4).same (corner 4 4) = true := by decide +kernel
    -- Start in the north-east, turn around and drop the closing vertex.
    refine (Respelled.restart_closed [corner 4 0] [corner 0 4] hsouthwest hnortheast).trans ?_
    refine (Respelled.reverse _).trans ?_
    exact (Respelled.close [corner 4 0, corner 0 0, corner 0 4] hnortheast).symm
  refine ⟨hparse, hparse', hinside, ?_⟩
  rw [← hspelling _ _ hparse' (.cons (.cons hrespelled .nil) .nil), hinside]
  rfl

end Geofencing.Geo
