import Geofencing.Proofs.Undetermined
import Geofencing.Service.Tracker

/-!
# Evaluating geofences one by one

A location is evaluated in one pass over the geofences, and three conditions decide in that pass
which geofences are passed over. Still, what is found about a geofence has nothing to do with the
geofences around it: neither their number nor their order, nor the engine's failures on them.

* `Finding.Measures`: what is found about one geofence, by its shape and the engine's answer.
* `Membership.forall₂_evaluate`: the findings are those about the single geofences, in their order.
* `Membership.forall₂_evaluate_engines`: a change of the engine shows only where its answers change.
* `Membership.evaluated_one_by_one`: all of it, for the evaluation that the tracker runs.
-/

namespace Geofencing

/-- The check accepts just the shapes that are well-formed. -/
theorem Shape.check_eq_ok_iff {s : Shape} : s.check = .ok () ↔ s.wellFormed = true := by
  rw [check, wellFormed]
  cases s.fault? <;> simp

/-- A distance that is not known is positive and infinite. -/
theorem Geo.unknownMeters_infinite : unknownMeters.isInf = true ∧ 0 < unknownMeters := by
  decide +kernel

/-- What is found about one geofence, with the transition left open. -/
structure Finding.Measures (engine : Geo.Engine) (location : Coordinate) (g : Geofence)
    (f : Finding) : Prop where
  /-- The finding is about the geofence. -/
  geofence : f.geofence = g.id
  /-- It shows the name of the geofence. -/
  name : f.name = g.name
  /-- It shows the kind of the geofence. -/
  kind : f.kind = g.kind
  /-- Whether the boundary was crossed is left open. -/
  transition : f.transition = .none
  /-- A circle is measured by the distance to its center. -/
  circle : ∀ center radius, g.shape = .circle center radius →
    f.inside = Geo.insideCircle location center radius ∧ f.meters = Geo.distance location center
  /-- About a polygon the engine's answer is taken over. -/
  answered : ∀ geometry m, g.shape = .polygon geometry → engine location geometry = .ok m →
    f.inside = m.inside ∧ f.meters = m.meters
  /-- If the engine has none, the location counts as outside and infinitely far away. -/
  failed : ∀ geometry failure, g.shape = .polygon geometry →
    engine location geometry = .error failure → f.inside = false ∧ f.meters = Geo.unknownMeters ∧
      f.meters.isInf = true ∧ 0 < f.meters

namespace Membership

variable {tenant : Uuid} {location : Coordinate} {g : Geofence} {geofences : List Geofence}

/-- A geofence is evaluated if it is an active one of the tenant whose shape passes the check. -/
theorem evaluable_iff : evaluable tenant g = true ↔
    g.tenant = tenant ∧ g.active = true ∧ g.shape.check = .ok () := by
  rw [Shape.check_eq_ok_iff, evaluable, Bool.and_eq_true, Bool.and_eq_true, beq_iff_eq, and_assoc]

/-- The engine alone measures a polygon. -/
theorem measure_polygon (engine : Geo.Engine) (location : Coordinate) (geometry : Json) :
    measure engine location (.polygon geometry) = .ofAnswer (engine location geometry) := by
  rw [measure, ofShape, pure_bind]
  cases engine location geometry <;> rfl

/-- What is found about a geofence measures it. -/
theorem measures_finding (engine : Geo.Engine) (location : Coordinate) (g : Geofence) :
    (finding g (measure engine location g.shape)).Measures engine location g := by
  refine ⟨rfl, rfl, rfl, rfl, ?_, ?_, ?_⟩
  · intro center radius hshape
    rw [hshape]
    exact ⟨rfl, rfl⟩
  · intro geometry m hshape hanswer
    rw [hshape, measure_polygon, hanswer]
    exact ⟨rfl, rfl⟩
  · intro geometry failure hshape hanswer
    rw [hshape, measure_polygon, hanswer]
    exact ⟨rfl, rfl, Geo.unknownMeters_infinite⟩

/-- Another engine finds the same, unless it is asked and answers differently. -/
theorem measure_eq_or (engine engine' : Geo.Engine) (location : Coordinate) (shape : Shape) :
    measure engine' location shape = measure engine location shape ∨
      ∃ geometry, shape = .polygon geometry ∧
        engine' location geometry ≠ engine location geometry := by
  cases shape with
  | circle center radius => exact .inl rfl
  | polygon geometry =>
    rw [measure_polygon, measure_polygon]
    by_cases h : engine' location geometry = engine location geometry
    · exact .inl (congrArg _ h)
    · exact .inr ⟨geometry, rfl, h⟩

/-- Lists of geofences are evaluated one after the other. -/
theorem evaluate_append (engine : Geo.Engine) (tenant : Uuid) (location : Coordinate)
    (geofences more : List Geofence) :
    evaluate engine tenant location (geofences ++ more) =
      evaluate engine tenant location geofences ++ evaluate engine tenant location more := by
  simp only [evaluate_eq_map, List.filter_append, List.map_append]

/-- A geofence that is evaluated on its own gives one finding. -/
theorem evaluate_singleton (engine : Geo.Engine) (location : Coordinate)
    (hg : evaluable tenant g = true) :
    evaluate engine tenant location [g] = [finding g (measure engine location g.shape)] := by
  rw [evaluate_eq_map, List.filter_cons_of_pos hg]
  rfl

/-- The findings are those about the single geofences, in their order. -/
theorem forall₂_evaluate (engine : Geo.Engine) (tenant : Uuid) (location : Coordinate)
    (geofences : List Geofence) :
    List.Forall₂
      (fun g f => evaluate engine tenant location [g] = [f] ∧ f.Measures engine location g)
      (geofences.filter (evaluable tenant)) (evaluate engine tenant location geofences) := by
  rw [evaluate_eq_map, List.forall₂_map_right_iff, List.forall₂_same]
  intro g hg
  exact ⟨evaluate_singleton engine location (List.mem_filter.1 hg).2,
    measures_finding engine location g⟩

/-- What two engines find differs in no more than the membership of those geofences on which their
answers differ. -/
theorem forall₂_evaluate_engines (engine engine' : Geo.Engine) (tenant : Uuid)
    (location : Coordinate) (geofences : List Geofence) :
    List.Forall₂
      (fun g (p : Finding × Finding) =>
        p.2 = { p.1 with inside := p.2.inside, meters := p.2.meters } ∧
        (p.2 = p.1 ∨ ∃ geometry, g.shape = .polygon geometry ∧
          engine' location geometry ≠ engine location geometry))
      (geofences.filter (evaluable tenant))
      ((evaluate engine tenant location geofences).zip
        (evaluate engine' tenant location geofences)) := by
  rw [evaluate_eq_map, evaluate_eq_map, List.zip_map', List.forall₂_map_right_iff,
    List.forall₂_same]
  intro g _
  refine ⟨rfl, (measure_eq_or engine engine' location g.shape).imp_left fun hsame => ?_⟩
  rw [hsame]

/-- There is one finding for each geofence that is evaluated. -/
theorem length_evaluate (engine : Geo.Engine) (tenant : Uuid) (location : Coordinate)
    (geofences : List Geofence) :
    (evaluate engine tenant location geofences).length =
      (geofences.filter (evaluable tenant)).length := by
  rw [evaluate_eq_map, List.length_map]

/-- Geofences are evaluated one by one. The tracker's evaluation always comes to an end, and an
engine whose answers depend on the question alone finds exactly one thing about each geofence of the
tenant that is active and well formed, in order and without a transition: what it finds about that
geofence alone. So the findings about two lists are those about the one and those about the other.
Two engines find equally much, and what they find differs in no more than the membership of those
geofences on which their answers differ; a geofence on which an engine fails counts as outside and
infinitely far away. -/
theorem evaluated_one_by_one (engine : Geo.Engine) (tenant : Uuid) (location : Coordinate)
    (geofences : List Geofence) :
    (∀ (env : Surroundings) (w : World), ((Tracker.evaluate tenant location geofences).run
      { env with engine := fun _ => engine } w).1 =
        some (evaluate engine tenant location geofences)) ∧
    (∀ g, evaluable tenant g = true ↔
      g.tenant = tenant ∧ g.active = true ∧ g.shape.check = .ok ()) ∧
    List.Forall₂
      (fun g f => evaluate engine tenant location [g] = [f] ∧ f.Measures engine location g)
      (geofences.filter (evaluable tenant)) (evaluate engine tenant location geofences) ∧
    (∀ more, evaluate engine tenant location (geofences ++ more) =
      evaluate engine tenant location geofences ++ evaluate engine tenant location more) ∧
    ∀ engine', (evaluate engine' tenant location geofences).length =
        (evaluate engine tenant location geofences).length ∧
      List.Forall₂
        (fun g (p : Finding × Finding) =>
          p.2 = { p.1 with inside := p.2.inside, meters := p.2.meters } ∧
          (p.2 = p.1 ∨ ∃ geometry, g.shape = .polygon geometry ∧
            engine' location geometry ≠ engine location geometry))
        (geofences.filter (evaluable tenant))
        ((evaluate engine tenant location geofences).zip
          (evaluate engine' tenant location geofences)) := by
  -- Each part is a lemma about the evaluation alone, which does not depend on the world.
  refine ⟨fun env w => ?_, fun _ => evaluable_iff, forall₂_evaluate engine tenant location _,
    evaluate_append engine tenant location geofences, fun engine' => ⟨?_, ?_⟩⟩
  · rw [Tracker.evaluate, run_evaluateWith, evaluate_of_engine fun _ => rfl]
  · rw [length_evaluate, length_evaluate]
  · exact forall₂_evaluate_engines engine engine' tenant location geofences

end Membership

end Geofencing
