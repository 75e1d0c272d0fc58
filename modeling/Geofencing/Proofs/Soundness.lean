import Geofencing.Proofs.Integrity

/-!
# Soundness of what is stored

Whatever clients send, a geofence is stored only with a shape that can be evaluated and lies within
the limits of the interface, and a report only with values that make sense. Two checks see to that:
the rules for single fields, and the one that makes a shape of them. `Store.Sound` is what they
achieve together, and no request ever breaks it: `Http.App.Reachable.sound`.

An active geofence of a sound store is therefore never passed over when a location is evaluated:
`Http.App.well_formedness`.
-/

namespace Geofencing

/-! ## Limits -/

/-- A latitude and a longitude in range. -/
def Coordinate.InRange (c : Coordinate) : Prop :=
  (-90 ≤ c.latitude ∧ c.latitude ≤ 90) ∧ -180 ≤ c.longitude ∧ c.longitude ≤ 180

/-- A circle on the map with a radius of at most fifty kilometers, or a polygon with coordinates. -/
def Shape.WithinLimits : Shape → Prop
  | .circle center radius => center.InRange ∧ 0 < radius ∧ radius ≤ 50000
  | .polygon geometry =>
    (geometry.get? "type" = some (.str "Polygon") ∨
      geometry.get? "type" = some (.str "MultiPolygon")) ∧
    ∃ items, geometry.get? "coordinates" = some (.arr items) ∧ items ≠ []

/-- An observation with values that make sense, as far as they are known. -/
structure Observation.WithinLimits (o : Observation) : Prop where
  coordinate : o.coordinate.InRange
  accuracy : ∀ x, o.accuracy = some x → 0 ≤ x
  heading : ∀ x, o.heading = some x → 0 ≤ x ∧ x ≤ 360
  speed : ∀ x, o.speed = some x → 0 ≤ x
  batteryLevel : ∀ n, o.batteryLevel = some n → 0 ≤ n ∧ n ≤ 100

/-! ## What the rules for single fields achieve -/

namespace Violations

/-- A field is without violations if its rule finds none. -/
@[simp]
theorem field_eq_nil_iff {name : String} {v : Option Violation} : field name v = [] ↔ v = none := by
  cases v <;> simp [field]

/-- A field that may be left out is without violations if its rule finds none in a value. -/
@[simp]
theorem optionalField_eq_nil_iff {α : Type} {name : String} {rule : α → Option Violation}
    {value : Option α} :
    optionalField name rule value = [] ↔ ∀ a, value = some a → rule a = none := by
  cases value <;> simp [optionalField]

end Violations

namespace Validation

@[simp]
theorem expect_eq_none_iff {ok : Bool} {v : Violation} : expect ok v = none ↔ ok = true := by
  cases ok <;> simp [expect]

/-- A geometry that the rule for polygons accepts has the type of one and some coordinates. -/
theorem withinLimits_of_polygon {geometry : Json} (h : polygon geometry = none) :
    (Shape.polygon geometry).WithinLimits := by
  have htype : ∀ text, (geometry.get? "type").bind Json.str? = some text →
      geometry.get? "type" = some (.str text) := by
    intro text htext
    obtain ⟨value, hvalue, hstr⟩ := Option.bind_eq_some_iff.1 htext
    cases value with
    | str s => rw [hvalue, Option.some_inj.1 hstr]
    | null | bool | num | arr | obj => cases hstr
  simp only [polygon] at h
  split at h
  · rename_i hpolygon
    split at h
    · rename_i item rest hitems
      obtain ⟨value, hvalue, harr⟩ := Option.bind_eq_some_iff.1 hitems
      cases value with
      | arr items =>
        rw [Json.items?, Option.some_inj] at harr
        refine ⟨hpolygon.imp (htype _) (htype _), items, hvalue, ?_⟩
        rw [harr]
        exact List.cons_ne_nil item rest
      | null | bool | num | str | obj => cases harr
    · cases h
  · cases h

end Validation

/-- A coordinate that is made from a latitude and a longitude has them, and they are in range. -/
theorem Coordinate.inRange_of_make {latitude longitude : Float} {c : Coordinate}
    (h : make latitude longitude = .ok c) :
    c.InRange ∧ c.latitude = latitude ∧ c.longitude = longitude := by
  rw [make] at h
  split at h
  · cases h
  · split at h
    · cases h
    · rename_i hlatitude hlongitude
      cases h
      simp only [Option.not_isSome_iff_eq_none, Validation.latitude, Validation.longitude,
        Validation.expect_eq_none_iff, Bool.and_eq_true, decide_eq_true_eq] at hlatitude hlongitude
      exact ⟨⟨hlatitude, hlongitude⟩, rfl, rfl⟩

namespace Shape

/-- A shape within the limits of the interface that can be evaluated. -/
def Sound (s : Shape) : Prop :=
  s.WithinLimits ∧ s.wellFormed = true

/-- A shape that passes the check is left as it is and has no fault. -/
theorem eq_of_checked {s s' : Shape} (h : s.checked = .ok s') : s' = s ∧ s.fault? = none := by
  rw [checked] at h
  split at h
  · cases h
    exact ⟨rfl, by assumption⟩
  · cases h

/-- Columns without a violation that make a shape make a sound one. -/
theorem sound_of_ofColumns {c : ShapeColumns} {s : Shape} (hvalid : c.violations = [])
    (h : ofColumns c = .ok s) : s.Sound := by
  rw [ofColumns] at h
  split at h
  · rename_i latitude longitude radius _ _ hradius _
    split at h
    · cases h
    · -- That the radius is positive and not too large is checked as a field, that it is a number of
      -- meters at all when the shape is made.
      rename_i center hcenter
      obtain ⟨rfl, hfault⟩ := eq_of_checked h
      simp only [ShapeColumns.violations, List.append_eq_nil_iff,
        Violations.optionalField_eq_nil_iff, Validation.radius, Validation.expect_eq_none_iff,
        Bool.and_eq_true, decide_eq_true_eq] at hvalid
      refine ⟨⟨(Coordinate.inRange_of_make hcenter).1, hvalid.2.2 radius hradius⟩, ?_⟩
      rw [wellFormed, hfault, Option.isNone_none]
  · rename_i geometry _ _ _ _
    obtain ⟨rfl, hfault⟩ := eq_of_checked h
    refine ⟨Validation.withinLimits_of_polygon (Option.map_eq_none_iff.1 hfault), ?_⟩
    rw [wellFormed, hfault, Option.isNone_none]
  · cases h
  · cases h

end Shape

/-- A request that changes a geofence leaves it a sound shape. -/
theorem UpdateGeofence.sound_apply {r : UpdateGeofence} {now : Instant} {old g : Geofence}
    (hvalid : r.violations = []) (hold : old.shape.Sound) (h : r.apply now old = .ok g) :
    g.shape.Sound := by
  rw [apply, newShape] at h
  split at h
  · cases h
  · rename_i shape hshape
    cases h
    split at hshape
    · -- No field of the shape was sent.
      cases hshape
      exact hold
    · obtain ⟨new, hnew, rfl⟩ : ∃ new, Shape.ofColumns r.shape = .ok new ∧ some new = shape := by
        cases hcolumns : Shape.ofColumns r.shape with
        | error fault =>
          rw [hcolumns] at hshape
          cases hshape
        | ok new =>
          rw [hcolumns] at hshape
          exact ⟨new, rfl, Except.ok.inj hshape⟩
      exact Shape.sound_of_ofColumns (List.append_eq_nil_iff.1 hvalid).2 hnew

/-- What a request without a violation reports is within limits. -/
theorem SubmitLocation.withinLimits_of_observation {r : SubmitLocation} {now now' : Instant}
    {o : Observation} (hvalid : r.violations now = []) (h : r.observation now' = .ok o) :
    o.WithinLimits := by
  simp only [violations, List.append_eq_nil_iff, Violations.optionalField_eq_nil_iff,
    Violations.field_eq_nil_iff, Validation.accuracy, Validation.heading, Validation.speed,
    Validation.battery, Validation.expect_eq_none_iff, Bool.and_eq_true,
    decide_eq_true_eq] at hvalid
  obtain ⟨-, -, haccuracy, hheading, hspeed, hbattery, -⟩ := hvalid
  unfold observation at h
  split at h
  · cases h
  · rename_i coordinate hcoordinate
    have hrange := (Coordinate.inRange_of_make hcoordinate).1
    -- With or without a timestamp, all but the time is taken over from the request.
    split at h
    · cases h
      exact ⟨hrange, haccuracy, hheading, hspeed, hbattery⟩
    · split at h
      · cases h
        exact ⟨hrange, haccuracy, hheading, hspeed, hbattery⟩
      · cases h

/-! ## Sound stores -/

/-- All geofences have a sound shape, and all reports are within limits. -/
structure Store.Sound (s : Store) : Prop where
  geofences : ∀ entry ∈ s.geofences, entry.2.shape.Sound
  reports : ∀ r ∈ s.reports, r.observation.WithinLimits

namespace Store

variable {s : Store} {tenant id : Uuid} {g : Geofence}

theorem sound_empty : Store.empty.Sound :=
  ⟨fun _ h => absurd h List.not_mem_nil, fun _ h => absurd h List.not_mem_nil⟩

/-- A geofence that a tenant finds is in the store. -/
theorem mem_of_find (h : s.find tenant id = some g) : (id, g) ∈ s.geofences := by
  obtain ⟨before, after, hsplit, -⟩ := List.lookup_eq_some_iff.1 (find_eq_some_iff.1 h).1
  rw [hsplit]
  exact List.mem_append_right _ List.mem_cons_self

/-- A sound geofence may be added. -/
theorem Sound.insert (h : s.Sound) (hg : g.shape.Sound) : (s.insert g).Sound := by
  refine ⟨fun entry hentry => ?_, h.reports⟩
  rcases List.mem_append.1 hentry with hold | hnew
  · exact h.geofences entry hold
  · rw [List.mem_singleton.1 hnew]
    exact hg

theorem Sound.replace (h : s.Sound) (hg : g.shape.Sound) : (s.replace g).Sound := by
  refine ⟨fun entry hentry => ?_, h.reports⟩
  obtain ⟨old, hold, rfl⟩ := List.mem_map.1 hentry
  dsimp only
  split
  · exact hg
  · exact h.geofences old hold

theorem Sound.remove (h : s.Sound) (id : Uuid) : (s.remove id).Sound :=
  ⟨fun entry hentry => h.geofences entry (List.mem_filter.1 hentry).1, h.reports⟩

theorem Sound.purge (h : s.Sound) (scope : Option Uuid) (cutoff : Instant) :
    (s.purge scope cutoff).Sound :=
  ⟨h.geofences, fun r hr => h.reports r (List.mem_filter.1 hr).1⟩

/-- In a sound store every active geofence of a tenant is evaluated. -/
theorem Sound.evaluable_of_mem_list (h : s.Sound) (hg : g ∈ s.list tenant false) :
    Membership.evaluable tenant g = true := by
  rw [list, List.mem_mergeSort, List.mem_filter, Bool.false_or] at hg
  obtain ⟨entry, hentry, rfl⟩ := List.mem_map.1 hg.1
  rw [Membership.evaluable, hg.2, (h.geofences entry hentry).2]
  rfl

end Store

/-- A submission within limits keeps the store sound, wherever it stops. -/
theorem Tracker.Submitted.sound {env : Surroundings} {w w' : World} {tenant actor : Uuid}
    {o : Observation} {result : Option (Except DomainError Outcome)}
    (h : Submitted env tenant actor o w result w') (hsound : w.store.Sound)
    (ho : o.WithinLimits) : w'.store.Sound := by
  refine ⟨h.geofences ▸ hsound.geofences, ?_⟩
  obtain hsame | hadded := h.reports
  · rw [hsame]
    exact hsound.reports
  · intro r hr
    rw [hadded, List.mem_append, List.mem_singleton] at hr
    rcases hr with hold | rfl
    · exact hsound.reports r hold
    · exact ho

namespace Http

/-- Every deed keeps the store sound. -/
theorem Deed.sound {app : App} {env : Surroundings} {req : Request} {w w' : World}
    {asked : Method} {resource : Option Resource} {result : Option (Except Refusal Response)}
    (h : Deed app env req w asked resource result w') (hsound : w.store.Sound) :
    w'.store.Sound := by
  cases h with
  | nothing store => exact store ▸ hsound
  | submitted _ _ valid observed submitted =>
    refine submitted.sound hsound ?_
    exact SubmitLocation.withinLimits_of_observation (List.isEmpty_iff.1 valid) observed
  | created _ _ _ valid shape_eq made _ =>
    subst made
    refine hsound.insert (Shape.sound_of_ofColumns ?_ shape_eq)
    exact (List.append_eq_nil_iff.1 (List.isEmpty_iff.1 valid)).2
  | updated _ _ _ _ valid found applied _ =>
    -- An update without a shape keeps the stored one, which is sound already.
    have hold := hsound.geofences _ (Store.mem_of_find found)
    exact hsound.replace (UpdateGeofence.sound_apply (List.isEmpty_iff.1 valid) hold applied)
  | deleted => exact hsound.remove _
  | purged => exact hsound.purge _ _

namespace App

variable {app : App} {env : Surroundings} {w : World}

/-- The store is sound in every reachable world. -/
theorem Reachable.sound (h : app.Reachable env w) : w.store.Sound :=
  h.store_induction Store.sound_empty Deed.sound fun hsound => hsound.purge _ _

/-- What a submission finds in a reachable world is about the active geofences of the tenant, one
by one. -/
theorem Reachable.map_geofence_found (h : app.Reachable env w) (tenant actor : Uuid)
    (o : Observation) : (env.found w tenant actor o).map Finding.geofence =
      (w.store.list tenant false).map Geofence.id := by
  have hall : (w.store.list tenant false).filter (Membership.evaluable tenant) =
      w.store.list tenant false :=
    List.filter_eq_self.2 fun g hg => h.sound.evaluable_of_mem_list hg
  have hids : (env.now w tenant actor o).1.map Finding.geofence = _ :=
    Membership.map_geofence_evaluate env _ tenant o.coordinate (w.store.list tenant false)
  rw [hall] at hids
  rw [← hids, Surroundings.found, Membership.transitions, List.map_map]
  rfl

/-- Well-formedness. In every reachable world, each stored geofence is a circle or a polygon within
the limits of the interface, each stored report is within limits, and a submission passes over no
active geofence: what it returns holds exactly one finding for each active geofence of the tenant,
and it does return if its location is valid and no store call is refused. -/
theorem well_formedness (h : app.Reachable env w) :
    (∀ entry ∈ w.store.geofences, entry.2.shape.WithinLimits) ∧
    (∀ r ∈ w.store.reports, r.observation.WithinLimits) ∧
    ∀ tenant actor o,
      let out := (Tracker.submit tenant actor o).run.run env w
      (∀ outcome, out.1 = some (.ok outcome) →
        (outcome.findings.map Finding.geofence).Nodup ∧
        (outcome.findings.map Finding.geofence).Perm
          (((w.store.geofences.map Prod.snd).filter fun g =>
            g.tenant == tenant && g.active).map Geofence.id)) ∧
      (o.coordinate.validate = .ok () → env.Grants (fun _ => True) w out.2 →
        ∃ outcome, out.1 = some (.ok outcome)) := by
  refine ⟨fun entry hentry => (h.sound.geofences entry hentry).1, h.sound.reports, ?_⟩
  intro tenant actor o out
  have hsubmitted : Tracker.Submitted env tenant actor o w out.1 out.2 :=
    Tracker.submitted_run env w tenant actor o
  refine ⟨fun outcome houtcome => ?_, hsubmitted.exists_outcome⟩
  rw [houtcome] at hsubmitted
  -- In a sound store every active geofence is evaluated, so the findings are those of the
  -- listing.
  rw [hsubmitted.findings_eq, h.map_geofence_found]
  refine ⟨w.store.nodup_list h.indexed_owned.1 false, ?_⟩
  have hlisted := (w.store.list_perm tenant false).map Geofence.id
  simpa only [Bool.false_or] using hlisted

end App

end Http

/-! ### A museum with two halls -/

namespace Campus

/-- The museum adds a round hall, and sends a blank for its name. -/
def blanking : Http.Request :=
  { opening with
    body := Utf8.encode
      ("\x7b\"name\":\" \",\"geofenceType\":\"CUSTOM\"," ++
        "\"centerLatitude\":1,\"centerLongitude\":1,\"radiusMeters\":5\x7d").toList }

/-- After the museum has marked its hall, somebody was observed there, and the round one was added,
all three rows are stored, the last without a name. -/
theorem exists_furnished : ∃ w, app.Reachable surroundings w ∧
    (w.store.geofences.map fun entry => (entry.2.tenant == museum && entry.2.active),
      w.store.geofences.getLast?.map fun entry => entry.2.name.length,
      w.store.reports.length) = ([true, true], some 0, 1) := by
  have hblanking : app.handle blanking = app.around blanking .geofences
      (Http.Api.createGeofence app.verifier blanking) := Http.App.handle_eq_around rfl rfl
  refine ⟨_, .request (.request (.request .start hosting) visiting) blanking, ?_⟩
  simp only [handle_hosting, handle_visiting, hblanking, Http.Api.createGeofence,
    Http.Api.submitLocation, @caller_opening hosting rfl, @caller_opening visiting rfl,
    @caller_opening blanking rfl]
  decide +kernel

end Campus

/-- The halls and the report are within limits, and whoever comes to the museum next is looked for
in both halls. -/
theorem Http.App.well_formedness_campus : ∃ w, Campus.app.Reachable Campus.surroundings w ∧
    w.store.geofences.length = 2 ∧ w.store.reports.length = 1 ∧
    (∀ entry ∈ w.store.geofences, entry.2.shape.WithinLimits) ∧
    (∀ r ∈ w.store.reports, r.observation.WithinLimits) ∧
    ∃ outcome, ((Tracker.submit Campus.museum Campus.pupil Campus.inside).run.run
        Campus.surroundings w).1 = some (.ok outcome) ∧ outcome.findings.length = 2 := by
  obtain ⟨w, hreachable, hfurnished⟩ := Campus.exists_furnished
  simp only [Prod.mk.injEq] at hfurnished
  obtain ⟨hgeofences, -, hreports⟩ := hfurnished
  obtain ⟨hshapes, hobservations, hsubmit⟩ := well_formedness hreachable
  obtain ⟨hfindings, hreturns⟩ := hsubmit Campus.museum Campus.pupil Campus.inside
  obtain ⟨outcome, houtcome⟩ := hreturns rfl fun _ _ _ _ _ => rfl
  have hlength : w.store.geofences.length = 2 := by
    rw [← List.length_map, hgeofences]
    rfl
  -- Both geofences are of the museum and active.
  have hall : ∀ g ∈ w.store.geofences.map Prod.snd,
      (g.tenant == Campus.museum && g.active) = true := by
    intro g hg
    obtain ⟨entry, hentry, rfl⟩ := List.mem_map.1 hg
    have hmem := List.mem_map_of_mem
      (f := fun entry : Uuid × Geofence => entry.2.tenant == Campus.museum && entry.2.active) hentry
    rw [hgeofences] at hmem
    simpa using hmem
  refine ⟨w, hreachable, hlength, hreports, hshapes, hobservations, outcome, houtcome, ?_⟩
  have hperm := (hfindings outcome houtcome).2.length_eq
  rw [List.filter_eq_self.2 hall, List.length_map, List.length_map, List.length_map,
    hlength] at hperm
  exact hperm

end Geofencing
