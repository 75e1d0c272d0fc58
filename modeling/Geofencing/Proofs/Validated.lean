import Geofencing.Proofs.Columns
import Geofencing.Proofs.Interruption
import Geofencing.Proofs.Reach

/-!
# What a valid request to report a position comes to

A position is looked at three times before it is stored: by the rules for single fields, when an
observation is made of the request, and at the start of a submission. The rules refuse more than the
other two, so once a request has passed them, only the store can refuse what follows.

* `Instant.ofMillis?_eq_some_iff`: which milliseconds are those of an instant, and of which one.
* `SubmitLocation.observation_eq_ok_iff`: which requests describe an observation, and which one.
* `Tracker.run_submit_of_inRange`: a position in range is refused by the store only.
* `SubmitLocation.valid_accepted`: all of it, for requests without a violation.
-/

namespace Geofencing

/-! ## Milliseconds -/

namespace Instant

variable {t u now : Instant} {millis : Int}

/-- An instant lies exactly a number of milliseconds after the epoch, and not in a leap second. -/
def IsMillis (t : Instant) (millis : Int) : Prop :=
  t.nanos < 1000000000 ∧ t.seconds * 1000000000 + t.nanos = millis * 1000000

instance (t : Instant) (millis : Int) : Decidable (t.IsMillis millis) :=
  inferInstanceAs (Decidable (_ ∧ _))

/-- The milliseconds from the first second within reach to the end of the last one. -/
def Representable (millis : Int) : Prop :=
  minSeconds * 1000 ≤ millis ∧ millis < (maxSeconds + 1) * 1000

/-- An instant lies between seven days before another one and five minutes after it. -/
def Recent (t now : Instant) : Prop :=
  notAfter ⟨now.seconds - 7 * 86400, now.nanos⟩ t = true ∧
    t.notAfter ⟨now.seconds + 300, now.nanos⟩ = true

/-- A number of milliseconds has one instant at most. -/
theorem IsMillis.unique (ht : t.IsMillis millis) (hu : u.IsMillis millis) : t = u := by
  obtain ⟨seconds, nanos⟩ := t
  obtain ⟨seconds', nanos'⟩ := u
  simp only [IsMillis] at ht hu
  rw [mk.injEq]
  omega

/-- Milliseconds within reach are read as the instant that they count. -/
theorem ofMillis?_eq_some_iff :
    ofMillis? millis = some t ↔ t.IsMillis millis ∧ Representable millis := by
  have hrange : inRange (millis / 1000) = true ↔ Representable millis := by
    rw [inRange_iff, Representable, minSeconds, maxSeconds]
    omega
  -- The instant that is read counts as many milliseconds.
  have hmillis : IsMillis ⟨millis / 1000, (millis % 1000).toNat * 1000000⟩ millis := by
    simp only [IsMillis]
    omega
  rw [ofMillis?]
  split
  · rename_i hin
    rw [Option.some_inj]
    constructor
    · rintro rfl
      exact ⟨hmillis, hrange.1 hin⟩
    · rintro ⟨ht, -⟩
      exact hmillis.unique ht
  · rename_i hout
    refine ⟨nofun, ?_⟩
    rintro ⟨-, hrepresentable⟩
    exact absurd (hrange.2 hrepresentable) hout

/-- Milliseconds are read just when they are within reach. -/
theorem exists_ofMillis?_iff : (∃ t, ofMillis? millis = some t) ↔ Representable millis := by
  constructor
  · rintro ⟨t, ht⟩
    exact (ofMillis?_eq_some_iff.1 ht).2
  · intro hrepresentable
    have hin : inRange (millis / 1000) = true := by
      rw [inRange_iff]
      simp only [Representable, minSeconds, maxSeconds] at hrepresentable ⊢
      omega
    exact ⟨_, if_pos hin⟩

end Instant

/-! ## Requests -/

namespace SubmitLocation

variable {r : SubmitLocation} {now : Instant} {o : Observation}

/-- The position that a request reports. -/
def position (r : SubmitLocation) : Coordinate := ⟨r.latitude, r.longitude⟩

/-- An observation is the one that a request describes at an instant. -/
structure Describes (r : SubmitLocation) (now : Instant) (o : Observation) : Prop where
  coordinate : o.coordinate = r.position
  accuracy : o.accuracy = r.accuracy
  altitude : o.altitude = r.altitude
  heading : o.heading = r.heading
  speed : o.speed = r.speed
  batteryLevel : o.batteryLevel = r.batteryLevel
  device : o.device = r.device
  /-- Without a timestamp the position was observed now. -/
  untimed : r.timestamp = none → o.recordedAt = now
  /-- A timestamp is the instant of the observation in milliseconds. -/
  timed : ∀ millis, r.timestamp = some millis → o.recordedAt.IsMillis millis

/-- A request describes at most one observation. -/
theorem Describes.unique {o' : Observation} (h : r.Describes now o) (h' : r.Describes now o') :
    o = o' := by
  have hrecordedAt : o.recordedAt = o'.recordedAt := by
    cases hr : r.timestamp with
    | none => rw [h.untimed hr, h'.untimed hr]
    | some millis => exact (h.timed millis hr).unique (h'.timed millis hr)
  cases o
  cases o'
  simp only at hrecordedAt
  rw [Observation.mk.injEq]
  exact ⟨h.coordinate.trans h'.coordinate.symm, h.accuracy.trans h'.accuracy.symm,
    h.altitude.trans h'.altitude.symm, h.heading.trans h'.heading.symm,
    h.speed.trans h'.speed.symm, h.batteryLevel.trans h'.batteryLevel.symm,
    h.device.trans h'.device.symm, hrecordedAt⟩

/-- A position is made just when it is in range. -/
theorem make_position_iff {c : Coordinate} :
    Coordinate.make r.latitude r.longitude = .ok c ↔ c = r.position ∧ r.position.InRange := by
  rw [Coordinate.make_eq_ok_iff]
  constructor
  · rintro ⟨hin, hlatitude, hlongitude⟩
    obtain rfl : c = r.position := by
      rw [position, ← hlatitude, ← hlongitude]
    exact ⟨rfl, hin⟩
  · rintro ⟨rfl, hin⟩
    exact ⟨hin, rfl, rfl⟩

/-- Both the range of the position and the reach of the timestamp are needed. -/
theorem exists_observation_iff :
    (∃ o, r.observation now = .ok o) ↔
      r.position.InRange ∧ ∀ millis, r.timestamp = some millis → Instant.Representable millis := by
  unfold observation
  cases hmake : Coordinate.make r.latitude r.longitude with
  | error e =>
    have hout : ¬r.position.InRange := by
      intro hin
      rw [make_position_iff.2 ⟨rfl, hin⟩] at hmake
      cases hmake
    simp [hout]
  | ok coordinate =>
    obtain ⟨-, hin⟩ := make_position_iff.1 hmake
    cases r.timestamp with
    | none => simp [hin]
    | some millis =>
      simp only [hin, true_and, Option.some.injEq, forall_eq']
      rw [← Instant.exists_ofMillis?_iff]
      cases Instant.ofMillis? millis with
      | none => simp
      | some t => simp

/-- An observation that was made of a request is the one it describes. -/
theorem describes_of_observation (h : r.observation now = .ok o) : r.Describes now o := by
  unfold observation at h
  split at h
  · cases h
  · rename_i coordinate hmake
    obtain ⟨hposition, -⟩ := make_position_iff.1 hmake
    -- Without a time of its own, an observation is as old as the request.
    cases hr : r.timestamp with
    | none =>
      rw [hr] at h
      cases h
      exact {
        coordinate := hposition, accuracy := rfl, altitude := rfl, heading := rfl, speed := rfl
        batteryLevel := rfl, device := rfl
        untimed := fun _ => rfl
        timed := by rw [hr]; nofun }
    | some millis =>
      simp only [hr] at h
      split at h
      · rename_i t ht
        cases h
        exact {
          coordinate := hposition, accuracy := rfl, altitude := rfl, heading := rfl, speed := rfl
          batteryLevel := rfl, device := rfl
          untimed := by rw [hr]; nofun
          timed := by
            rw [hr]
            rintro _ ⟨⟩
            exact (Instant.ofMillis?_eq_some_iff.1 ht).1 }
      · cases h

/-- A request makes an observation exactly if it describes it and can make one at all. -/
theorem observation_eq_ok_iff :
    r.observation now = .ok o ↔ r.Describes now o ∧ r.position.InRange ∧
      ∀ millis, r.timestamp = some millis → Instant.Representable millis := by
  constructor
  · intro h
    exact ⟨describes_of_observation h, exists_observation_iff.1 ⟨o, h⟩⟩
  · rintro ⟨hdescribes, hmakes⟩
    obtain ⟨o', ho'⟩ := exists_observation_iff.2 hmakes
    rw [ho', hdescribes.unique (describes_of_observation ho')]

/-- The rules for single fields refuse whatever makes no observation. -/
theorem exists_observation_of_valid (hvalid : r.violations now = []) :
    ∃ o, r.observation now = .ok o := by
  simp only [violations, List.append_eq_nil_iff, Violations.field_eq_nil_iff,
    Violations.optionalField_eq_nil_iff] at hvalid
  obtain ⟨hlatitude, hlongitude, -, -, -, -, htimestamp⟩ := hvalid
  rw [exists_observation_iff]
  constructor
  · simp only [Validation.latitude, Validation.longitude, Validation.expect_eq_none_iff,
      Bool.and_eq_true, decide_eq_true_eq] at hlatitude hlongitude
    exact ⟨hlatitude, hlongitude⟩
  · intro millis hmillis
    obtain ⟨t, ht, -, -⟩ := Validation.timestamp_eq_none_iff.1 (htimestamp millis hmillis)
    exact (Instant.ofMillis?_eq_some_iff.1 ht).2

end SubmitLocation

/-! ## Submissions -/

/-- A position in range passes the check at the start of a submission, and no later step but a store
call can fail. -/
theorem Tracker.run_submit_of_inRange {o : Observation} (hin : o.coordinate.InRange)
    (env : Surroundings) (w : World) (tenant actor : Uuid) :
    let out := (submit tenant actor o).run.run env w
    (∃ outcome, out.1 = some (.ok outcome)) ∨
      ∃ m e, out.1 = some (.error e) ∧ env.StoppedBy w out.2 m e := by
  intro out
  have hsubmitted : Submitted env tenant actor o w out.1 out.2 := submitted_run env w tenant actor o
  generalize out.1 = result, out.2 = w' at hsubmitted ⊢
  cases hsubmitted with
  | invalid hinvalid =>
    rw [Coordinate.validate, Coordinate.make_eq_ok_iff.2 ⟨hin, rfl, rfl⟩] at hinvalid
    cases hinvalid
  | rejected _ _ hrefused hsince hcalls _ =>
    exact .inr ⟨_, _, rfl, _, hsince, hcalls, hrefused, rfl⟩
  | accepted => exact .inl ⟨_, rfl⟩
  | interrupted _ _ _ hrecorded hrefused =>
    exact .inr ⟨_, _, rfl, _, World.calls_reported.trans hrecorded.calls, rfl, hrefused, rfl⟩

/-- A request makes an observation exactly if its position is in range and its timestamp is within
reach. Without a violation it does, the observation carries all of its values and was made recently,
and a submission of it fails only with the error of a store call that is refused. -/
theorem SubmitLocation.valid_accepted (r : SubmitLocation) (now : Instant) :
    ((∃ o, r.observation now = .ok o) ↔
      r.position.InRange ∧ ∀ millis, r.timestamp = some millis → Instant.Representable millis) ∧
    (r.violations now = [] → ∃ o, r.observation now = .ok o ∧ r.Describes now o ∧
      o.recordedAt.Recent now ∧
      ∀ (env : Surroundings) (w : World) (tenant actor : Uuid),
        let out := (Tracker.submit tenant actor o).run.run env w
        (∃ outcome, out.1 = some (.ok outcome)) ∨
          ∃ m e, out.1 = some (.error e) ∧ env.StoppedBy w out.2 m e) := by
  refine ⟨exists_observation_iff, fun hvalid => ?_⟩
  -- Valid requests are in range and have times within reach.
  obtain ⟨o, ho⟩ := exists_observation_of_valid hvalid
  obtain ⟨hdescribes, hin, -⟩ := observation_eq_ok_iff.1 ho
  obtain ⟨hfuture, hold⟩ := observed_within hvalid ho
  refine ⟨o, ho, hdescribes, ⟨?_, ?_⟩, ?_⟩
  · rw [Instant.notAfter, hold, Bool.not_false]
  · rw [Instant.notAfter, hfuture, Bool.not_false]
  · rw [← hdescribes.coordinate] at hin
    exact Tracker.run_submit_of_inRange hin

/-! ### A day before the epoch -/

namespace Campus

/-- The pupil is at the equator, seen a second and a half before the epoch. -/
def early : SubmitLocation :=
  { latitude := 0, longitude := 180, accuracy := none, altitude := some (-3), heading := none,
    speed := none, batteryLevel := some 100, timestamp := some (-1500), device := .unknown }

end Campus

/-- The timestamp lies before the epoch, so the second is rounded down. -/
theorem SubmitLocation.valid_accepted_campus :
    Campus.early.violations ⟨100, 500000000⟩ = [] ∧
    ∃ o, Campus.early.observation ⟨100, 500000000⟩ = .ok o ∧ o.recordedAt = ⟨-2, 500000000⟩ ∧
      ∃ outcome, ((Tracker.submit Campus.school Campus.pupil o).run.run Campus.surroundings
        Campus.morning).1 = some (.ok outcome) := by
  have hvalid : Campus.early.violations ⟨100, 500000000⟩ = [] := by decide +kernel
  obtain ⟨o, ho, hdescribes, -, hsubmit⟩ := (valid_accepted Campus.early _).2 hvalid
  have hrecordedAt : o.recordedAt.IsMillis (-1500) := hdescribes.timed _ rfl
  refine ⟨hvalid, o, ho, hrecordedAt.unique (by decide), ?_⟩
  -- The surroundings of the campus refuse nothing.
  obtain hstored | ⟨m, e, -, earlier, -, -, hrefused, -⟩ :=
    hsubmit Campus.surroundings Campus.morning Campus.school Campus.pupil
  · exact hstored
  · cases hrefused

end Geofencing
