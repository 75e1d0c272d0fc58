import Geofencing.Proofs.Administration
import Geofencing.Proofs.Integrity
import Geofencing.Proofs.Operation
import Geofencing.Proofs.Purge
import Geofencing.Proofs.Soundness

/-!
# How long an accepted report is kept

A location is accepted if it was observed at most seven days ago and at most five minutes ahead of
the clock (`SubmitLocation.observed_within`). A purge removes what was observed more than the
retention before it (`Tracker.purge_cases`). Counted from the instant at which the location was
accepted, every purge up to seven days short of the retention keeps the report, and every purge more
than five minutes after the retention removes it: `Http.App.retention_window`.
-/

namespace Geofencing

/-! ## Shifted instants -/

namespace Instant

variable {t u : Instant}

theorem eq_of_addSeconds? {seconds : Int} (h : t.addSeconds? seconds = some u) :
    u = ⟨t.seconds + seconds, t.nanos⟩ := by
  rw [addSeconds?] at h
  split at h
  · exact (Option.some_inj.1 h).symm
  · cases h

/-- A number of days earlier the clock shows the same, unless it shows a leap second. -/
theorem of_subDays? {days : Nat} (h : t.subDays? days = some u) :
    u = ⟨t.seconds - 86400 * days, t.nanos⟩ ∨
      1000000000 ≤ t.nanos ∧
        u = ⟨t.seconds + 1 - 86400 * days, t.nanos - 1000000000⟩ := by
  rw [subDays?] at h
  split at h
  · rename_i hdays
    rw [eq_of_addSeconds? h, hdays]
    simp
  · rw [eq_of_addSeconds? h, settle]
    split
    · rename_i hleap
      exact .inr ⟨hleap, rfl⟩
    · exact .inl rfl

end Instant

/-! ## When accepted locations were observed -/

theorem Validation.timestamp_eq_none_iff {now : Instant} {millis : Int} :
    timestamp now millis = none ↔ ∃ t, Instant.ofMillis? millis = some t ∧
      Instant.before ⟨now.seconds + futureTolerance, now.nanos⟩ t = false ∧
      t.before ⟨now.seconds - maxAge, now.nanos⟩ = false := by
  rw [timestamp]
  cases Instant.ofMillis? millis with
  | none => simp
  | some t =>
    simp only [Option.some.injEq, exists_eq_left']
    split
    · rename_i hfuture
      simp [hfuture]
    · rename_i hfuture
      simp [hfuture]

/-- A location that is accepted was observed at most seven days before and at most five minutes
after the instant at which it was checked. -/
theorem SubmitLocation.observed_within {r : SubmitLocation} {now : Instant} {o : Observation}
    (hvalid : r.violations now = []) (h : r.observation now = .ok o) :
    Instant.before ⟨now.seconds + 300, now.nanos⟩ o.recordedAt = false ∧
      o.recordedAt.before ⟨now.seconds - 7 * 86400, now.nanos⟩ = false := by
  simp only [violations, List.append_eq_nil_iff, Violations.optionalField_eq_nil_iff] at hvalid
  obtain ⟨-, -, -, -, -, -, htimestamp⟩ := hvalid
  unfold observation at h
  split at h
  · cases h
  · split at h
    · -- Without a timestamp the location was observed now.
      cases h
      simp only [← Bool.not_eq_true, Instant.before_iff]
      omega
    · rename_i millis hmillis
      obtain ⟨t, ht, hfuture, hold⟩ :=
        Validation.timestamp_eq_none_iff.1 (htimestamp millis hmillis)
      rw [ht] at h
      cases h
      exact ⟨hfuture, hold⟩

/-! ## What purges remove -/

namespace RetentionPolicy

variable {policy : RetentionPolicy} {now v recordedAt cutoff limit : Instant}

/-- Up to seven days short of the retention, no purge reaches back beyond seven days before `v`. -/
theorem not_before_cutoff (hcutoff : policy.cutoff? now = some cutoff)
    (hnow : now.nanos < 1000000000)
    (hlimit : v.addSeconds? (86400 * (policy.days - 7)) = some limit)
    (hle : now.notAfter limit = true)
    (hold : recordedAt.before ⟨v.seconds - 7 * 86400, v.nanos⟩ = false) :
    recordedAt.before cutoff = false := by
  obtain rfl := Instant.eq_of_addSeconds? hlimit
  obtain rfl | ⟨hleap, -⟩ := Instant.of_subDays? hcutoff
  · simp only [Instant.notAfter, Bool.not_eq_true', ← Bool.not_eq_true, Instant.before_iff]
      at hle hold ⊢
    omega
  · -- The cutoff of a leap second would be up to a second too late.
    omega

/-- More than five minutes after the retention, every purge reaches up to five minutes after `v`. -/
theorem before_cutoff (hcutoff : policy.cutoff? now = some cutoff)
    (hlimit : v.addSeconds? (86400 * policy.days + 300) = some limit)
    (hlt : limit.before now = true)
    (hfuture : Instant.before ⟨v.seconds + 300, v.nanos⟩ recordedAt = false) :
    recordedAt.before cutoff = true := by
  obtain rfl := Instant.eq_of_addSeconds? hlimit
  -- A leap second counts as the second after it, so its cutoff is only later.
  obtain rfl | ⟨hleap, rfl⟩ := Instant.of_subDays? hcutoff
  · simp only [← Bool.not_eq_true, Instant.before_iff] at hlt hfuture ⊢
    omega
  · simp only [← Bool.not_eq_true, Instant.before_iff] at hlt hfuture ⊢
    omega

end RetentionPolicy

namespace Http

/-- A submission that is answered with success has stored a report of what the body describes. -/
theorem Api.submitLocation_stores {v : Verifier} {env : Surroundings} {req : Request} {w : World} :
    (submitLocation v req).run.Ensures env w fun result w' =>
      ∀ response, result = some (.ok response) →
        ∃ r o report, SubmitLocation.violations r (env.clock (w.readings + 1)) = [] ∧
          r.observation (env.clock (w.readings + 2)) = .ok o ∧ report.observation = o ∧
          w'.store.reports = w.store.reports ++ [report] := by
  -- The clock is read three times: for the caller, for the check and for the observation.
  refine Handler.ensures_caller_bind (fun _ _ => nofun) fun caller _ => ?_
  refine Handler.ensures_body_bind (fun _ _ => nofun) fun r _ => ?_
  rw [Prog.ensures_run_bind, Prog.ensures_run_lift, Prog.ensures_now]
  refine Handler.ensures_check_bind (fun _ _ => nofun) fun hvalid => ?_
  rw [Prog.ensures_run_bind, Prog.ensures_run_lift, Prog.ensures_now]
  refine Handler.ensures_ofDomain_bind (fun _ _ => nofun) fun o hobserved => ?_
  rw [Prog.ensures_run_bind, Handler.ensures_serve]
  refine (Tracker.submitted_run env _ caller.tenant caller.actor o).imp fun result w' h => ?_
  cases h with
  | accepted _ hrecorded =>
    intro _ _
    exact ⟨r, o, _, List.isEmpty_iff.1 hvalid, hobserved, rfl, hrecorded.reports⟩
  | invalid | rejected | interrupted => nofun

namespace App

/-- A request of a known caller is answered with the status that its handler comes to. -/
theorem status_of_identified {app : App} {env : Surroundings} {req : Request} {w : World}
    {resource : Resource} {f : Caller → Handler Response} {caller : Caller}
    (hresource : Resource.ofSegments? req.target.segments = some resource)
    (hh : app.handler? req req.target.query (asked req) resource =
      some (Handler.caller app.verifier req >>= f))
    (hcaller : Caller.identify app.verifier (env.clock w.readings) req.headers = .ok caller) :
    ((app.handle req).run env w).1.map Response.status =
      ((f caller).run.run env { (named env req w).2 with readings := w.readings + 1 }).1.map
        fun r => (settled r).status := by
  rw [run_handle hresource hh, Handler.run_caller_bind, readings_named, hcaller, Option.map_map]
  exact congrArg (Option.map · _) (funext fun r => status_delivered r)

/-- Let a location be accepted at an instant `v`, which the clock shows both when it is checked and
when it is converted. A purge at most the retention less seven days after `v` keeps its report, on a
clock that does not show leap seconds. A purge more than the retention and five minutes after `v`
removes the report if its tenant is in the scope. -/
theorem retention_window (app : App) (env : Surroundings) (req : Request) (w : World)
    (hmethod : req.method = .post)
    (hresource : Resource.ofSegments? req.target.segments = some .locations)
    (hclock : env.clock (w.readings + 2) = env.clock (w.readings + 1))
    (hstatus : ((app.handle req).run env w).1.map Response.status = some 201) :
    ∃ r, ((app.handle req).run env w).2.store.reports = w.store.reports ++ [r] ∧
      ∀ (env' : Surroundings) (later : World) (scope : Option Uuid) (limit : Instant),
        let v := env.clock (w.readings + 1)
        let now := env'.clock later.readings
        let purge := (Tracker.purge app.retention scope).run.run env' later
        (now.nanos < 1000000000 →
          v.addSeconds? (86400 * (app.retention.days - 7)) = some limit →
          now.notAfter limit = true → r ∈ later.store.reports → r ∈ purge.2.store.reports) ∧
        (scope = none ∨ scope = some r.tenant →
          v.addSeconds? (86400 * app.retention.days + 300) = some limit →
          limit.before now = true → (app.retention.cutoff? now).isSome = true →
          env'.refuses later.calls .deleteBefore = false →
          (∃ deleted, purge.1 = some (.ok deleted)) ∧ r ∉ purge.2.store.reports) := by
  have hh : app.handler? req req.target.query (asked req) .locations =
      some (Api.submitLocation app.verifier req) := by
    rw [asked, hmethod]
    rfl
  -- The answer tells that the handler got to its end, so there are a body that passed all checks
  -- and a report of what it describes.
  obtain ⟨response, hresponse, hcreated⟩ := Option.map_eq_some_iff.1 hstatus
  obtain ⟨r', hr', -⟩ := exists_ok_of_status hresource hh hresponse (by omega)
  obtain ⟨body, o, r, hvalid, hobserved, ho, hreports⟩ := Api.submitLocation_stores r' hr'
  rw [readings_named] at hvalid hobserved
  rw [hclock] at hobserved
  obtain ⟨hfuture, hold⟩ := SubmitLocation.observed_within hvalid hobserved
  rw [← ho] at hfuture hold
  rw [(named_same env req w).1] at hreports
  refine ⟨r, ?_, fun env' later scope limit => ⟨?_, ?_⟩⟩
  · rw [run_handle hresource hh, store_counted]
    exact hreports
  · intro hnow hlimit hle hmem
    obtain ⟨hsame, -⟩ | ⟨cutoff, hcutoff, -, hstore⟩ :=
      Tracker.purge_cases env' later app.retention scope
    · -- A purge that fails keeps everything.
      rw [hsame]
      exact hmem
    · have hkept := RetentionPolicy.not_before_cutoff hcutoff hnow hlimit hle hold
      rw [hstore, Store.purge, List.mem_filter]
      exact ⟨hmem, by simp [Store.expired, Report.recordedAt, hkept]⟩
  · intro hscope hlimit hlt hsome hgranted
    obtain ⟨-, hnone | hrefused⟩ | ⟨cutoff, hcutoff, hresult, hstore⟩ :=
      Tracker.purge_cases env' later app.retention scope
    · rw [hnone] at hsome
      cases hsome
    · rw [hgranted] at hrefused
      cases hrefused
    · have hgone := RetentionPolicy.before_cutoff hcutoff hlimit hlt hfuture
      have hexpired : Store.expired scope cutoff r = true := by
        rcases hscope with rfl | rfl <;> simp [Store.expired, Report.recordedAt, hgone]
      refine ⟨⟨_, hresult⟩, ?_⟩
      rw [hstore, Store.purge, List.mem_filter, hexpired]
      exact fun hkept => Bool.false_ne_true hkept.2

end App

end Http

/-! ### At the museum -/

namespace Campus

theorem resource_visiting :
    Http.Resource.ofSegments? visiting.target.segments = some .locations := by
  decide +kernel

/-- The visit is accepted. -/
theorem status_visiting :
    ((app.handle visiting).run (standing 2) (.start .empty)).1.map Http.Response.status =
      some 201 := by
  have hclock : (standing 2).clock (World.start .empty).readings = ⟨2, 0⟩ := rfl
  have hheaders : visiting.headers = overview.headers := rfl
  have hcaller : Caller.identify app.verifier ((standing 2).clock (World.start .empty).readings)
      visiting.headers = .ok ⟨museum, .ofNat 3, .admin⟩ := by
    rw [hclock, hheaders, Caller.identify_eq_ok_iff]
    exact proven_overview
  rw [Http.App.status_of_identified resource_visiting rfl hcaller]
  decide +kernel

end Campus

/-- The report of a visit is kept for at least twenty-three days, and for at most thirty days and
five minutes. -/
theorem Http.App.retention_window_campus :
    let visited := ((Campus.app.handle Campus.visiting).run (Campus.standing 2) (.start .empty)).2
    let purgedAt (seconds : Int) :=
      ((Tracker.purge Campus.app.retention none).run.run (Campus.standing seconds) visited).2
    ∃ r, visited.store.reports = [r] ∧ r ∈ (purgedAt (2 + 23 * 86400)).store.reports ∧
      r ∉ (purgedAt (2 + 30 * 86400 + 301)).store.reports := by
  obtain ⟨r, hreports, hwindow⟩ := retention_window Campus.app (Campus.standing 2)
    Campus.visiting (.start .empty) rfl Campus.resource_visiting rfl Campus.status_visiting
  have hmem : r ∈ ((Campus.app.handle Campus.visiting).run (Campus.standing 2)
      (.start .empty)).2.store.reports := by
    rw [hreports]
    exact List.mem_singleton_self r
  refine ⟨r, hreports, ?_, ?_⟩
  · exact (hwindow (Campus.standing (2 + 23 * 86400)) _ none ⟨2 + 23 * 86400, 0⟩).1 (by decide)
      (by decide) (by decide) hmem
  · exact ((hwindow (Campus.standing (2 + 30 * 86400 + 301)) _ none
      ⟨2 + 30 * 86400 + 300, 0⟩).2 (.inl rfl) (by decide) (by decide) (by decide) rfl).2

end Geofencing
