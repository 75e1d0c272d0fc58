import Geofencing.Proofs.Retention
import Geofencing.Settings.Basic

/-!
# Retentions beyond the reach of instants

The cutoff of a purge lies as many days before the present as reports are kept. Instants reach back
to the year -262143 only, and a purge whose cutoff would lie beyond breaks down. Settings are
accepted with any number of days but zero, so whether purges break down depends on that number and
the present instant alone: `Settings.purge_within_reach`. From 1970 to 9999 no retention of up to
96465292 days is too long; with `Settings.unpurgeable` no purge ever ends.
-/

namespace Geofencing

/-- The instants from the start of the year 1970 to the end of the year 9999. -/
def Instant.Present (t : Instant) : Prop :=
  0 ≤ t.seconds ∧ t.seconds ≤ 253402300799

instance (t : Instant) : Decidable t.Present := inferInstanceAs (Decidable (_ ∧ _))

/-- A purge at an instant can reach back over the whole retention. -/
def RetentionPolicy.WithinReach (policy : RetentionPolicy) (now : Instant) : Prop :=
  86400 * (policy.days : Int) ≤ now.settle.seconds - Instant.minSeconds

/-! ## Cutoffs -/

namespace Instant

theorem inRange_iff {seconds : Int} :
    inRange seconds = true ↔ minSeconds ≤ seconds ∧ seconds ≤ maxSeconds := by
  simp [inRange]

/-- A leap second counts as the second after it. -/
theorem seconds_settle (t : Instant) :
    t.seconds ≤ t.settle.seconds ∧ t.settle.seconds ≤ t.seconds + 1 := by
  rw [settle]
  split
  · simp only
    omega
  · omega

end Instant

namespace RetentionPolicy

variable {policy : RetentionPolicy} {now cutoff : Instant}

/-- Before the year 10000 the last instant is far away, so only the first one matters. -/
theorem inRange_iff_withinReach (hnow : now.Present) :
    Instant.inRange (now.settle.seconds - 86400 * policy.days) = true ↔
      policy.WithinReach now := by
  have hsettle := now.seconds_settle
  unfold Instant.Present at hnow
  rw [Instant.inRange_iff]
  unfold WithinReach Instant.minSeconds Instant.maxSeconds
  omega

/-- There is a cutoff exactly for a retention within reach. -/
theorem cutoff?_eq_some_iff (hdays : policy.days ≠ 0) (hnow : now.Present) :
    policy.cutoff? now = some cutoff ↔ policy.WithinReach now ∧
      cutoff = ⟨now.settle.seconds - 86400 * policy.days, now.settle.nanos⟩ := by
  rw [cutoff?, Instant.subDays?, if_neg hdays, Instant.addSeconds?, ← Int.sub_eq_add_neg]
  split
  · rename_i hin
    simp [(inRange_iff_withinReach hnow).1 hin, eq_comm]
  · rename_i hout
    simp [mt (inRange_iff_withinReach hnow).2 hout]

theorem cutoff?_eq_none_iff (hdays : policy.days ≠ 0) (hnow : now.Present) :
    policy.cutoff? now = none ↔ ¬policy.WithinReach now := by
  rw [Option.eq_none_iff_forall_ne_some]
  simp [cutoff?_eq_some_iff hdays hnow]

/-- At least one day is taken off, so a cutoff lies before the present, leap second or not. -/
theorem before_of_cutoff? (hdays : policy.days ≠ 0) (hnow : now.Present)
    (hcutoff : policy.cutoff? now = some cutoff) : cutoff.before now = true := by
  obtain ⟨-, rfl⟩ := (cutoff?_eq_some_iff hdays hnow).1 hcutoff
  have hsettle := now.seconds_settle
  rw [Instant.before_iff]
  simp only
  omega

/-- From 1970 on, everything up to 96465292 days is within reach. -/
theorem withinReach_of_le (hdays : policy.days ≤ 96465292) (hnow : now.Present) :
    policy.WithinReach now := by
  have hsettle := now.seconds_settle
  unfold Instant.Present at hnow
  unfold WithinReach Instant.minSeconds
  omega

end RetentionPolicy

/-! ## What breaks down -/

section Breakdown

variable {env : Surroundings} {w : World} {policy : RetentionPolicy}

/-- A purge breaks down exactly if it has no cutoff; a refusal by the store is an answer. -/
theorem Tracker.run_purge_eq_none_iff (scope : Option Uuid) :
    ((purge policy scope).run.run env w).1 = none ↔
      policy.cutoff? (env.clock w.readings) = none := by
  have hrun : (purge policy scope).run.Ensures env w fun result _ =>
      result = none ↔ policy.cutoff? (env.clock w.readings) = none := by
    simp only [purge, Prog.ensures_run_bind, Prog.ensures_run_lift, Prog.ensures_now,
      Option.map_some]
    cases policy.cutoff? (env.clock w.readings) with
    | none => exact iff_of_true rfl rfl
    | some cutoff =>
      simp only [Prog.ensures_run_bind]
      rw [Prog.ensures_run_store]
      -- Whether the call is refused, fails or is carried out, the program goes on with the answer.
      obtain ⟨-, h⟩ | ⟨-, e, -, h⟩ | ⟨-, deleted, s, -, h⟩ :=
        World.callStore_cases env { w with readings := w.readings + 1 } (.deleteBefore scope cutoff)
      · rw [h]
        exact iff_of_false (Option.some_ne_none _) (Option.some_ne_none _)
      · rw [h]
        exact iff_of_false (Option.some_ne_none _) (Option.some_ne_none _)
      · rw [h]
        exact iff_of_false (Option.some_ne_none _) (Option.some_ne_none _)
  exact hrun

theorem Jobs.run_cleanup_eq_none_iff :
    ((cleanup policy).run env w).1 = none ↔ policy.cutoff? (env.clock w.readings) = none := by
  rw [← Tracker.run_purge_eq_none_iff none, cleanup, Prog.run_bind]
  generalize (Tracker.purge policy none).run.run env w = out
  rcases out with ⟨_ | _ | _, w'⟩
  · exact iff_of_true rfl rfl
  · exact iff_of_false (Option.some_ne_none _) (Option.some_ne_none _)
  · exact iff_of_false (Option.some_ne_none _) (Option.some_ne_none _)

/-- A service program that is run for a client breaks down exactly if it does so by itself. -/
theorem Http.Handler.run_serve_bind_eq_none_iff {α β : Type} {p : Service α}
    {f : α → Handler β} (hf : ∀ a w', ((f a).run.run env w').1 ≠ none) :
    ((serve p >>= f).run.run env w).1 = none ↔ (p.run.run env w).1 = none := by
  have hserve : (serve p >>= f).run.Ensures env w fun result _ =>
      result = none ↔ (p.run.run env w).1 = none := by
    rw [Prog.ensures_run_bind, ensures_serve, Prog.Ensures]
    generalize p.run.run env w = out
    rcases out with ⟨_ | _ | a, w'⟩
    · exact iff_of_true rfl rfl
    · exact iff_of_false (Option.some_ne_none _) (Option.some_ne_none _)
    · exact iff_of_false (hf a w') (Option.some_ne_none _)
  exact hserve

/-- A request to purge breaks down exactly if an administrator makes it and there is no cutoff. -/
theorem Http.App.run_purge_eq_none_iff {app : App} {req : Request} (hmethod : req.method = .post)
    (hresource : Resource.ofSegments? req.target.segments = some .purge) :
    ((app.handle req).run env w).1 = none ↔
      (∃ caller, Caller.identify app.verifier (env.clock w.readings) req.headers = .ok caller ∧
        caller.role = .admin) ∧ app.retention.cutoff? (env.clock (w.readings + 1)) = none := by
  have hh : app.handler? req req.target.query (asked req) .purge =
      some (Api.purgeLocations app.verifier app.retention req) := by
    rw [asked, hmethod]
    rfl
  rw [run_handle hresource hh, Option.map_eq_none_iff, Api.purgeLocations, Handler.run_caller_bind,
    readings_named]
  -- The cutoff is looked for only after the caller was found to be an administrator.
  cases Caller.identify app.verifier (env.clock w.readings) req.headers with
  | error e => simp
  | ok caller =>
    by_cases hadmin : caller.role = .admin
    · have hallowed : caller.requireAdmin = .ok () := if_pos hadmin
      simp only [hallowed]
      refine (Handler.run_serve_bind_eq_none_iff ?_).trans ?_
      · exact fun _ _ => Option.some_ne_none _
      · simp [Tracker.run_purge_eq_none_iff, hadmin]
    · have hforbidden : caller.requireAdmin = .error (.forbidden "Admin role required") :=
        if_neg hadmin
      simp only [hforbidden]
      exact iff_of_false (Option.some_ne_none _) (by simp [hadmin])

end Breakdown

/-! ## Accepted settings -/

namespace Settings

/-- How long reports are kept under the settings. -/
def retention (settings : Settings) : RetentionPolicy := ⟨settings.tracking.retentionDays⟩

/-- Accepted settings keep reports for at least a day. -/
theorem retentionDays_ne_zero {settings : Settings} (h : settings.check = .ok ()) :
    settings.tracking.retentionDays ≠ 0 := by
  intro hzero
  rw [check] at h
  -- The rules before that on the retention are about other settings.
  iterate 4
    split at h
    · cases h
  cases h

/-- Under accepted settings and from 1970 to 9999, a purge has a cutoff exactly if the retention is
within reach, and the cutoff lies before the present. That is so for every retention of up to
96465292 days. Exactly then the cleanup job and the purge that an administrator asks for come to an
end; the requests of all others to purge do so anyway. -/
theorem purge_within_reach (settings : Settings) (haccepted : settings.check = .ok ())
    (now : Instant) (hnow : now.Present) :
    (settings.retention.WithinReach now ↔
      ∃ cutoff, settings.retention.cutoff? now = some cutoff ∧
        Instant.inRange cutoff.seconds = true ∧ cutoff.before now = true) ∧
    (settings.tracking.retentionDays ≤ 96465292 → settings.retention.WithinReach now) ∧
    (∀ (env : Surroundings) (w : World), env.clock w.readings = now →
      (((Jobs.cleanup settings.retention).run env w).1 ≠ none ↔
        settings.retention.WithinReach now)) ∧
    ∀ (app : Http.App) (env : Surroundings) (w : World) (req : Http.Request),
      app.retention = settings.retention → req.method = .post →
      Http.Resource.ofSegments? req.target.segments = some .purge →
      env.clock (w.readings + 1) = now →
      (((app.handle req).run env w).1 ≠ none ↔ settings.retention.WithinReach now ∨
        ¬∃ caller, Caller.identify app.verifier (env.clock w.readings) req.headers = .ok caller ∧
          caller.role = .admin) := by
  -- A policy of no days at all would not have been accepted.
  have hdays : settings.retention.days ≠ 0 := retentionDays_ne_zero haccepted
  have hnone := RetentionPolicy.cutoff?_eq_none_iff hdays hnow
  refine ⟨⟨fun hreach => ?_, ?_⟩, fun hle => RetentionPolicy.withinReach_of_le hle hnow, ?_, ?_⟩
  · have hcutoff := (RetentionPolicy.cutoff?_eq_some_iff hdays hnow).2 ⟨hreach, rfl⟩
    exact ⟨_, hcutoff, (RetentionPolicy.inRange_iff_withinReach hnow).2 hreach,
      RetentionPolicy.before_of_cutoff? hdays hnow hcutoff⟩
  · rintro ⟨cutoff, hcutoff, -⟩
    exact ((RetentionPolicy.cutoff?_eq_some_iff hdays hnow).1 hcutoff).1
  · rintro env w rfl
    rw [Ne, Jobs.run_cleanup_eq_none_iff, hnone, not_not]
  · rintro app env w req hretention hmethod hresource rfl
    rw [Ne, Http.App.run_purge_eq_none_iff hmethod hresource, hretention, hnone, not_and_or,
      not_not, or_comm]

end Settings

/-! ### How long a museum can remember -/

namespace Campus

/-- The settings that come with the service, and a retention set in the environment. -/
def remembering (days : String) : Settings.Sources :=
  { base := some Settings.base
    local? := none
    environment := [("GF__DATABASE__URL", "postgres://museum"), ("GF__JWT__PUBLIC_KEY", "key"),
      ("GF__TRACKING__RETENTION_DAYS", days)] }

/-- Settings that are loaded with a retention have been accepted. -/
theorem exists_accepted (sources : Settings.Sources) (days : Nat)
    (h : (Settings.load sources).toOption.map (fun s => (s.check.toOption, s.retention)) =
      some (some (), ⟨days⟩)) :
    ∃ settings, Settings.load sources = .ok settings ∧ settings.check = .ok () ∧
      settings.retention = ⟨days⟩ := by
  generalize Settings.load sources = loaded at h ⊢
  rcases loaded with _ | settings
  · cases h
  · obtain ⟨hcheck, hretention⟩ := Prod.mk.inj (Option.some_inj.1 h)
    refine ⟨settings, rfl, ?_, hretention⟩
    generalize settings.check = checked at hcheck ⊢
    rcases checked with _ | _
    · cases hcheck
    · rfl

/-- The museum asks for a purge. -/
def purging : Http.Request :=
  { overview with
    method := .post
    target := ⟨["".toList, "api".toList, "v1".toList, "admin".toList, "locations".toList,
      "purge".toList], []⟩ }

theorem resource_purging :
    Http.Resource.ofSegments? purging.target.segments = some .purge := by
  decide +kernel

/-- The service of the museum, with a retention of its own. -/
def appKeeping (policy : RetentionPolicy) : Http.App := { app with retention := policy }

end Campus

/-- With the longest retention that can be set, accepted settings leave every purge from 1970 to
9999 without a cutoff. The cleanup job and an administrator's purge break down. -/
theorem Settings.unpurgeable : ∃ settings,
    load (Campus.remembering "4294967295") = .ok settings ∧ settings.check = .ok () ∧
    (∀ now : Instant, now.Present → settings.retention.cutoff? now = none) ∧
    ((Jobs.cleanup settings.retention).run (Campus.standing 2) (.start .empty)).1 = none ∧
    (((Campus.appKeeping settings.retention).handle Campus.purging).run (Campus.standing 2)
      (.start .empty)).1 = none := by
  obtain ⟨settings, hload, hcheck, hretention⟩ :=
    Campus.exists_accepted (Campus.remembering "4294967295") 4294967295 (by decide +kernel)
  have hnone : ∀ now : Instant, now.Present → settings.retention.cutoff? now = none := by
    intro now hnow
    have hsettle := now.seconds_settle
    rw [RetentionPolicy.cutoff?_eq_none_iff (retentionDays_ne_zero hcheck) hnow, hretention]
    unfold Instant.Present at hnow
    unfold RetentionPolicy.WithinReach Instant.minSeconds
    simp only
    omega
  have hnow : Instant.Present ⟨2, 0⟩ := by decide
  refine ⟨settings, hload, hcheck, hnone, ?_, ?_⟩
  · rw [Jobs.run_cleanup_eq_none_iff]
    exact hnone _ hnow
  · rw [Http.App.run_purge_eq_none_iff rfl Campus.resource_purging]
    exact ⟨⟨_, Caller.identify_eq_ok_iff.2 Campus.proven_overview, rfl⟩, hnone _ hnow⟩

/-- With a retention of 96465292 days the museum can purge on the third second of 1970. -/
theorem Settings.purge_within_reach_campus : ∃ settings,
    load (Campus.remembering "96465292") = .ok settings ∧ settings.check = .ok () ∧
    Instant.Present ⟨2, 0⟩ ∧ (∃ cutoff, settings.retention.cutoff? ⟨2, 0⟩ = some cutoff) ∧
    ((Jobs.cleanup settings.retention).run (Campus.standing 2) (.start .empty)).1 ≠ none ∧
    (((Campus.appKeeping settings.retention).handle Campus.purging).run (Campus.standing 2)
      (.start .empty)).1 ≠ none := by
  obtain ⟨settings, hload, hcheck, hretention⟩ :=
    Campus.exists_accepted (Campus.remembering "96465292") 96465292 (by decide +kernel)
  have hnow : Instant.Present ⟨2, 0⟩ := by decide
  obtain ⟨hiff, hle, hcleanup, hpurge⟩ := purge_within_reach settings hcheck ⟨2, 0⟩ hnow
  have hreach := hle (Nat.le_of_eq (congrArg RetentionPolicy.days hretention))
  obtain ⟨cutoff, hcutoff, -⟩ := hiff.1 hreach
  refine ⟨settings, hload, hcheck, hnow, ⟨cutoff, hcutoff⟩, ?_, ?_⟩
  · exact (hcleanup (Campus.standing 2) (.start .empty) rfl).2 hreach
  · exact (hpurge (Campus.appKeeping settings.retention) (Campus.standing 2) (.start .empty)
      Campus.purging rfl rfl Campus.resource_purging rfl).2 (.inl hreach)

end Geofencing
