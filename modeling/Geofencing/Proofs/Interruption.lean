import Geofencing.Proofs.Submission

/-!
# Submissions that fail

A submission fails if its location is not valid or if the store refuses a call other than a mark.

* `Surroundings.StoppedBy`: a run ended with a store call that was refused.
* `Tracker.CutShort`: what is left behind if an event is refused, namely the report and the events
  of the crossings before it.
* `Tracker.submit_failure`: every submission that fails leaves nothing behind, or is cut short.
-/

namespace Geofencing

namespace Surroundings

/-- How many of some calls were of a kind and were not refused; the calls are given with the last
one first. -/
def granted (env : Surroundings) (m : StoreMethod) : List StoreMethod → Nat
  | [] => 0
  | m' :: earlier =>
    env.granted m earlier + if m' = m ∧ env.refuses earlier m' = false then 1 else 0

/-- The last store call between two worlds is of a kind, and it was refused with an error. -/
def StoppedBy (env : Surroundings) (w w' : World) (m : StoreMethod) (e : DomainError) : Prop :=
  ∃ earlier, w.calls <:+ earlier ∧ w'.calls = m :: earlier ∧ env.refuses earlier m = true ∧
    e = World.refusal m

end Surroundings

/-! ## Recordings with failures -/

namespace Recorder.Recorded

variable {env : Surroundings} {w w' : World} {tenant actor : Uuid} {location : Coordinate}
  {occurredAt : Instant} {fs : List Finding} {log : List (Finding × Event)}

/-- Each event in the log was stored by one call. -/
theorem granted (h : Recorded env tenant actor location occurredAt w fs log w') :
    env.granted .insertEvent w'.calls = env.granted .insertEvent w.calls + log.length := by
  induction h with
  | nil => rfl
  | skip _ _ ih => exact ih
  | @cons w w' f kind e fs log _ hgranted _ _ ih =>
    -- Attendance may add a call, but not one that stores an event.
    have hnoted : env.granted .insertEvent (w.noted env e (attends f kind)).calls =
        env.granted .insertEvent w.calls + 1 := by
      have hstored : env.granted .insertEvent (w.stored e).calls =
          env.granted .insertEvent w.calls + 1 := by
        simp [World.stored, Surroundings.granted, hgranted]
      rw [World.noted]
      split
      · rw [World.calls_attended]
        split
        · simpa [Surroundings.granted] using hstored
        · exact hstored
      · exact hstored
    rw [ih, hnoted, List.length_cons]
    omega

/-- Whatever becomes of the marks, only events that the hook accepts are marked. -/
theorem accepted_of_marked (h : Recorded env tenant actor location occurredAt w fs log w') :
    List.Forall₂ (fun (p : Finding × Event) (accepted : Bool) =>
        p.2.processedAt.isSome = true → accepted = true)
      (log.filter fun p => attends p.1 p.2.kind)
      (env.verdicts w.entries
        ((log.filter fun p => attends p.1 p.2.kind).map fun p => p.2.schoolEntry)) := by
  induction h with
  | nil => exact .nil
  | skip _ _ ih => exact ih
  | @cons w w' f kind e fs log _ _ made _ ih =>
    have hkind : e.kind = kind := by
      subst made
      rfl
    -- As in `Recorded.marks`, the hook remembers an entry only if attendance was taken.
    cases hattends : attends f kind with
    | false =>
      rw [hattends, World.entries_noted, if_neg Bool.false_ne_true, List.append_nil] at ih
      rw [List.filter_cons_of_neg (by simp [hkind, hattends])]
      exact ih
    | true =>
      rw [hattends, World.entries_noted, if_pos rfl] at ih
      rw [List.filter_cons_of_pos (by simp [hkind, hattends]), List.map_cons,
        Surroundings.verdicts]
      refine .cons ?_ ih
      intro hmarked
      change env.accepts w.entries e.schoolEntry = true
      cases haccepts : env.accepts w.entries e.schoolEntry with
      | true => rfl
      | false =>
        simp [World.filed, World.mark?, World.stored, haccepts] at hmarked

end Recorder.Recorded

/-! ## Failed submissions -/

namespace Tracker

/-- What a submission leaves behind that was cut short: the report is stored, and `log` holds each
crossing before the refused one with the event stored for it. -/
structure CutShort (env : Surroundings) (tenant actor : Uuid) (o : Observation) (w w' : World)
    (log : List (Finding × Event)) : Prop where
  /-- Exactly the report is added to the reports. -/
  reports : w'.store.reports =
    w.store.reports ++ [⟨env.ids w.drawn, tenant, actor, o, env.clock w.readings⟩]
  /-- The log holds the first of the crossings that the submission finds, and not all of them. -/
  crossings : ∃ refused later, ((env.found w tenant actor o).filter fun f =>
    f.transition = .enter || f.transition = .exit) = log.map Prod.fst ++ refused :: later
  /-- There are as many of them as calls of the submission that stored an event. -/
  inserted : env.granted .insertEvent w'.calls =
    env.granted .insertEvent w.calls + log.length
  /-- Each event tells of its crossing, for the actor and as observed. -/
  tellsOf : ∀ p ∈ log, Recorder.TellsOf tenant actor o.coordinate o.recordedAt p.1 p.2
  /-- Exactly the events of the log are added to the events. -/
  events : w'.store.events = w.store.events ++ log.map Prod.snd
  /-- The hook is told about the entries to the school grounds in the log, in their order: of whom,
  where, by which event and when. -/
  entries : w'.entries = w.entries ++
    ((log.filter fun p => p.2.kind = .enter && p.1.kind = .schoolGrounds).map fun p =>
      { tenant := p.2.tenant, actor := p.2.actor, geofence := p.2.geofence, event := p.2.id,
        occurredAt := p.2.occurredAt })
  /-- Of these, only events that the hook accepts are marked. -/
  marked : List.Forall₂ (fun (p : Finding × Event) (accepted : Bool) =>
      p.2.processedAt.isSome = true → accepted = true)
    (log.filter fun p => p.2.kind = .enter && p.1.kind = .schoolGrounds)
    (env.verdicts w.entries
      ((log.filter fun p => p.2.kind = .enter && p.1.kind = .schoolGrounds).map fun p =>
        { tenant := p.2.tenant, actor := p.2.actor, geofence := p.2.geofence, event := p.2.id,
          occurredAt := p.2.occurredAt }))
  /-- No other event is marked. -/
  unmarked : ∀ p ∈ log, ¬(p.2.kind = .enter ∧ p.1.kind = .schoolGrounds) → p.2.processedAt = none
  /-- The geofences stay as they are. -/
  kept : w'.store.geofences = w.store.geofences

variable {env : Surroundings} {w w' : World} {tenant actor : Uuid} {o : Observation}

/-- A recording that stops before an event leaves a submission cut short. -/
private theorem cutShort_of_recorded {before after : List Finding} {f : Finding} {kind : EventKind}
    {log : List (Finding × Event)} (hsplit : env.found w tenant actor o = before ++ f :: after)
    (hcrossing : f.transition.event? = some kind)
    (hrecorded : Recorder.Recorded env tenant actor o.coordinate o.recordedAt
      (w.reported env tenant actor o) before log w')
    (hrefused : env.refuses w'.calls .insertEvent = true)
    (hnodup : (env.drawn w w'.turnedAway).Nodup)
    (hnew : ∀ e ∈ w.store.events, e.id ∉ env.drawn w w'.turnedAway) :
    CutShort env tenant actor o w w'.turnedAway log := by
  -- The report has the first identifier drawn, the events have the next ones, and the last one was
  -- drawn for the event that was refused.
  have hids : (env.ids w.drawn :: log.map fun p => p.2.id).Sublist (env.drawn w w'.turnedAway) := by
    have hturned : w'.turnedAway.drawn = w'.drawn + 1 := rfl
    have hle : (w.reported env tenant actor o).drawn ≤ w'.turnedAway.drawn := by
      have hdrawn := hrecorded.drawn
      omega
    have hfirst : env.drawn w w'.turnedAway =
        env.ids w.drawn :: env.drawn (w.reported env tenant actor o) w'.turnedAway :=
      Surroundings.drawn_eq_cons rfl hle
    have hmore : w'.drawn - (w.reported env tenant actor o).drawn ≤
        w'.turnedAway.drawn - (w.reported env tenant actor o).drawn := by
      omega
    rw [hfirst, hrecorded.map_id, Surroundings.drawn, Surroundings.drawn]
    exact .cons_cons _ ((List.range'_sublist_right.2 hmore).map _)
  have hcut := hids.nodup hnodup
  rw [List.nodup_cons] at hcut
  have hattends : (fun p : Finding × Event =>
      decide (p.2.kind = .enter) && decide (p.1.kind = .schoolGrounds)) =
      fun p => Recorder.attends p.1 p.2.kind := by
    funext p
    simp only [Recorder.attends, AreaKind.takesAttendance]
    congr 1
  exact {
    reports := hrecorded.reports
    crossings := by
      have hevent : (fun f : Finding => decide (f.transition = .enter) ||
          decide (f.transition = .exit)) = fun f => f.transition.event?.isSome := by
        funext f
        cases f.transition <;> rfl
      refine ⟨f, after.filter fun f => f.transition.event?.isSome, ?_⟩
      rw [hevent, hsplit, List.filter_append, hrecorded.map_fst,
        List.filter_cons_of_pos (by simp [hcrossing])]
    inserted := by
      -- The refused call does not count, and those before the first event are of other kinds.
      have hcalls : env.granted .insertEvent w'.turnedAway.calls =
          env.granted .insertEvent w'.calls := by
        simp [World.turnedAway, Surroundings.granted, hrefused]
      rw [hcalls, hrecorded.granted]
      rfl
    tellsOf := hrecorded.tellsOf
    events := hrecorded.events hcut.2 fun e he hmem =>
      hnew e he (hids.subset (List.mem_cons_of_mem _ hmem))
    entries := by
      rw [hattends]
      exact hrecorded.entries
    marked := by
      rw [hattends]
      exact hrecorded.accepted_of_marked
    unmarked := by
      intro p hp hnot
      refine hrecorded.unattended p hp ?_
      simpa [Recorder.attends, AreaKind.takesAttendance] using hnot
    kept := hrecorded.geofences }

/-- A submission that fails at the check of the location, at one of the two lookups or at the report
leaves everything as it was. One that fails at an event leaves the report and exactly the events
before it, and the error is that of the refused call. It never fails for another reason: neither the
hook nor a mark can make it fail. -/
theorem submit_failure (env : Surroundings) (w : World) (tenant actor : Uuid) (o : Observation)
    (hnodup : (env.drawn w ((submit tenant actor o).run.run env w).2).Nodup)
    (hnew : ∀ e ∈ w.store.events, e.id ∉ env.drawn w ((submit tenant actor o).run.run env w).2) :
    let out := (submit tenant actor o).run.run env w
    (∀ e, out.1 = some (.error e) →
      (o.coordinate.validate = .error e ∨
          env.StoppedBy w out.2 .findActive e ∨ env.StoppedBy w out.2 .latest e ∨
          env.StoppedBy w out.2 .insertReport e) ∧
        out.2.store = w.store ∧ out.2.entries = w.entries ∨
      env.StoppedBy w out.2 .insertEvent e ∧
        ∃ log, CutShort env tenant actor o w out.2 log) ∧
    (o.coordinate.validate = .ok () → env.Grants (· ≠ .markProcessed) w out.2 →
      ∃ outcome, out.1 = some (.ok outcome)) := by
  intro out
  have hsubmitted : Submitted env tenant actor o w out.1 out.2 := submitted_run env w tenant actor o
  change (env.drawn w out.2).Nodup at hnodup
  change ∀ e ∈ w.store.events, e.id ∉ env.drawn w out.2 at hnew
  generalize out.1 = result, out.2 = w' at hsubmitted hnodup hnew ⊢
  -- One case for each way in which a submission ends.
  cases hsubmitted with
  | invalid hinvalid =>
    refine ⟨?_, fun hvalid => ?_⟩
    · rintro e ⟨⟩
      exact .inl ⟨.inl hinvalid, rfl, rfl⟩
    · rw [hvalid] at hinvalid
      cases hinvalid
  | @rejected w' m earlier hstore hentries hrefused hsince hcalls hearly =>
    refine ⟨?_, fun _ hgrants => ?_⟩
    · rintro e ⟨⟩
      have hstopped : env.StoppedBy w w' m (World.refusal m) :=
        ⟨earlier, hsince, hcalls, hrefused, rfl⟩
      refine .inl ⟨.inr ?_, hstore, hentries⟩
      rcases hearly with rfl | rfl | rfl
      · exact .inl hstopped
      · exact .inr (.inl hstopped)
      · exact .inr (.inr hstopped)
    · -- The refused call was not a mark.
      have hkind : m ≠ .markProcessed := by
        rcases hearly with rfl | rfl | rfl <;> decide
      rw [hgrants m earlier hkind hsince (hcalls ▸ List.suffix_rfl)] at hrefused
      cases hrefused
  | accepted =>
    refine ⟨?_, fun _ _ => ⟨_, rfl⟩⟩
    rintro e ⟨⟩
  -- The call for an event was refused, and the log says what came before it.
  | @interrupted before after f kind log w₁ _ hsplit hcrossing hrecorded hrefused =>
    have hsince : w.calls <:+ w₁.calls := World.calls_reported.trans hrecorded.calls
    refine ⟨?_, fun _ hgrants => ?_⟩
    · rintro e ⟨⟩
      exact .inr ⟨⟨w₁.calls, hsince, rfl, hrefused, rfl⟩, log,
        cutShort_of_recorded hsplit hcrossing hrecorded hrefused hnodup hnew⟩
    · rw [hgrants .insertEvent w₁.calls (by decide) hsince List.suffix_rfl] at hrefused
      cases hrefused

end Tracker

/-! ### A bad day on the campus -/

namespace Campus

/-- The library on the grounds. -/
def library : Geofence :=
  { grounds with id := .ofNat 10, name := "Library", kind := .library }

/-- Surroundings that refuse every mark and every event but the first. -/
def faulty : Surroundings :=
  { surroundings with
    refuses := fun earlier m =>
      m = .markProcessed || (m = .insertEvent && earlier.contains .insertEvent) }

/-- The grounds and the library are known, and nobody was observed yet. -/
def opened : World :=
  .start ⟨[(grounds.id, grounds), (library.id, library)], [], []⟩

theorem list_opened : opened.store.list school false = [grounds, library] :=
  List.mergeSort_of_pairwise (by decide +kernel)

end Campus

/-- A pupil comes into the library. The entry to the grounds is stored although it cannot be marked,
and the one to the library is refused. -/
theorem Tracker.submit_failure_campus :
    let out := (submit Campus.school Campus.pupil Campus.inside).run.run Campus.faulty Campus.opened
    (out.1.map Except.isOk, out.2.store.events.map Event.geofence, out.2.entries.length) =
        (some false, [Campus.grounds.id], 1) ∧
    (∀ e, out.1 = some (.error e) →
      (Campus.inside.coordinate.validate = .error e ∨
          Campus.faulty.StoppedBy Campus.opened out.2 .findActive e ∨
          Campus.faulty.StoppedBy Campus.opened out.2 .latest e ∨
          Campus.faulty.StoppedBy Campus.opened out.2 .insertReport e) ∧
        out.2.store = Campus.opened.store ∧ out.2.entries = Campus.opened.entries ∨
      Campus.faulty.StoppedBy Campus.opened out.2 .insertEvent e ∧
        ∃ log, CutShort Campus.faulty Campus.school Campus.pupil Campus.inside Campus.opened out.2
          log) := by
  intro out
  have hrun : out = _ := run_submit rfl rfl rfl
  rw [Campus.list_opened] at hrun
  have hnodup : (Campus.faulty.drawn Campus.opened out.2).Nodup := by
    rw [hrun]
    decide +kernel
  refine ⟨?_, ?_⟩
  · rw [hrun]
    decide +kernel
  · exact (submit_failure Campus.faulty Campus.opened Campus.school Campus.pupil Campus.inside
      hnodup fun _ h => absurd h List.not_mem_nil).1

end Geofencing
