import Geofencing.Proofs.Recording
import Geofencing.Service.Tracker
import Mathlib.Data.List.Nodup

/-!
# What submitting a location does

A submission looks up the geofences and the last report, stores the new report, and records one
event for each boundary that was crossed. `Tracker.Submitted` lists the ways in which it can end,
and `Tracker.submitted_run` says that there is no other.

If no store call is refused and the identifiers drawn are new, a submission keeps
`Tracker.Contract`: exactly this report and exactly one event for each crossing are added, and the
attendance hook is told about the entries to the school grounds.
-/

namespace Geofencing

namespace Surroundings

/-- What is found at the last report of an actor, with the geofences as they are now, and how many
questions the engine was asked then. -/
def before (env : Surroundings) (w : World) (tenant actor : Uuid) : List Finding × Nat :=
  match w.store.latest tenant actor with
  | none => ([], w.questions)
  | some r => env.evaluate w.questions tenant r.coordinate (w.store.list tenant false)

/-- What is found at a new location. -/
def now (env : Surroundings) (w : World) (tenant actor : Uuid) (o : Observation) :
    List Finding × Nat :=
  env.evaluate (env.before w tenant actor).2 tenant o.coordinate (w.store.list tenant false)

/-- What is found at a new location, with the transitions since the last report. -/
def found (env : Surroundings) (w : World) (tenant actor : Uuid) (o : Observation) :
    List Finding :=
  Membership.transitions (Membership.insideIds (env.before w tenant actor).1)
    (env.now w tenant actor o).1

end Surroundings

namespace World

/-- The report that a submission stores. -/
def report (env : Surroundings) (w : World) (tenant actor : Uuid) (o : Observation) : Report :=
  ⟨env.ids w.drawn, tenant, actor, o, env.clock w.readings⟩

/-- The world after a report was stored and its location was evaluated. -/
def reported (env : Surroundings) (w : World) (tenant actor : Uuid) (o : Observation) : World :=
  { w with
    store := w.store.addReport (w.report env tenant actor o)
    calls := .insertReport :: .latest :: .findActive :: w.calls
    counters := bump .locationsSubmitted 1 w.counters
    questions := (env.now w tenant actor o).2
    readings := w.readings + 1
    drawn := w.drawn + 1 }

/-- The calls made before the first event is stored. -/
theorem calls_reported {env : Surroundings} {w : World} {tenant actor : Uuid} {o : Observation} :
    w.calls <:+ (w.reported env tenant actor o).calls :=
  ⟨[.insertReport, .latest, .findActive], rfl⟩

end World

namespace Tracker

/-- How a submission ends. -/
inductive Submitted (env : Surroundings) (tenant actor : Uuid) (o : Observation) (w : World) :
    Option (Except DomainError Outcome) → World → Prop
  /-- The location is not valid. Nothing was done. -/
  | invalid {e : DomainError} (invalid : o.coordinate.validate = .error e) :
      Submitted env tenant actor o w (some (.error e)) w
  /-- A store call before or for the report was refused. Nothing was stored. -/
  | rejected {w' : World} {m : StoreMethod} {earlier : List StoreMethod}
      (store : w'.store = w.store) (entries : w'.entries = w.entries)
      (refused : env.refuses earlier m = true) (since : w.calls <:+ earlier)
      (calls : w'.calls = m :: earlier)
      (early : m = .findActive ∨ m = .latest ∨ m = .insertReport) :
      Submitted env tenant actor o w (some (.error (World.refusal m))) w'
  /-- The report and all events were stored. -/
  | accepted {log : List (Finding × Event)} {w' : World}
      (valid : o.coordinate.validate = .ok ())
      (recorded : Recorder.Recorded env tenant actor o.coordinate o.recordedAt
        (w.reported env tenant actor o) (env.found w tenant actor o) log w') :
      Submitted env tenant actor o w
        (some (.ok ⟨env.ids w.drawn, log.map fun p => p.2.id, env.found w tenant actor o⟩)) w'
  /-- The report was stored, but after some events one was refused. -/
  | interrupted {before after : List Finding} {f : Finding} {kind : EventKind}
      {log : List (Finding × Event)} {w' : World}
      (valid : o.coordinate.validate = .ok ())
      (split : env.found w tenant actor o = before ++ f :: after)
      (crossing : f.transition.event? = some kind)
      (recorded : Recorder.Recorded env tenant actor o.coordinate o.recordedAt
        (w.reported env tenant actor o) before log w')
      (refused : env.refuses w'.calls .insertEvent = true) :
      Submitted env tenant actor o w (some (.error (World.refusal .insertEvent))) w'.turnedAway

variable {env : Surroundings} {w : World}

/-- Finding out what an actor was inside of asks the engine and does nothing else. -/
private theorem ensures_previouslyInside {tenant actor : Uuid}
    {Q : Option (List Uuid) → World → Prop} {calls : List StoreMethod} :
    (previouslyInside tenant (w.store.list tenant false) (w.store.latest tenant actor)).Ensures env
        { w with calls } Q ↔
      Q (some (Membership.insideIds (env.before w tenant actor).1))
        { w with calls, questions := (env.before w tenant actor).2 } := by
  rw [Surroundings.before]
  cases w.store.latest tenant actor with
  | none => exact Iff.rfl
  | some r =>
    rw [previouslyInside, Prog.ensures_bind, Prog.Ensures, evaluate, Membership.run_evaluateWith]
    exact Iff.rfl

/-- Every submission ends in one of these ways. -/
theorem submitted_run (env : Surroundings) (w : World) (tenant actor : Uuid) (o : Observation) :
    (submit tenant actor o).run.Ensures env w (Submitted env tenant actor o w) := by
  -- One split for each place where a submission can stop: the check of the location, the two
  -- lookups, the report, and then the events, which `Recorder.record_cases` splits.
  simp only [submit, Prog.ensures_run_bind, Prog.ensures_run_mk, Prog.ensures_pure]
  cases hvalid : o.coordinate.validate with
  | error e => exact .invalid hvalid
  | ok _ =>
    rw [Prog.ensures_run_store]
    cases hactive : env.refuses w.calls .findActive with
    | true =>
      rw [World.callStore_of_refused hactive]
      exact .rejected rfl rfl hactive List.suffix_rfl rfl (.inl rfl)
    | false =>
      rw [World.callStore_of_ok hactive rfl]
      simp only
      rw [Prog.ensures_run_store]
      cases hlatest : env.refuses (.findActive :: w.calls) .latest with
      | true =>
        rw [World.callStore_of_refused hlatest]
        exact .rejected rfl rfl hlatest (List.suffix_cons _ _) rfl (.inr (.inl rfl))
      | false =>
        rw [World.callStore_of_ok hlatest rfl]
        simp only [Prog.ensures_run_lift]
        rw [ensures_previouslyInside]
        simp only [Option.map_some, Prog.ensures_fresh, Prog.ensures_now]
        rw [Prog.ensures_run_store]
        cases hinsert : env.refuses (.latest :: .findActive :: w.calls) .insertReport with
        | true =>
          rw [World.callStore_of_refused hinsert]
          exact .rejected rfl rfl hinsert
            ((List.suffix_cons _ _).trans (List.suffix_cons _ _)) rfl (.inr (.inr rfl))
        | false =>
          rw [World.callStore_of_ok hinsert rfl]
          simp only [Prog.ensures_count, Option.map_some]
          rw [Prog.Ensures, evaluate, Membership.run_evaluateWith]
          simp only [Option.map_some]
          -- The report is stored. From here on only events can be refused.
          change (Recorder.record tenant actor o.coordinate o.recordedAt
            (env.found w tenant actor o)).run.Ensures env (w.reported env tenant actor o) _
          rw [Prog.Ensures]
          obtain ⟨log, w', hrec, hrun⟩ |
              ⟨before, f, kind, after, log, w', hsplit, hkind, hrefused, hrec, hrun⟩ :=
            Recorder.record_cases env (w.reported env tenant actor o) tenant actor o.coordinate
              o.recordedAt (env.found w tenant actor o)
          · rw [hrun]
            exact .accepted hvalid hrec
          · rw [hrun]
            exact .interrupted hvalid hsplit hkind hrec hrefused

/-- What is left of a submission once the geofences and the last report have been looked up. -/
def conclude (tenant actor : Uuid) (o : Observation) (geofences : List Geofence)
    (previous : Option Report) : Service Outcome := do
  let before ← previouslyInside tenant geofences previous
  let id ← Prog.fresh
  let createdAt ← Prog.now
  Service.store (.insertReport ⟨id, tenant, actor, o, createdAt⟩)
  Prog.count .locationsSubmitted 1
  let findings ← evaluate tenant o.coordinate geofences
  let findings := Membership.transitions before findings
  let events ← Recorder.record tenant actor o.coordinate o.recordedAt findings
  return ⟨id, events, findings⟩

/-- A submission checks the location, makes two lookups and goes on with what they find. -/
theorem submit_eq (tenant actor : Uuid) (o : Observation) :
    submit tenant actor o = (do
      ExceptT.mk (pure o.coordinate.validate)
      let geofences ← Service.store (.findActive tenant)
      let previous ← Service.store (.latest tenant actor)
      conclude tenant actor o geofences previous) :=
  rfl

/-- A submission of a valid location goes on with what the two lookups find, if neither of them is
refused. -/
theorem run_submit {env : Surroundings} {w : World} {tenant actor : Uuid} {o : Observation}
    (hvalid : o.coordinate.validate = .ok ()) (hactive : env.refuses w.calls .findActive = false)
    (hlatest : env.refuses (.findActive :: w.calls) .latest = false) :
    (submit tenant actor o).run.run env w =
      (conclude tenant actor o (w.store.list tenant false) (w.store.latest tenant actor)).run.run
        env { w with calls := .latest :: .findActive :: w.calls } := by
  change (submit tenant actor o).run.Ensures env w fun r w' => (r, w') = _
  simp only [submit_eq, Prog.ensures_run_bind, Prog.ensures_run_mk, Prog.ensures_pure, hvalid]
  rw [Prog.ensures_run_store, World.callStore_of_ok hactive rfl]
  simp only
  rw [Prog.ensures_run_store, World.callStore_of_ok hlatest rfl]
  rfl

/-- A submission stores nothing, or it stores the report and records some of what it found. -/
theorem Submitted.recorded_cases {tenant actor : Uuid} {o : Observation}
    {result : Option (Except DomainError Outcome)} {w' : World}
    (h : Submitted env tenant actor o w result w') :
    (w'.store = w.store ∧ w'.entries = w.entries) ∨
    ∃ fs log w₁, (∀ f ∈ fs, f ∈ env.found w tenant actor o) ∧
      Recorder.Recorded env tenant actor o.coordinate o.recordedAt (w.reported env tenant actor o)
        fs log w₁ ∧ w'.store = w₁.store ∧ w'.entries = w₁.entries := by
  cases h with
  | invalid => exact .inl ⟨rfl, rfl⟩
  | rejected hstore hentries => exact .inl ⟨hstore, hentries⟩
  | accepted _ hrecorded => exact .inr ⟨_, _, _, fun _ hf => hf, hrecorded, rfl, rfl⟩
  | interrupted _ hsplit _ hrecorded _ =>
    -- What was recorded before the refusal is part of what was found.
    refine .inr ⟨_, _, _, fun f hf => ?_, hrecorded, rfl, rfl⟩
    rw [hsplit]
    exact List.mem_append_left _ hf

/-- However a submission ends, it leaves the geofences alone. -/
theorem Submitted.geofences {tenant actor : Uuid} {o : Observation}
    {result : Option (Except DomainError Outcome)} {w' : World}
    (h : Submitted env tenant actor o w result w') : w'.store.geofences = w.store.geofences := by
  obtain ⟨hstore, -⟩ | ⟨_, _, _, -, hrecorded, hstore, -⟩ := h.recorded_cases
  · rw [hstore]
  · rw [hstore]
    exact hrecorded.geofences

/-- However a submission ends, it adds no report but its own. -/
theorem Submitted.reports {tenant actor : Uuid} {o : Observation}
    {result : Option (Except DomainError Outcome)} {w' : World}
    (h : Submitted env tenant actor o w result w') : w'.store.reports = w.store.reports ∨
      w'.store.reports = w.store.reports ++ [w.report env tenant actor o] := by
  obtain ⟨hstore, -⟩ | ⟨_, _, _, -, hrecorded, hstore, -⟩ := h.recorded_cases
  · exact .inl (congrArg Store.reports hstore)
  · rw [hstore]
    exact .inr hrecorded.reports

/-- A submission of a valid location returns if no store call is refused. -/
theorem Submitted.exists_outcome {tenant actor : Uuid} {o : Observation}
    {result : Option (Except DomainError Outcome)} {w' : World}
    (h : Submitted env tenant actor o w result w') (hvalid : o.coordinate.validate = .ok ())
    (hgrants : env.Grants (fun _ => True) w w') : ∃ outcome, result = some (.ok outcome) := by
  -- A refused call would have been one that was granted.
  cases h with
  | invalid hinvalid =>
    rw [hvalid] at hinvalid
    cases hinvalid
  | rejected _ _ hrefused hsince hcalls =>
    rw [hgrants _ _ trivial hsince (hcalls ▸ List.suffix_rfl)] at hrefused
    cases hrefused
  | accepted => exact ⟨_, rfl⟩
  | interrupted _ _ _ hrecorded hrefused =>
    have hsince := World.calls_reported.trans hrecorded.calls
    rw [hgrants _ _ trivial hsince List.suffix_rfl] at hrefused
    cases hrefused

/-- A submission returns what it found. -/
theorem Submitted.findings_eq {tenant actor : Uuid} {o : Observation} {outcome : Outcome}
    {w' : World} (h : Submitted env tenant actor o w (some (.ok outcome)) w') :
    outcome.findings = env.found w tenant actor o := by
  cases h with
  | accepted => rfl

end Tracker

/-! ## The contract of a submission -/

namespace Membership

/-- A geofence is among those that a location is inside of if it was found to be. -/
theorem contains_insideIds {findings : List Finding}
    (hnodup : (findings.map Finding.geofence).Nodup) :
    ∀ f ∈ findings, (insideIds findings).contains f.geofence = f.inside := by
  intro f hf
  rw [Bool.eq_iff_iff, List.contains_iff_mem, insideIds, List.mem_map]
  constructor
  · -- The finding that put the identifier there is this one: no other has it.
    rintro ⟨f', hf', hid⟩
    rw [List.mem_filter] at hf'
    have hsame : f' = f := List.inj_on_of_nodup_map hnodup hf'.1 hf hid
    exact hsame ▸ hf'.2
  · intro hinside
    exact ⟨f, List.mem_filter.2 ⟨hf, hinside⟩, rfl⟩

/-- The transition of a finding, given whether the actor was inside before. -/
def since (f : Finding) (was : Bool) : Finding :=
  { f with transition := .classify f.inside was }

/-- If two evaluations looked at the same geofences, each transition compares what they found about
one of them. -/
theorem transitions_eq_zipWith {before now : List Finding}
    (hsame : now.map Finding.geofence = before.map Finding.geofence)
    (hnodup : (before.map Finding.geofence).Nodup) :
    transitions (insideIds before) now = List.zipWith since now (before.map Finding.inside) := by
  have hcontains := contains_insideIds hnodup
  -- From here on the set of geofences is fixed, and the two evaluations are walked in step.
  generalize insideIds before = ids at hcontains
  clear hnodup
  induction now generalizing before with
  | nil => rfl
  | cons f rest ih =>
    cases before with
    | nil => cases hsame
    | cons b others =>
      rw [List.map_cons, List.map_cons, List.cons.injEq] at hsame
      have hhead : f.withTransition ids = since f b.inside := by
        have hwas : ids.contains f.geofence = b.inside :=
          hsame.1 ▸ hcontains b List.mem_cons_self
        rw [Finding.withTransition, hwas, since]
      rw [transitions, List.map_cons, List.map_cons, List.zipWith_cons_cons, hhead]
      congr 1
      exact ih hsame.2 fun b' hb' => hcontains b' (List.mem_cons_of_mem _ hb')

end Membership

namespace Tracker

/-- Whether the actor was inside of geofences at the last report: outside of all of them if there is
no report, else as evaluating that report's location finds now. -/
def wasInside (env : Surroundings) (w : World) (tenant actor : Uuid) (geofences : List Geofence) :
    List Bool :=
  match w.store.latest tenant actor with
  | none => geofences.map fun _ => false
  | some r => (env.evaluate w.questions tenant r.coordinate geofences).1.map Finding.inside

/-- What an accepted submission leaves behind, where `geofences` are those that it looked at and
`log` holds each crossing with the event stored for it. -/
structure Contract (env : Surroundings) (tenant actor : Uuid) (o : Observation) (w w' : World)
    (outcome : Outcome) (geofences : List Geofence) (log : List (Finding × Event)) : Prop where
  /-- The submission looks at the active geofences of the tenant with a well-formed shape. -/
  listed : geofences.Perm ((w.store.geofences.map Prod.snd).filter fun g =>
    g.tenant == tenant && g.active && g.shape.wellFormed)
  /-- It looks at them by name and, for equal names, by age. -/
  sorted : geofences.Pairwise fun a b =>
    a.name < b.name ∨ a.name = b.name ∧ b.createdAt.before a.createdAt = false
  /-- There is one finding for each of them, in their order. -/
  findings : (outcome.findings.map fun f => (f.geofence, f.name, f.kind)) =
    geofences.map fun g => (g.id, g.name, g.kind)
  /-- Each transition compares what is found now with what is found at the last report. -/
  transitions : outcome.findings =
    List.zipWith Membership.since
      (env.evaluate (env.before w tenant actor).2 tenant o.coordinate geofences).1
      (wasInside env w tenant actor geofences)
  /-- Exactly the report is added to the reports. -/
  reports : w'.store.reports =
    w.store.reports ++ [⟨outcome.report, tenant, actor, o, env.clock w.readings⟩]
  /-- The log holds exactly the findings with a crossing, in their order. -/
  crossings : log.map Prod.fst = outcome.findings.filter fun f =>
    f.transition = .enter || f.transition = .exit
  /-- Each event tells of its crossing, for the actor and as observed. -/
  tellsOf : ∀ p ∈ log, Recorder.TellsOf tenant actor o.coordinate o.recordedAt p.1 p.2
  /-- Exactly the events of the log are added to the events. -/
  events : w'.store.events = w.store.events ++ log.map Prod.snd
  /-- Their identifiers are the ones that are returned. -/
  returned : outcome.events = log.map fun p => p.2.id
  /-- The hook is told about the entries to the school grounds, in their order: of whom, where, by
  which event and when. -/
  entries : w'.entries = w.entries ++
    ((log.filter fun p => p.2.kind = .enter && p.1.kind = .schoolGrounds).map fun p =>
      { tenant := p.2.tenant, actor := p.2.actor, geofence := p.2.geofence, event := p.2.id,
        occurredAt := p.2.occurredAt })
  /-- The events of these entries are marked exactly if the hook accepts them. -/
  marked : ((log.filter fun p => p.2.kind = .enter && p.1.kind = .schoolGrounds).map fun p =>
      p.2.processedAt.isSome) =
    env.verdicts w.entries
      ((log.filter fun p => p.2.kind = .enter && p.1.kind = .schoolGrounds).map fun p =>
        { tenant := p.2.tenant, actor := p.2.actor, geofence := p.2.geofence, event := p.2.id,
          occurredAt := p.2.occurredAt })
  /-- No other event is marked. -/
  unmarked : ∀ p ∈ log, ¬(p.2.kind = .enter ∧ p.1.kind = .schoolGrounds) → p.2.processedAt = none
  /-- The geofences stay as they are. -/
  kept : w'.store.geofences = w.store.geofences

/-- The geofences that a submission looks at. -/
private theorem list_evaluable_perm (s : Store) (tenant : Uuid) :
    ((s.list tenant false).filter (Membership.evaluable tenant)).Perm
      ((s.geofences.map Prod.snd).filter (Membership.evaluable tenant)) := by
  refine ((s.list_perm tenant false).filter _).trans ?_
  rw [List.filter_filter]
  refine List.Perm.of_eq (List.filter_congr fun g _ => ?_)
  simp only [Membership.evaluable, Bool.false_or]
  cases g.tenant == tenant <;> cases g.active <;> simp

/-- The transitions of a submission, geofence by geofence. -/
private theorem found_eq_zipWith (env : Surroundings) {w : World} (hindexed : w.store.Indexed)
    (tenant actor : Uuid) (o : Observation) :
    let geofences := (w.store.list tenant false).filter (Membership.evaluable tenant)
    env.found w tenant actor o =
      List.zipWith Membership.since
        (env.evaluate (env.before w tenant actor).2 tenant o.coordinate geofences).1
        (wasInside env w tenant actor geofences) := by
  intro geofences
  -- Whatever the location, the same geofences are looked at in the same order.
  have hids : ∀ n c, (env.evaluate n tenant c (w.store.list tenant false)).1.map Finding.geofence =
      geofences.map Geofence.id :=
    fun n c => Membership.map_geofence_evaluate env n tenant c _
  rw [Surroundings.found, Surroundings.now, wasInside, Membership.evaluate_filter,
    Surroundings.before]
  cases w.store.latest tenant actor with
  | none =>
    -- Without a report the actor was outside of each of them.
    have hlength : (geofences.map fun _ => false) =
        (env.evaluate w.questions tenant o.coordinate (w.store.list tenant false)).1.map
          fun _ => false := by
      have hmap := congrArg (List.map fun _ => false) (hids w.questions o.coordinate)
      rw [List.map_map, List.map_map] at hmap
      exact hmap.symm
    simp only
    rw [hlength, List.zipWith_map_right, List.zipWith_self]
    rfl
  | some r =>
    have hnodup : (geofences.map Geofence.id).Nodup :=
      (w.store.nodup_list hindexed false).sublist (List.filter_sublist.map Geofence.id)
    simp only
    rw [Membership.evaluate_filter]
    exact Membership.transitions_eq_zipWith ((hids _ _).trans (hids _ _).symm)
      (hids _ _ ▸ hnodup)

/-- If the location is valid, no store call is refused and the identifiers drawn are new, a
submission succeeds and keeps its contract, whatever the hook and the engine answer. -/
theorem submit_contract (env : Surroundings) (w : World) (tenant actor : Uuid) (o : Observation)
    (hindexed : w.store.Indexed) (hvalid : o.coordinate.validate = .ok ())
    (hgrants : env.Grants (fun _ => True) w ((submit tenant actor o).run.run env w).2)
    (hnodup : (env.drawn w ((submit tenant actor o).run.run env w).2).Nodup)
    (hnew : ∀ e ∈ w.store.events, e.id ∉ env.drawn w ((submit tenant actor o).run.run env w).2) :
    ∃ outcome geofences log,
      ((submit tenant actor o).run.run env w).1 = some (.ok outcome) ∧
      Contract env tenant actor o w ((submit tenant actor o).run.run env w).2 outcome geofences
        log := by
  have hsubmitted := submitted_run env w tenant actor o
  rw [Prog.Ensures] at hsubmitted
  generalize (submit tenant actor o).run.run env w = out at *
  obtain ⟨result, w'⟩ := out
  cases hsubmitted with
  | invalid hinvalid =>
    rw [hvalid] at hinvalid
    cases hinvalid
  | rejected _ _ hrefused hsince hcalls =>
    -- The refused call is among those made, and none of them was refused.
    rw [hgrants _ _ trivial hsince (hcalls ▸ List.suffix_rfl)] at hrefused
    cases hrefused
  | interrupted _ _ _ hrecorded hrefused =>
    have hsince := World.calls_reported.trans hrecorded.calls
    rw [hgrants _ _ trivial hsince List.suffix_rfl] at hrefused
    cases hrefused
  | @accepted log _ _ hrecorded =>
    -- The report has the first identifier drawn, and the events have the others in order.
    have hdrawn : env.drawn w w' = env.ids w.drawn :: log.map fun p => p.2.id := by
      have hle : (w.reported env tenant actor o).drawn ≤ w'.drawn := by
        rw [hrecorded.drawn]
        omega
      rw [hrecorded.map_id]
      exact Surroundings.drawn_eq_cons rfl hle
    rw [hdrawn, List.nodup_cons] at hnodup
    rw [hdrawn] at hnew
    refine ⟨_, (w.store.list tenant false).filter (Membership.evaluable tenant), log, rfl, ?_⟩
    exact {
      listed := list_evaluable_perm w.store tenant
      sorted := ((w.store.list_sorted tenant false).imp Store.listedBefore_iff.1).filter _
      findings := by
        rw [← Membership.map_subject_evaluate env (env.before w tenant actor).2 tenant o.coordinate,
          Surroundings.found, Membership.transitions, List.map_map]
        rfl
      transitions := found_eq_zipWith env hindexed tenant actor o
      reports := hrecorded.reports
      crossings := by
        rw [hrecorded.map_fst]
        refine List.filter_congr fun f _ => ?_
        cases f.transition <;> rfl
      tellsOf := hrecorded.tellsOf
      events := hrecorded.events hnodup.2 fun e he hmem =>
        hnew e he (List.mem_cons_of_mem _ hmem)
      returned := rfl
      entries := hrecorded.entries
      marked := hrecorded.marks fun m earlier _ hl hr =>
        hgrants m earlier trivial (World.calls_reported.trans hl) hr
      unmarked := by
        intro p hp hnot
        refine hrecorded.unattended p hp ?_
        simpa [Recorder.attends, AreaKind.takesAttendance] using hnot
      kept := hrecorded.geofences }

end Tracker

/-! ### On a campus -/

namespace Campus

/-- A school. -/
def school : Uuid := .ofNat 5

/-- A pupil of the school. -/
def pupil : Uuid := .ofNat 7

/-- The grounds of the school. -/
def grounds : Geofence :=
  { id := .ofNat 9, tenant := school, name := "Grounds", kind := .schoolGrounds
    shape := .polygon (.obj [("type", .str "Polygon"), ("coordinates", .arr [.arr []])])
    active := true, metadata := none, createdAt := ⟨0, 0⟩, updatedAt := ⟨0, 0⟩ }

/-- Surroundings that refuse nothing, with an engine to which the equator is inside. -/
def surroundings : Surroundings :=
  { refuses := fun _ _ => false
    accepts := fun _ _ => true
    engine := fun _ point _ => .ok ⟨point.latitude == 0, 0⟩
    clock := fun n => ⟨n, 0⟩
    ids := fun n => .ofNat (100 + n) }

/-- The pupil is observed outside of the grounds. -/
def outside : Observation := .at ⟨1, 1⟩ ⟨100, 0⟩

/-- The pupil is observed inside of the grounds, with a clock that is behind. -/
def inside : Observation := .at ⟨0, 0⟩ ⟨99, 0⟩

/-- The grounds are known, and the pupil was last observed outside of them. -/
def morning : World :=
  .start ⟨[(grounds.id, grounds)], [⟨.ofNat 1, school, pupil, outside, ⟨50, 0⟩⟩], []⟩

theorem indexed_morning : morning.store.Indexed :=
  ⟨by decide, fun _ h => by rw [List.mem_singleton.1 h]⟩

end Campus

/-- A pupil who comes in is recorded once, and the contract is kept. -/
theorem Tracker.submit_contract_campus :
    let out := (submit Campus.school Campus.pupil Campus.inside).run.run Campus.surroundings
      Campus.morning
    out.2.store.events.length = 1 ∧
      ∃ outcome geofences log, out.1 = some (.ok outcome) ∧
        Contract Campus.surroundings Campus.school Campus.pupil Campus.inside Campus.morning out.2
          outcome geofences log :=
  ⟨by decide +kernel,
    submit_contract Campus.surroundings Campus.morning Campus.school Campus.pupil Campus.inside
      Campus.indexed_morning rfl (fun _ _ _ _ _ => rfl) (by decide +kernel)
      fun _ h => absurd h List.not_mem_nil⟩

end Geofencing
