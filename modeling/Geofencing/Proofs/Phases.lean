import Geofencing.Proofs.Interleaving
import Geofencing.Proofs.Submission

/-!
# The phases of a submission

A submission first looks up the last report of its actor, then stores the new one, and then records
events. `Tracker.Moves` lists what it may do in each phase, and `Tracker.follows_submit` says that
it does nothing else. From this follows which views decide a submission and which of them miss it.
-/

namespace Geofencing

/-- Evaluating a location only asks the engine. -/
theorem Membership.follows_evaluateWith {σ : Type} {moves : σ → Action → σ → Prop}
    {mine : Uuid → Prop} {p : σ} {t : Uuid} {location : Coordinate} {geofences : List Geofence}
    {Q : List Finding → σ → Prop}
    (hlocate : ∀ point geometry, moves p (.locate point geometry) p) (h : ∀ fs, Q fs p) :
    (evaluateWith Prog.locate t location geofences).Follows moves mine p Q := by
  have hshape : ∀ (shape : Shape) (Q : Geo.Membership → σ → Prop), (∀ m, Q m p) →
      (ofShape Prog.locate location shape).Follows moves mine p Q := by
    intro shape Q hQ
    cases shape with
    | circle center radius => exact hQ _
    | polygon geometry =>
      rw [ofShape, Prog.follows_bind]
      refine Prog.follows_act (hlocate location geometry) fun answer _ => ?_
      cases answer with
      | ok found => exact hQ found
      | error _ => exact hQ _
  -- What is found does not matter, so the postcondition is free in the induction.
  induction geofences generalizing Q with
  | nil => exact h []
  | cons g rest ih =>
    rw [evaluateWith]
    split
    · rw [Prog.follows_bind]
      refine hshape g.shape _ fun m => ?_
      rw [Prog.follows_bind]
      exact ih fun fs => h _
    · exact ih h

namespace Tracker

/-- How far a submission got. -/
inductive Phase where
  /-- It has not looked up the last report. -/
  | asking
  /-- It has looked up the last report and not stored the new one. -/
  | reporting
  /-- It has stored the report, or tried to. -/
  | recording
  deriving DecidableEq

/-- What a submission does in each phase. -/
inductive Moves (tenant actor : Uuid) (mine : Uuid → Prop) : Phase → Action → Phase → Prop
  /-- First the active geofences of the tenant are listed. -/
  | list : Moves tenant actor mine .asking (.store (.findActive tenant)) .asking
  /-- Then the latest report of the actor is looked up. -/
  | read : Moves tenant actor mine .asking (.store (.latest tenant actor)) .reporting
  /-- A report about the actor is stored. -/
  | report {r : Report} (about : r.isAbout tenant actor = true) :
      Moves tenant actor mine .reporting (.store (.insertReport r)) .recording
  /-- Events about the actor are stored under identifiers of the call's own. -/
  | event {e : Event} (about : e.isAbout tenant actor = true) (own : mine e.id) :
      Moves tenant actor mine .recording (.store (.insertEvent e)) .recording
  /-- Such an event may be marked. -/
  | mark {id : Uuid} {t : Instant} (own : mine id) :
      Moves tenant actor mine .recording (.store (.markProcessed tenant id t)) .recording
  /-- Whatever is no store call is nobody else's business. -/
  | aside {p : Phase} {a : Action} (apart : a.aside = true) : Moves tenant actor mine p a p

variable {tenant actor : Uuid} {mine : Uuid → Prop} {p : Phase}

/-! ## What a submission does -/

/-- An action without a store call is taken in any phase and leads nowhere else. -/
private theorem follows_aside {a : Action} {Q : a.Reply → Phase → Prop}
    (apart : a.aside = true) (h : ∀ reply, a.Fits mine reply → Q reply p) :
    (Prog.act a).Follows (Moves tenant actor mine) mine p Q :=
  Prog.follows_act (.aside apart) h

/-- Attendance marks an event of the submission at most. -/
private theorem follows_attend {e : Event} (htenant : e.tenant = tenant) (hmine : mine e.id)
    {Q : Unit → Phase → Prop} (h : Q () .recording) :
    (Recorder.attend e).Follows (Moves tenant actor mine) mine .recording Q := by
  rw [Recorder.attend, Prog.follows_bind]
  refine follows_aside rfl fun accepted _ => ?_
  cases accepted with
  | false => exact h
  | true =>
    -- The mark is for the event that was just stored.
    rw [if_pos rfl, Prog.follows_bind]
    refine follows_aside rfl fun now _ => ?_
    rw [Prog.follows_bind, htenant]
    exact Prog.follows_act (.mark hmine) fun _ _ => h

/-- Recording stores and marks events of the submission only. -/
private theorem follows_record {location : Coordinate} {occurredAt : Instant}
    {findings : List Finding} {Q : Except DomainError (List Uuid) → Phase → Prop}
    (h : ∀ r, Q r .recording) :
    (Recorder.record tenant actor location occurredAt findings).run.Follows
      (Moves tenant actor mine) mine .recording Q := by
  induction findings generalizing Q with
  | nil => exact h _
  | cons f rest ih =>
    rw [Recorder.record]
    split
    · exact ih h
    · rename_i kind _
      simp only [Recorder.recordOne, Prog.follows_run_bind, Prog.follows_run_lift]
      refine follows_aside rfl fun id hid => ?_
      refine follows_aside rfl fun createdAt _ => ?_
      -- The event is of the actor, and its identifier was just drawn.
      have hown : mine id := hid
      have habout : (Recorder.event id tenant actor f kind location occurredAt createdAt).isAbout
          tenant actor = true := by
        simp [Event.isAbout, Recorder.event]
      refine Prog.follows_run_store (.event habout hown) (fun _ => h _) fun _ => ?_
      refine follows_aside rfl fun _ _ => ?_
      split
      · simp only [Prog.follows_run_bind, Prog.follows_run_lift]
        apply follows_attend
        · rfl
        · exact hown
        · exact ih fun r => by cases r <;> exact h _
      · exact ih fun r => by cases r <;> exact h _

/-- To look at the previous report only asks the engine. -/
private theorem follows_previouslyInside {t : Uuid} {geofences : List Geofence}
    {last : Option Report} {Q : List Uuid → Phase → Prop} (h : ∀ ids, Q ids p) :
    (previouslyInside t geofences last).Follows (Moves tenant actor mine) mine p Q := by
  cases last with
  | none => exact h []
  | some r =>
    rw [previouslyInside, Prog.follows_bind]
    exact Membership.follows_evaluateWith (fun _ _ => .aside rfl) fun _ => h _

/-- A submission goes through its phases. -/
theorem follows_submit (tenant actor : Uuid) (mine : Uuid → Prop) (o : Observation) :
    (submit tenant actor o).run.Follows (Moves tenant actor mine) mine .asking fun _ _ => True := by
  simp only [submit, Prog.follows_run_bind, Prog.follows_run_mk, Prog.follows_pure]
  cases o.coordinate.validate with
  | error e => trivial
  | ok _ =>
    -- Two lookups, the report, then the events. A call that fails ends the submission, and there is
    -- nothing more to follow.
    refine Prog.follows_run_store .list (fun _ => trivial) fun geofences => ?_
    refine Prog.follows_run_store .read (fun _ => trivial) fun previous => ?_
    simp only [Prog.follows_run_lift]
    refine follows_previouslyInside fun before => ?_
    refine follows_aside rfl fun id _ => ?_
    refine follows_aside rfl fun createdAt _ => ?_
    have habout : Report.isAbout ⟨id, tenant, actor, o, createdAt⟩ tenant actor = true := by
      simp [Report.isAbout]
    refine Prog.follows_run_store (.report habout) (fun _ => trivial) fun _ => ?_
    refine follows_aside rfl fun _ _ => ?_
    refine Membership.follows_evaluateWith (fun _ _ => .aside rfl) fun findings => ?_
    exact follows_record fun r => by cases r <;> trivial

/-! ## Views of a submission -/

variable {a : Action} {p' : Phase} {v : View}

/-- A view that covers the call's own events decides what it does, if it also covers the reports of
the actor or they are no longer looked at. -/
theorem Moves.seenBy (h : Moves tenant actor mine p a p') (hmine : ∀ id, mine id → v.mine id = true)
    (hreports : p = .asking → v.reports = true ∧ tenant = v.tenant ∧ actor = v.actor) :
    a.SeenBy v := by
  cases h with
  | list | report | event => trivial
  | read => exact hreports rfl
  | mark own => exact hmine _ own
  | aside apart => exact Action.seenBy_of_aside apart

/-- A view without the call's own events misses what it does, if it covers another actor, or only
what the call does not write. -/
theorem Moves.hiddenFrom (h : Moves tenant actor mine p a p')
    (hmine : ∀ id, mine id → v.mine id = false)
    (hreports : p = .reporting → v.reports = true → ¬(tenant = v.tenant ∧ actor = v.actor))
    (hhistory : v.history = true → ¬(tenant = v.tenant ∧ actor = v.actor)) : a.HiddenFrom v := by
  cases h with
  | list | read => trivial
  | @report r about =>
    -- A view of the reports is one of another actor, or this phase is over.
    intro hv
    have hother := hreports rfl hv
    simp only [Report.isAbout, Bool.and_eq_true, beq_iff_eq] at about
    simp only [Report.isAbout, about.1, about.2]
    simpa using hother
  | @event e about own =>
    refine ⟨hmine _ own, fun hv => ?_⟩
    have hother := hhistory hv
    simp only [Event.isAbout, Bool.and_eq_true, beq_iff_eq] at about
    simp only [Event.isAbout, about.1, about.2]
    simpa using hother
  | mark own => exact hmine _ own
  | aside apart => exact Action.hiddenFrom_of_aside apart

/-! ## Calls -/

/-- A submission with the surroundings in which it runs. -/
structure Call where
  env : Surroundings
  tenant : Uuid
  actor : Uuid
  observation : Observation

namespace Call

/-- A call that has not begun. -/
def thread (c : Call) (s : Store) : Thread (Except DomainError Outcome) :=
  ⟨c.env, (submit c.tenant c.actor c.observation).run, .start s⟩

/-- What becomes of a call that runs alone. -/
def alone (c : Call) (s : Store) : Option (Except DomainError Outcome) × World :=
  (submit c.tenant c.actor c.observation).run.run c.env (.start s)

variable {c : Call} {s s' : Store} {phases : Phase → Prop}

/-- A call starts out in its first phase. -/
theorem sound_thread (c : Call) (s : Store) (hids : ∀ n, mine (c.env.ids n)) :
    (c.thread s).Sound (Moves c.tenant c.actor mine) mine .asking :=
  ⟨follows_submit c.tenant c.actor mine c.observation, hids⟩

/-- A call ends alike in stores that look the same in a view that decides it. -/
theorem alone_alike (hv : v.Decides (Moves c.tenant c.actor mine) phases) (hp : phases .asking)
    (hids : ∀ n, mine (c.env.ids n)) (h : s.Alike v s') : EndAlike v (c.alone s) (c.alone s') :=
  ((sound_thread c s hids).future_alike hp hv h).1

/-- A view that misses a call is the same after it. -/
theorem alike_alone (hv : v.Misses (Moves c.tenant c.actor mine) phases) (hp : phases .asking)
    (hids : ∀ n, mine (c.env.ids n)) : s.Alike v (c.alone s).2.store :=
  (sound_thread c s hids).follows.alike_run (w := .start s) hv hids hp

/-- A call always returns. -/
theorem exists_alone (c : Call) (s : Store) : ∃ result, (c.alone s).1 = some result := by
  have hsubmitted := submitted_run c.env (.start s) c.tenant c.actor c.observation
  rw [Prog.Ensures] at hsubmitted
  change Submitted _ _ _ _ _ (c.alone s).1 (c.alone s).2 at hsubmitted
  generalize c.alone s = out at hsubmitted
  obtain ⟨result, w⟩ := out
  cases hsubmitted <;> exact ⟨_, rfl⟩

end Call

/-- Some calls over one store, none of which has begun. -/
def start {ι : Type} (calls : ι → Call) (s : Store) : System ι (Except DomainError Outcome) :=
  ⟨fun i => (calls i).thread s, s⟩

end Tracker

end Geofencing
