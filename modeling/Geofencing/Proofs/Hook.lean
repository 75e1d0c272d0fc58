import Geofencing.Proofs.Oblivious
import Geofencing.Proofs.Operation

/-!
# The hook does not matter

All operations of the service core are oblivious. So what the attendance hook answers, and whether
marks can be set, decides about the marks of entries and about nothing else, in one operation as in
many: `Operation.hook_immaterial`.
-/

namespace Geofencing

/-! ## Operations -/

/-- Evaluating a location only asks the engine. -/
theorem Membership.oblivious_evaluateWith {st : Stage} {tenant : Uuid} {location : Coordinate}
    {geofences : List Geofence} {Q : List Finding → Stage → Prop} (h : ∀ fs, Q fs st) :
    (evaluateWith Prog.locate tenant location geofences).Oblivious Q st := by
  have hshape : ∀ (shape : Shape) (Q : Geo.Membership → Stage → Prop), (∀ m, Q m st) →
      (ofShape Prog.locate location shape).Oblivious Q st := by
    intro shape Q hQ
    cases shape with
    | circle center radius => exact .done (hQ _)
    | polygon geometry =>
      refine .aside rfl fun answer => ?_
      cases answer with
      | ok found => exact .done (hQ found)
      | error _ => exact .done (hQ _)
  -- Every geofence is measured by itself, by the engine or without it.
  induction geofences generalizing Q with
  | nil => exact .done (h [])
  | cons g rest ih =>
    rw [evaluateWith]
    split
    · exact .bind (hshape g.shape _ fun m => .bind (ih fun fs => .done (h _)))
    · exact ih h

namespace Recorder

/-- Taking attendance marks the entry that was stored, if the hook accepts it. -/
theorem oblivious_attend {e : Event} {Q : Unit → Stage → Prop} (h : Q () (.entered e.id)) :
    (attend e).Oblivious Q (.entered e.id) :=
  .attend rfl (.done h)

theorem oblivious_record {st : Stage} {tenant actor : Uuid} {location : Coordinate}
    {occurredAt : Instant} {findings : List Finding}
    {Q : Except DomainError (List Uuid) → Stage → Prop} (h : ∀ r st, Q r st) :
    (record tenant actor location occurredAt findings).run.Oblivious Q st := by
  induction findings generalizing st Q with
  | nil => exact .done (h _ _)
  | cons f rest ih =>
    rw [record]
    split
    · exact ih h
    · rename_i kind _
      -- However the rest ends, it is handed on.
      have hrest : ∀ {st id}, (do
          let ids ← record tenant actor location occurredAt rest
          return id :: ids : Service (List Uuid)).run.Oblivious Q st := by
        intro st id
        refine .run_bind (ih fun r st => ?_)
        cases r with
        | ok ids => exact .done (h _ _)
        | error e => exact h _ _
      refine .run_bind (.lift_bind (.draw fun id => .done ?_))
      refine .lift_bind (.clock fun createdAt => .done ?_)
      let e := event id tenant actor f kind location occurredAt createdAt
      refine .insertEvent_bind (e := e) (fun _ => h _ _) ?_
      refine .lift_bind (.aside rfl fun _ => .done ?_)
      split
      · rename_i hattends
        have hentered : Stage.after e = .entered e.id := if_pos hattends.1
        rw [hentered]
        exact .lift_bind (oblivious_attend (e := e) (.done hrest))
      · exact .done hrest

end Recorder

namespace Tracker

variable {st : Stage}

theorem oblivious_previouslyInside {tenant : Uuid} {geofences : List Geofence}
    {last : Option Report} {Q : List Uuid → Stage → Prop} (h : ∀ ids, Q ids st) :
    (previouslyInside tenant geofences last).Oblivious Q st := by
  cases last with
  | none => exact .done (h [])
  | some r => exact .bind (Membership.oblivious_evaluateWith fun _ => .done (h _))

/-- A submission is oblivious. -/
theorem oblivious_submit (tenant actor : Uuid) (o : Observation) :
    (submit tenant actor o).run.Oblivious (fun _ _ => True) st := by
  refine .run_bind (.done ?_)
  cases o.coordinate.validate with
  | error e => trivial
  | ok _ =>
    -- A call that fails ends the submission, and there is nothing more to say.
    refine .store_bind rfl (fun _ => trivial) fun geofences => ?_
    refine .store_bind rfl (fun _ => trivial) fun previous => ?_
    refine .lift_bind (oblivious_previouslyInside fun before => ?_)
    refine .lift_bind (.draw fun id => .done ?_)
    refine .lift_bind (.clock fun createdAt => .done ?_)
    refine .store_bind rfl (fun _ => trivial) fun _ => ?_
    refine .lift_bind (.aside rfl fun _ => .done ?_)
    refine .lift_bind (Membership.oblivious_evaluateWith fun findings => ?_)
    refine .run_bind (Recorder.oblivious_record fun r st => ?_)
    cases r with
    | error e => trivial
    | ok events => exact .done trivial

/-- And so is a purge. -/
theorem oblivious_purge (policy : RetentionPolicy) (scope : Option Uuid) :
    (purge policy scope).run.Oblivious (fun _ _ => True) st := by
  refine .lift_bind (.clock fun now => .done ?_)
  split
  · exact .abort
  · refine .store_bind rfl (fun _ => trivial) fun deleted => ?_
    exact .lift_bind (.aside rfl fun _ => .done (.done trivial))

end Tracker

namespace Operation

/-- What operations read off the clock, but for the times of marks. -/
def stamps (env : Surroundings) : World → List Operation → List Instant
  | _, [] => []
  | w, op :: rest => op.program.run.stamps env w ++ stamps env (op.run env w) rest

theorem oblivious_program (op : Operation) :
    op.program.run.Oblivious (fun _ _ => True) .idle := by
  cases op with
  | submit tenant actor o => exact Tracker.oblivious_submit tenant actor o
  | create | update | delete => exact .aside rfl fun _ => .done trivial
  | purge policy scope => exact Tracker.oblivious_purge policy scope

variable {env env' : Surroundings}

theorem drawn_foldl_run (env : Surroundings) (w : World) (ops : List Operation) :
    w.drawn ≤ (ops.foldl (run env) w).drawn := by
  induction ops generalizing w with
  | nil => exact Nat.le_refl _
  | cons op rest ih =>
    refine Nat.le_trans ?_ (ih (op.run env w))
    rw [run_eq_program]
    exact Prog.drawn_run env op.program.run w

/-- Operations one after another run in step. -/
theorem inStep_foldl_run (hsame : env.SameButHook env') {w w' later : World}
    {ops : List Operation} {ticks : List Instant} (hstep : w.InStep w')
    (hfresh : Stage.idle.Holds env later w) (hlater : (ops.foldl (run env) w).drawn ≤ later.drawn)
    (hticks : stamps env w ops <+: ticks) (hticks' : stamps env' w' ops <+: ticks) :
    returned env w ops = returned env' w' ops ∧
      (ops.foldl (run env) w).InStep (ops.foldl (run env') w') := by
  induction ops generalizing w w' ticks with
  | nil => exact ⟨rfl, hstep⟩
  | cons op rest ih =>
    have hseen := (List.prefix_append _ _).trans hticks
    have hseen' := (List.prefix_append _ _).trans hticks'
    have hdrawn : (op.run env w).drawn ≤ later.drawn :=
      Nat.le_trans (drawn_foldl_run env _ rest) hlater
    rw [run_eq_program] at hdrawn
    obtain ⟨hvalue, hworld, hstamps, hfresh'⟩ :=
      op.oblivious_program.runsInStep hsame hstep hfresh hdrawn hseen hseen'
    rw [← run_eq_program] at hworld hfresh'
    rw [← run_eq_program] at hworld
    -- Both runs have seen the same times so far, so they see the same ones from here on.
    obtain ⟨more, rfl⟩ := hseen
    have hrest := (List.prefix_append_right_inj _).1 hticks
    rw [stamps, ← hstamps] at hticks'
    have hrest' := (List.prefix_append_right_inj _).1 hticks'
    obtain ⟨hvalues, hworlds⟩ := ih hworld hfresh' hlater hrest hrest'
    refine ⟨?_, hworlds⟩
    rw [returned, returned, hvalue, hvalues]

/-- The hook does not matter. If two runs of the same operations from the same world differ in
nothing but what the hook answers, which marks are refused and the time of marks, and the
identifiers drawn are new, then all operations return the same, the hook is told the same, and the
stores differ in the marks of entries alone. -/
theorem hook_immaterial (hsame : env.SameButHook env') (w : World) (ops : List Operation)
    {ticks : List Instant} (hticks : stamps env w ops <+: ticks)
    (hticks' : stamps env' w ops <+: ticks)
    (hnodup : (env.drawn w (ops.foldl (run env) w)).Nodup)
    (hnew : ∀ e ∈ w.store.events, e.id ∉ env.drawn w (ops.foldl (run env) w)) :
    let last := ops.foldl (run env) w
    let last' := ops.foldl (run env') w
    returned env w ops = returned env' w ops ∧ last.entries = last'.entries ∧
      last.store.eraseMarks = last'.store.eraseMarks := by
  intro last last'
  have hfresh : Stage.idle.Holds env last w := ⟨hnodup, hnew, trivial⟩
  obtain ⟨hvalues, hworld⟩ :=
    inStep_foldl_run hsame (.refl w) hfresh (Nat.le_refl _) hticks hticks'
  exact ⟨hvalues, hworld.entries, hworld.store⟩

end Operation

/-! ### A hook that accepts nothing -/

namespace Campus

/-- Surroundings with a hook that accepts nothing. From the first entry on the clock shows the times
that it would show if the entry had been marked. -/
def unattended : Surroundings :=
  { surroundings with
    accepts := fun _ _ => false
    clock := fun n => if n < 2 then ⟨n, 0⟩ else ⟨n + 1, 0⟩ }

/-- The pupil comes and goes. -/
def comingAndGoing : List Operation :=
  [.submit school pupil inside, .submit school pupil outside]

end Campus

/-- Whether the entry of the pupil is marked or not, nothing else is different. -/
theorem Operation.hook_immaterial_campus :
    let last := Campus.comingAndGoing.foldl (run Campus.surroundings) Campus.morning
    let last' := Campus.comingAndGoing.foldl (run Campus.unattended) Campus.morning
    (last.store.events.map fun e => (e.kind, e.processedAt.isSome)) =
      [(.enter, true), (.exit, false)] ∧
    (last'.store.events.map fun e => (e.kind, e.processedAt.isSome)) =
      [(.enter, false), (.exit, false)] ∧
    returned Campus.surroundings Campus.morning Campus.comingAndGoing =
      returned Campus.unattended Campus.morning Campus.comingAndGoing ∧
    last.entries = last'.entries ∧ last.store.eraseMarks = last'.store.eraseMarks := by
  intro last last'
  have hsame : Campus.surroundings.SameButHook Campus.unattended :=
    ⟨rfl, rfl, fun _ _ _ _ _ => rfl⟩
  have hticks : stamps Campus.unattended Campus.morning Campus.comingAndGoing <+:
      stamps Campus.surroundings Campus.morning Campus.comingAndGoing :=
    ⟨[], by decide +kernel⟩
  refine ⟨by decide +kernel, by decide +kernel, ?_⟩
  exact hook_immaterial hsame Campus.morning Campus.comingAndGoing List.prefix_rfl hticks
    (by decide +kernel) fun _ h => absurd h List.not_mem_nil

end Geofencing
