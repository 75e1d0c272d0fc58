import Geofencing.Proofs.Authorization
import Geofencing.Proofs.Purge
import Geofencing.Proofs.Replay
import Geofencing.Proofs.Views

/-!
# The order of arrival

A report carries two times: when the position was observed, which the client says, and when the
report arrived, which the clock says. Neither decides where the store keeps it. Every report is put
after those that are there, and the last one of an actor is taken for the latest.

Under a clock that never runs backwards, the reports then are in the order of the times at which
they arrived. A purge takes some of them away and leaves the others in their order, so this stays
true whatever happens (`Surroundings.Reaches.timely`), and the latest report of an actor by its
place in the store is the one that arrived last by the clock: `Surroundings.Reaches.latest_newest`.
-/

namespace Geofencing

/-! ## Instants in order -/

namespace Instant

variable {a b c : Instant}

/-- Instants are compared by their seconds and then by the rest. -/
theorem notAfter_iff :
    a.notAfter b = true ↔ a.seconds < b.seconds ∨ a.seconds = b.seconds ∧ a.nanos ≤ b.nanos := by
  simp only [notAfter, Bool.not_eq_true', ← Bool.not_eq_true, before_iff]
  omega

@[simp]
theorem notAfter_refl (a : Instant) : a.notAfter a = true :=
  notAfter_iff.2 (.inr ⟨rfl, Nat.le_refl _⟩)

theorem notAfter_trans (hab : a.notAfter b = true) (hbc : b.notAfter c = true) :
    a.notAfter c = true := by
  rw [notAfter_iff] at *
  omega

end Instant

/-- The clock never runs backwards. -/
def Surroundings.Forward (env : Surroundings) : Prop :=
  ∀ n, (env.clock n).notAfter (env.clock (n + 1)) = true

/-- Under a clock that never runs backwards, an earlier reading shows no later time. -/
theorem Surroundings.Forward.notAfter {env : Surroundings} (h : env.Forward) {m n : Nat}
    (hle : m ≤ n) : (env.clock m).notAfter (env.clock n) = true := by
  induction hle with
  | refl => exact Instant.notAfter_refl _
  | step _ ih => exact Instant.notAfter_trans ih (h _)

/-! ## Reports in order -/

namespace Store

/-- No report is stored after one that arrived later. -/
def Chronological (s : Store) : Prop :=
  s.reports.Pairwise fun r r' => r.createdAt.notAfter r'.createdAt = true

/-- A report is about an actor, no other one about the actor arrived later, and none that arrived at
the same time is stored after it. -/
def Newest (s : Store) (tenant actor : Uuid) (r : Report) : Prop :=
  r.isAbout tenant actor = true ∧ ∃ earlier later, s.reports = earlier ++ r :: later ∧
    (∀ r' ∈ earlier, r'.isAbout tenant actor = true → r'.createdAt.notAfter r.createdAt = true) ∧
    ∀ r' ∈ later, r'.isAbout tenant actor = true → r'.createdAt.before r.createdAt = true

/-- Among reports in order, the latest one is the newest one. -/
theorem Chronological.latest_eq_some_iff {s : Store} (h : s.Chronological) {tenant actor : Uuid}
    {r : Report} : s.latest tenant actor = some r ↔ s.Newest tenant actor r := by
  rw [latest, List.find?_eq_some_iff_append, Newest]
  refine and_congr_right fun _ => ?_
  constructor
  · -- The search goes backwards, so what it passes over is what arrived later.
    rintro ⟨later, earlier, hsplit, hlater⟩
    have hreports : s.reports = earlier.reverse ++ r :: later.reverse := by
      simpa using congrArg List.reverse hsplit
    rw [Chronological, hreports, List.pairwise_append] at h
    refine ⟨earlier.reverse, later.reverse, hreports, ?_, ?_⟩
    · exact fun r' hr' _ => h.2.2 r' hr' r List.mem_cons_self
    · intro r' hr' habout
      have hother := hlater r' (List.mem_reverse.1 hr')
      rw [habout] at hother
      cases hother
  · rintro ⟨earlier, later, hreports, -, hlater⟩
    refine ⟨later.reverse, earlier.reverse, by simp [hreports], fun r' hr' => ?_⟩
    -- What is stored after the report arrived no earlier, so it is not about the actor.
    rw [Chronological, hreports, List.pairwise_append, List.pairwise_cons] at h
    have hr' := List.mem_reverse.1 hr'
    have hle : r.createdAt.notAfter r'.createdAt = true := h.2.1.1 r' hr'
    rw [Bool.not_eq_true']
    by_contra habout
    have hlt : r'.createdAt.before r.createdAt = true :=
      hlater r' hr' (Bool.not_eq_false _ ▸ habout)
    rw [Instant.notAfter, hlt] at hle
    cases hle

/-- The reports are in order, and what the clock shows from the reading `n` on is not before any of
them. -/
structure Timely (env : Surroundings) (n : Nat) (s : Store) : Prop where
  chronological : s.Chronological
  past : ∀ r ∈ s.reports, ∀ m, n ≤ m → r.createdAt.notAfter (env.clock m) = true

variable {env : Surroundings} {s s' : Store} {m n : Nat}

theorem timely_of_nil (h : s.reports = []) : s.Timely env n := by
  constructor
  · rw [Chronological, h]
    exact .nil
  · rw [h]
    exact fun _ hr => absurd hr List.not_mem_nil

/-- Time passes, and reports are removed. -/
theorem Timely.mono (h : s.Timely env m) (hle : m ≤ n) (hreports : s'.reports.Sublist s.reports) :
    s'.Timely env n :=
  ⟨h.chronological.sublist hreports,
    fun r hr k hk => h.past r (hreports.subset hr) k (Nat.le_trans hle hk)⟩

/-- A report arrives. -/
theorem Timely.add (h : s.Timely env m) (hclock : env.Forward) (hle : m ≤ n) {r : Report}
    (hcreated : r.createdAt = env.clock m) (hreports : s'.reports = s.reports ++ [r]) :
    s'.Timely env n := by
  have hforward : ∀ k, n ≤ k → r.createdAt.notAfter (env.clock k) = true :=
    fun k hk => hcreated ▸ hclock.notAfter (Nat.le_trans hle hk)
  constructor
  · rw [Chronological, hreports, List.pairwise_append]
    refine ⟨h.chronological, List.pairwise_singleton _ _, fun r' hr' r'' hr'' => ?_⟩
    -- The clock has moved on since the others arrived.
    rw [List.mem_singleton.1 hr'', hcreated]
    exact h.past r' hr' m (Nat.le_refl _)
  · rw [hreports]
    intro r' hr' k hk
    rcases List.mem_append.1 hr' with hold | hnew
    · exact h.past r' hold k (Nat.le_trans hle hk)
    · exact List.mem_singleton.1 hnew ▸ hforward k hk

/-- Only one kind of call adds to the reports, and none changes their order. -/
theorem reports_perform {call : StoreCall} (hcall : call.method ≠ .insertReport)
    {value : call.Value} (h : s.perform call = .ok (value, s')) :
    s'.reports.Sublist s.reports := by
  cases call with
  | insertReport => exact absurd rfl hcall
  | deleteBefore =>
    cases h
    exact List.filter_sublist
  | findActive | find | list | latest | insertEvent | listEvents | countEvents =>
    cases h
    exact .refl _
  | create | update | delete | markProcessed =>
    rw [perform] at h
    split at h <;> cases h <;> exact .refl _

end Store

/-! ## Steps -/

variable {env : Surroundings} {w w' : World} {n : Nat}

/-- However a submission ends, the reports are in order. -/
theorem Tracker.Submitted.timely {tenant actor : Uuid} {o : Observation}
    {result : Option (Except DomainError Outcome)}
    (h : Submitted env tenant actor o w result w') (hclock : env.Forward)
    (htimely : w.store.Timely env n) (hn : n ≤ w.readings) (hle : n ≤ w'.readings) :
    w'.store.Timely env w'.readings := by
  -- If a report was stored at all, it carries what the clock showed then.
  have hadded : ∀ {fs log w₁}, Recorder.Recorded env tenant actor o.coordinate o.recordedAt
      (w.reported env tenant actor o) fs log w₁ → w₁.store.Timely env w₁.readings := by
    intro fs log w₁ hrecorded
    have hread : w.readings ≤ w₁.readings :=
      Nat.le_trans (Nat.le_succ _) hrecorded.readings_le
    exact (htimely.mono hn (.refl _)).add hclock hread rfl hrecorded.reports
  cases h with
  | invalid => exact htimely.mono hle (.refl _)
  | rejected hstore =>
    rw [hstore]
    exact htimely.mono hle (.refl _)
  | accepted _ hrecorded => exact hadded hrecorded
  | interrupted _ _ _ hrecorded _ => exact (hadded hrecorded).mono (Nat.le_succ _) (.refl _)

/-- A call that adds no report keeps the reports in order. -/
theorem World.timely_callStore {call : StoreCall} (hcall : call.method ≠ .insertReport)
    (h : w.store.Timely env w.readings) :
    (w.callStore env call).2.store.Timely env (w.callStore env call).2.readings := by
  rw [readings_callStore]
  obtain ⟨-, hw⟩ | ⟨-, _, -, hw⟩ | ⟨-, _, _, hs, hw⟩ := callStore_cases env w call
  · exact hw ▸ h
  · exact hw ▸ h
  · rw [hw]
    exact h.mono (Nat.le_refl _) (Store.reports_perform hcall hs)

/-- Every operation keeps the reports in order. -/
theorem Operation.timely (op : Operation) (hclock : env.Forward)
    (h : w.store.Timely env w.readings) :
    (op.run env w).store.Timely env (op.run env w).readings := by
  -- Time goes on during an operation, and a submission stores a report of that time.
  have hread : w.readings ≤ (op.run env w).readings := by
    rw [run_eq_program]
    exact Prog.readings_run env _ w
  cases op with
  | submit tenant actor o =>
    exact (Tracker.submitted_run env w tenant actor o).timely hclock h (Nat.le_refl _) hread
  | create g => exact World.timely_callStore nofun h
  | update g => exact World.timely_callStore nofun h
  | delete tenant id => exact World.timely_callStore nofun h
  | purge policy scope =>
    obtain hsame | ⟨cutoff, hstore⟩ := store_purge env w policy scope
    · rw [hsame]
      exact h.mono hread (.refl _)
    · rw [hstore]
      exact h.mono hread List.filter_sublist

namespace Http

/-- Whatever a request does keeps the reports in order. -/
theorem Deed.timely {app : App} {req : Request} {asked : Method} {resource : Option Resource}
    {result : Option (Except Refusal Response)} (h : Deed app env req w asked resource result w')
    (hclock : env.Forward) (htimely : w.store.Timely env n) (hn : n ≤ w.readings)
    (hle : n ≤ w'.readings) : w'.store.Timely env w'.readings := by
  cases h with
  | nothing store _ =>
    rw [store]
    exact htimely.mono hle (.refl _)
  | submitted _ _ _ _ submitted =>
    exact submitted.timely hclock htimely (Nat.le_add_right_of_le hn) hle
  | created => exact htimely.mono hle (.refl _)
  | updated => exact htimely.mono hle (.refl _)
  | deleted => exact htimely.mono hle (.refl _)
  | purged => exact htimely.mono hle List.filter_sublist

/-- Every request keeps the reports in order, whatever the application answers. -/
theorem App.timely_handle (app : App) (req : Request) (hclock : env.Forward)
    (h : w.store.Timely env w.readings) :
    ((app.handle req).run env w).2.store.Timely env ((app.handle req).run env w).2.readings := by
  have hhandled : Handled app env req w _ _ := handle_deed app env req w
  have hread : w.readings ≤ ((app.handle req).run env w).2.readings := Prog.readings_run env _ w
  have hstore : (named env req w).2.store = w.store := (named_same env req w).1
  have hnamed : w.readings ≤ (named env req w).2.readings := Nat.le_of_eq readings_named.symm
  generalize (app.handle req).run env w = out at hhandled hread ⊢
  obtain ⟨answer, w'⟩ := out
  cases hhandled with
  | options => exact h
  | answered deed => exact deed.timely hclock (hstore ▸ h) hnamed hread
  | broken deed => exact deed.timely hclock (hstore ▸ h) hnamed hread

end Http

/-! ## Runs -/

/-- The worlds that are reached from one without reports, one step after another: by operations of
the service core, by requests to applications and by their cleanups, and by whatever calls of the
store do not add reports, such as purges of any scope with any cutoff. -/
inductive Surroundings.Reaches (env : Surroundings) : World → Prop
  /-- Begin without reports. -/
  | start {w : World} (h : w.store.reports = []) : Reaches env w
  /-- Carry out an operation of the service core. -/
  | operation {w : World} (h : Reaches env w) (op : Operation) : Reaches env (op.run env w)
  /-- Answer a request. -/
  | request {w : World} (h : Reaches env w) (app : Http.App) (req : Http.Request) :
      Reaches env ((app.handle req).run env w).2
  /-- Clean up. -/
  | cleanup {w : World} (h : Reaches env w) (policy : RetentionPolicy) :
      Reaches env ((Jobs.cleanup policy).run env w).2
  /-- Call the store, but not to add a report. -/
  | call {w : World} (h : Reaches env w) (call : StoreCall)
      (hcall : call.method ≠ .insertReport) : Reaches env (w.callStore env call).2

namespace Surroundings

/-- In every world that is reached, the reports are in order. -/
theorem Reaches.timely (h : env.Reaches w) (hclock : env.Forward) :
    w.store.Timely env w.readings := by
  -- By induction on how the world was reached. Every kind of step keeps the reports in order, and
  -- what the clock shows later is not before any of them.
  induction h with
  | start hnone => exact Store.timely_of_nil hnone
  | operation _ op ih => exact op.timely hclock ih
  | request _ app req ih => exact app.timely_handle req hclock ih
  | @cleanup w _ policy ih =>
    have hread := Prog.readings_run env (Jobs.cleanup policy) w
    obtain hsame | ⟨cutoff, hstore⟩ := Http.App.store_cleanup env w policy
    · rw [hsame]
      exact ih.mono hread (.refl _)
    · rw [hstore]
      exact ih.mono hread List.filter_sublist
  | call _ call hcall ih => exact World.timely_callStore hcall ih

/-- Let the clock never run backwards. In every world that is reached one step after another, the
reports are in the order of the times at which they arrived. The latest report of an actor is the
newest one, there is none exactly if no report is about the actor, and reports about others do not
matter. -/
theorem Reaches.latest_newest (h : env.Reaches w) (hclock : env.Forward) :
    w.store.Chronological ∧ ∀ tenant actor,
      (∀ r, w.store.latest tenant actor = some r ↔ w.store.Newest tenant actor r) ∧
      (w.store.latest tenant actor = none ↔
        ∀ r ∈ w.store.reports, r.isAbout tenant actor = false) ∧
      ∀ s : Store, (s.reports.filter fun r => r.isAbout tenant actor) =
          (w.store.reports.filter fun r => r.isAbout tenant actor) →
        s.latest tenant actor = w.store.latest tenant actor := by
  have hchronological : w.store.Chronological := (h.timely hclock).chronological
  refine ⟨hchronological, fun tenant actor => ⟨fun r => ?_, Store.latest_eq_none_iff, ?_⟩⟩
  · exact hchronological.latest_eq_some_iff
  · intro s hs
    rw [Store.latest_eq_head?, Store.latest_eq_head?, hs]

/-- Several operations lead from a reached world to a reached world. -/
theorem Reaches.operations (h : env.Reaches w) (ops : List Operation) :
    env.Reaches (ops.foldl (Operation.run env) w) := by
  induction ops generalizing w with
  | nil => exact h
  | cons op ops ih => exact ih (h.operation op)

end Surroundings

/-- The pupil's newest report in the end is one with an observation that is older than others. Once
a purge has removed the observations of that time, the newest one is a report that was stored
earlier. -/
theorem Surroundings.Reaches.latest_newest_campus :
    let evening := Campus.after Campus.day
    let purged := (evening.callStore Campus.surroundings (.deleteBefore none ⟨100, 0⟩)).2
    (∃ r, r.observation = Campus.inside ∧
      evening.store.Newest Campus.school Campus.pupil r) ∧
    ∃ r, r.observation = Campus.outside ∧ purged.store.Newest Campus.school Campus.pupil r := by
  intro evening purged
  -- The clock goes on by a second at each reading.
  have hclock : Campus.surroundings.Forward := by
    intro n
    rw [Instant.notAfter_iff]
    exact .inl (Int.lt_succ _)
  have hdawn : Campus.surroundings.Reaches Campus.dawn := .start rfl
  have hevening : Campus.surroundings.Reaches evening := hdawn.operations Campus.day
  have hpurged : Campus.surroundings.Reaches purged := hevening.call _ (by decide)
  have hinside : evening.store.latest Campus.school Campus.pupil =
      some ⟨.ofNat 106, Campus.school, Campus.pupil, Campus.inside, ⟨8, 0⟩⟩ := by
    decide +kernel
  have houtside : purged.store.latest Campus.school Campus.pupil =
      some ⟨.ofNat 102, Campus.school, Campus.pupil, Campus.outside, ⟨3, 0⟩⟩ := by
    decide +kernel
  obtain ⟨-, hlatest⟩ := hevening.latest_newest hclock
  obtain ⟨-, hlatest'⟩ := hpurged.latest_newest hclock
  have hnewest := ((hlatest Campus.school Campus.pupil).1 _).1 hinside
  have hnewest' := ((hlatest' Campus.school Campus.pupil).1 _).1 houtside
  exact ⟨⟨_, rfl, hnewest⟩, ⟨_, rfl, hnewest'⟩⟩

end Geofencing
