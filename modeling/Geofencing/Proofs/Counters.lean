import Geofencing.Proofs.Operation
import Geofencing.Proofs.Purge

/-!
# Counters and what is stored

The service counts reports when they are stored and when they are purged, and events when they are
stored. `Books` says that these counters agree with the store: what was counted in and not counted
out is there, events that went away together with their geofence aside.

Storing and counting are two actions, and either of them may be the last one before a failure. So
`Books` does not hold between the two, but it holds before and after every pair of them
(`Prog.Preserves.booked`), and no other action of an operation touches it. From one operation the
agreement carries over to any sequence of operations, whichever store calls are refused on the way:
`Operation.counters_balance`.
-/

namespace Geofencing

/-! ## Counters -/

namespace Series

/-- The value of a series among counters, zero if it was never touched. -/
def tally (series : Series) (counters : List (Series × Nat)) : Nat :=
  (counters.lookup series).getD 0

/-- The first entry for a series is its value. -/
theorem tally_cons (series s : Series) (n : Nat) (rest : List (Series × Nat)) :
    series.tally ((s, n) :: rest) = if series = s then n else series.tally rest := by
  rw [tally, List.lookup_cons]
  split
  · rename_i h
    rw [if_pos (beq_iff_eq.1 h), Option.getD_some]
  · rename_i h
    rw [if_neg (beq_eq_false_iff_ne.1 h), tally]

/-- Advancing a counter changes its own value and no other one. -/
@[simp]
theorem tally_bump (series advanced : Series) (amount : Nat) (counters : List (Series × Nat)) :
    series.tally (World.bump advanced amount counters) =
      series.tally counters + if series = advanced then amount else 0 := by
  induction counters with
  | nil =>
    rw [World.bump, tally_cons]
    simp [tally]
  | cons entry rest ih =>
    obtain ⟨s, n⟩ := entry
    rw [World.bump]
    by_cases hs : s = advanced
    · -- The counter is the first one.
      rw [if_pos hs, tally_cons, tally_cons, hs]
      split <;> rfl
    · rw [if_neg hs, tally_cons, tally_cons, ih]
      split
      · rename_i h
        rw [if_neg (h ▸ hs), Nat.add_zero]
      · rfl

end Series

theorem World.counter_eq_tally (w : World) (series : Series) :
    w.counter series = series.tally w.counters :=
  rfl

/-- The counters agree with the store, given how many events of each kind went away together with
their geofences. -/
structure Books (removed : EventKind → Nat) (s : Store) (counters : List (Series × Nat)) :
    Prop where
  /-- Reports that were counted in and not counted out are there. -/
  reports : Series.locationsSubmitted.tally counters =
    s.reports.length + Series.reportsPurged.tally counters
  /-- Events that were counted in and did not go away with a geofence are there. -/
  events : ∀ kind, (Series.eventsRecorded kind).tally counters =
    s.events.countP (·.kind == kind) + removed kind

/-! ## Programs that preserve what is counted -/

namespace Prog

variable {α β ε : Type} {I : Store → List (Series × Nat) → Prop}

/-- However a program runs and wherever it stops, it preserves what holds of the store and the
counters. -/
def Preserves (I : Store → List (Series × Nat) → Prop) (p : Prog α) : Prop :=
  ∀ env w, I w.store w.counters → p.Ensures env w fun _ w' => I w'.store w'.counters

theorem preserves_pure (a : α) : (pure a : Prog α).Preserves I := fun _ _ h => h

theorem preserves_abort : (abort : Prog α).Preserves I := fun _ _ h => h

theorem preserves_now : now.Preserves I := fun _ _ h => h

theorem preserves_fresh : fresh.Preserves I := fun _ _ h => h

theorem preserves_attend (entry : SchoolEntry) : (attend entry).Preserves I := fun _ _ h => h

theorem Preserves.bind {p : Prog α} {f : α → Prog β} (hp : p.Preserves I)
    (hf : ∀ a, (f a).Preserves I) : (p >>= f).Preserves I := by
  intro env w h
  rw [ensures_bind]
  refine (hp env w h).imp fun r w' h' => ?_
  cases r with
  | none => exact h'
  | some a => exact hf a env w' h'

/-- The second part may not be reached if the first one fails. -/
theorem Preserves.run_bind {x : ExceptT ε Prog α} {f : α → ExceptT ε Prog β}
    (hx : x.run.Preserves I) (hf : ∀ a, (f a).run.Preserves I) : (x >>= f).run.Preserves I := by
  rw [ExceptT.run_bind]
  refine hx.bind fun r => ?_
  cases r with
  | ok a => exact hf a
  | error e => exact preserves_pure _

/-- A program that cannot fail preserves the same among programs that may. -/
theorem Preserves.run_lift {p : Prog α} (hp : p.Preserves I) :
    (liftM p : ExceptT ε Prog α).run.Preserves I := by
  intro env w h
  rw [ensures_run_lift]
  exact hp env w h

/-- A store call preserves what it preserves when it is carried out. -/
theorem preserves_store {call : StoreCall}
    (h : ∀ s counters value s', s.perform call = .ok (value, s') → I s counters → I s' counters) :
    (Service.store call).run.Preserves I := by
  intro env w hw
  rw [ensures_run_store]
  obtain ⟨-, hcall⟩ | ⟨-, e, -, hcall⟩ | ⟨-, value, s, hs, hcall⟩ := w.callStore_cases env call
  · rw [hcall]
    exact hw
  · rw [hcall]
    exact hw
  · rw [hcall]
    exact h _ _ value s hs hw

/-- A lookup in the store preserves everything. -/
theorem preserves_lookup {call : StoreCall}
    (h : ∀ s : Store, ∃ value, s.perform call = .ok (value, s)) :
    (Service.store call).run.Preserves I := by
  refine preserves_store fun s _ _ s' hs hI => ?_
  obtain ⟨value, hvalue⟩ := h s
  rw [hvalue] at hs
  cases hs
  exact hI

/-- A store call whose success is counted at once may leave a gap that the counter closes. -/
theorem Preserves.booked {call : StoreCall} {series : Series} {amount : call.Value → Nat}
    {f : call.Value → Service β}
    (h : ∀ s counters value s', s.perform call = .ok (value, s') → I s counters →
      I s' (World.bump series (amount value) counters))
    (hf : ∀ value, (f value).run.Preserves I) :
    (Service.store call >>= fun value =>
      (liftM (count series (amount value)) : Service Unit) >>= fun _ =>
        f value).run.Preserves I := by
  intro env w hw
  rw [ensures_run_bind, ensures_run_store]
  obtain ⟨-, hcall⟩ | ⟨-, e, -, hcall⟩ | ⟨-, value, s, hs, hcall⟩ := w.callStore_cases env call
  · rw [hcall]
    exact hw
  · rw [hcall]
    exact hw
  · rw [hcall]
    refine ensures_run_bind.2 (ensures_run_lift.2 (ensures_count.2 ?_))
    exact hf value env _ (h _ _ value s hs hw)

end Prog

/-! ## Operations keep the books -/

variable {removed : EventKind → Nat}

/-- Evaluating a location only asks the engine. -/
theorem Membership.preserves_evaluateWith {I : Store → List (Series × Nat) → Prop} (tenant : Uuid)
    (location : Coordinate) (geofences : List Geofence) :
    (evaluateWith Prog.locate tenant location geofences).Preserves I := by
  intro env w h
  rw [Prog.Ensures, run_evaluateWith]
  exact h

namespace Books

variable {s : Store} {counters : List (Series × Nat)}

/-- The books do not mention geofences, and they do not tell marked events from others. -/
theorem of_same {s' : Store} (h : Books removed s counters) (hreports : s'.reports = s.reports)
    (hevents : s'.events.map Event.unmarked = s.events.map Event.unmarked) :
    Books removed s' counters := by
  have hkinds : ∀ kind (events : List Event), events.countP (·.kind == kind) =
      (events.map Event.unmarked).countP (·.kind == kind) := by
    intro kind events
    rw [List.countP_map]
    rfl
  refine ⟨hreports ▸ h.reports, fun kind => ?_⟩
  rw [hkinds, hevents, ← hkinds]
  exact h.events kind

/-- A stored report is counted at once. -/
theorem insertReport (h : Books removed s counters) (r : Report) :
    Books removed (s.addReport r) (World.bump .locationsSubmitted 1 counters) := by
  refine ⟨?_, fun kind => ?_⟩
  · have := h.reports
    simp [Store.addReport]
    omega
  · simpa [Store.addReport] using h.events kind

/-- A stored event is counted at once, under its kind. -/
theorem insertEvent (h : Books removed s counters) (e : Event) :
    Books removed (s.addEvent e) (World.bump (.eventsRecorded e.kind) 1 counters) := by
  refine ⟨?_, fun kind => ?_⟩
  · simpa [Store.addEvent] using h.reports
  · have := h.events kind
    by_cases hkind : e.kind = kind
    · simp [Store.addEvent, hkind]
      omega
    · simp [Store.addEvent, hkind, Ne.symm hkind]
      omega

/-- Purged reports are counted out. -/
theorem purge (h : Books removed s counters) (tenant : Option Uuid) (cutoff : Instant) :
    Books removed (s.purge tenant cutoff)
      (World.bump .reportsPurged (s.purgeCount tenant cutoff) counters) := by
  refine ⟨?_, fun kind => ?_⟩
  · have hreports := h.reports
    have hpurged := s.purgeCount_add tenant cutoff
    simp only [Series.tally_bump, reduceCtorEq, if_false, if_true]
    omega
  · simpa [Store.purge] using h.events kind

/-- The events about a geofence that is removed are not counted out, so they are remembered. -/
theorem remove (h : Books removed s counters) (id : Uuid) :
    Books (fun kind => removed kind +
      (s.events.filter (·.geofence == id)).countP (·.kind == kind)) (s.remove id) counters := by
  refine ⟨h.reports, fun kind => ?_⟩
  -- Every event of the kind is about the geofence or about another one, and these are left.
  have hsplit := s.events.countP_eq_countP_filter_add (·.kind == kind) (·.geofence == id)
  have hevents := h.events kind
  have hleft : (s.remove id).events = s.events.filter fun e => !(e.geofence == id) := rfl
  rw [hleft]
  omega

end Books

namespace Recorder

/-- The attendance of an event may mark it, which the books do not mention. -/
theorem preserves_attend (e : Event) : (attend e).Preserves (Books removed) := by
  refine (Prog.preserves_attend _).bind fun accepted => ?_
  cases accepted with
  | false => exact Prog.preserves_pure _
  | true =>
    refine Prog.preserves_now.bind fun now => ?_
    refine Prog.Preserves.bind (Prog.preserves_store fun s _ _ s' hs h => ?_) fun _ =>
      Prog.preserves_pure _
    rw [Store.perform] at hs
    split at hs
    · rename_i events hmarked
      cases hs
      exact h.of_same rfl (Store.map_unmarked_of_markFirst hmarked)
    · -- There is no such event, so nothing is marked.
      cases hs

/-- An event is stored and counted, whatever the hook says to it. -/
theorem preserves_recordOne (tenant actor : Uuid) (location : Coordinate) (occurredAt : Instant)
    (f : Finding) (kind : EventKind) :
    (recordOne tenant actor location occurredAt f kind).run.Preserves (Books removed) := by
  refine (Prog.Preserves.run_lift Prog.preserves_fresh).run_bind fun id => ?_
  refine (Prog.Preserves.run_lift Prog.preserves_now).run_bind fun createdAt => ?_
  refine Prog.Preserves.booked (fun s _ _ s' hs h => ?_) fun _ => ?_
  · cases hs
    exact h.insertEvent _
  · split
    · exact (Prog.Preserves.run_lift (preserves_attend _)).run_bind fun _ => Prog.preserves_pure _
    · exact Prog.preserves_pure _

/-- All events of a submission are stored and counted, up to the first failure. -/
theorem preserves_record (tenant actor : Uuid) (location : Coordinate) (occurredAt : Instant)
    (findings : List Finding) :
    (record tenant actor location occurredAt findings).run.Preserves (Books removed) := by
  induction findings with
  | nil => exact Prog.preserves_pure _
  | cons f rest ih =>
    rw [record]
    split
    · exact ih
    · exact (preserves_recordOne _ _ _ _ f _).run_bind fun _ =>
        ih.run_bind fun _ => Prog.preserves_pure _

end Recorder

namespace Tracker

/-- To look at the previous report keeps the books. -/
theorem preserves_previouslyInside (tenant : Uuid) (geofences : List Geofence)
    (last : Option Report) :
    (previouslyInside tenant geofences last).Preserves (Books removed) := by
  cases last with
  | none => exact Prog.preserves_pure _
  | some r => exact (Membership.preserves_evaluateWith _ _ _).bind fun _ => Prog.preserves_pure _

/-- A submission keeps the books wherever it stops. -/
theorem preserves_submit (tenant actor : Uuid) (o : Observation) :
    (submit tenant actor o).run.Preserves (Books removed) := by
  refine (Prog.preserves_pure _).run_bind fun _ => ?_
  refine (Prog.preserves_lookup fun _ => ⟨_, rfl⟩).run_bind fun geofences => ?_
  refine (Prog.preserves_lookup fun _ => ⟨_, rfl⟩).run_bind fun previous => ?_
  refine (Prog.Preserves.run_lift (preserves_previouslyInside _ _ _)).run_bind fun before => ?_
  refine (Prog.Preserves.run_lift Prog.preserves_fresh).run_bind fun id => ?_
  refine (Prog.Preserves.run_lift Prog.preserves_now).run_bind fun createdAt => ?_
  -- From here on the report is stored and counted, whatever becomes of its events.
  refine Prog.Preserves.booked (fun s _ _ s' hs h => ?_) fun _ => ?_
  · cases hs
    exact h.insertReport _
  refine (Prog.Preserves.run_lift (Membership.preserves_evaluateWith _ _ _)).run_bind fun _ => ?_
  exact (Recorder.preserves_record _ _ _ _ _).run_bind fun _ => Prog.preserves_pure _

/-- And so does a purge. -/
theorem preserves_purge (policy : RetentionPolicy) (scope : Option Uuid) :
    (purge policy scope).run.Preserves (Books removed) := by
  refine (Prog.Preserves.run_lift Prog.preserves_now).run_bind fun now => ?_
  split
  · exact Prog.preserves_abort
  · refine Prog.Preserves.booked (fun s _ _ s' hs h => ?_) fun _ => Prog.preserves_pure _
    cases hs
    exact h.purge _ _

end Tracker

namespace Operation

/-- How many events of a kind an operation removes together with a geofence: all those about the
geofence, if it is deleted. -/
def cascade (env : Surroundings) (kind : EventKind) (w : World) : Operation → Nat
  | .delete tenant id =>
    match (w.callStore env (.delete tenant id)).1 with
    | .ok true => (w.store.events.filter (·.geofence == id)).countP (·.kind == kind)
    | _ => 0
  | _ => 0

/-- How many events of a kind a sequence of operations removes together with geofences. -/
def cascades (env : Surroundings) (kind : EventKind) : World → List Operation → Nat
  | _, [] => 0
  | w, op :: rest => op.cascade env kind w + cascades env kind (op.run env w) rest

variable {w : World}

/-- An operation keeps the books. -/
theorem books_run (env : Surroundings) (h : Books removed w.store w.counters) (op : Operation) :
    Books (fun kind => removed kind + op.cascade env kind w) (op.run env w).store
      (op.run env w).counters := by
  cases op with
  | submit tenant actor o => exact Tracker.preserves_submit tenant actor o env w h
  | purge policy scope => exact Tracker.preserves_purge policy scope env w h
  | create g =>
    obtain ⟨_, hcall⟩ | ⟨-, hcall⟩ := w.callStore_create env g
    · rw [run, hcall]
      exact h
    · rw [run, hcall]
      exact h.of_same rfl rfl
  | update g =>
    obtain ⟨_, hcall⟩ | ⟨-, hcall⟩ := w.callStore_update env g
    · rw [run, hcall]
      exact h
    · rw [run, hcall]
      exact h.of_same rfl rfl
  | delete tenant id =>
    -- A deletion takes the events about the geofence along, if there is one to delete.
    obtain ⟨-, hcall⟩ | ⟨-, e, -, hcall⟩ | ⟨-, value, s, hs, hcall⟩ :=
      w.callStore_cases env (.delete tenant id)
    · simp only [run, cascade, hcall]
      exact h
    · simp only [run, cascade, hcall]
      exact h
    · rw [Store.perform] at hs
      split at hs
      · cases hs
        simp only [run, cascade, hcall]
        exact h.remove id
      · -- The tenant does not have the geofence, and no event goes away.
        cases hs
        simp only [run, cascade, hcall]
        exact h

/-- And so does a sequence of operations. -/
theorem books_foldl_run (env : Surroundings) (h : Books removed w.store w.counters)
    (ops : List Operation) :
    let w' := ops.foldl (run env) w
    Books (fun kind => removed kind + cascades env kind w ops) w'.store w'.counters := by
  -- What was removed so far is part of the books, so it changes along the way.
  induction ops generalizing w removed with
  | nil => exact h
  | cons op rest ih =>
    have hrest := ih (books_run env h op)
    simp only [Nat.add_assoc] at hrest
    exact hrest

/-- However operations follow each other and whichever store calls are refused, the reports that
were counted when they were submitted and not counted when they were purged are those that are
stored, and the events of each kind that were counted are those that are stored and those that were
removed together with their geofence. -/
theorem counters_balance (env : Surroundings) (ops : List Operation) :
    let w := ops.foldl (run env) (.start .empty)
    (w.counter .locationsSubmitted : Int) - w.counter .reportsPurged = w.store.reports.length ∧
      ∀ kind, w.counter (.eventsRecorded kind) =
        w.store.events.countP (·.kind == kind) + cascades env kind (.start .empty) ops := by
  have hstart : Books (fun _ => 0) (World.start .empty).store (World.start .empty).counters :=
    ⟨rfl, fun _ => rfl⟩
  obtain ⟨hreports, hevents⟩ := books_foldl_run env hstart ops
  simp only [Nat.zero_add] at hevents
  refine ⟨?_, hevents⟩
  rw [World.counter_eq_tally, World.counter_eq_tally]
  omega

end Operation

end Geofencing
