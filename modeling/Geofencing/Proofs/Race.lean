import Geofencing.Proofs.Bystanders
import Mathlib.Data.List.Induction
import Mathlib.Data.List.Infix

/-!
# Two submissions of one actor

A submission compares with the last report that it looked up. Between this and the storing of its
own report, another submission for the same actor can look up the same last report. Then both
compare with it, and a boundary that was crossed once is recorded twice: `Tracker.recorded_twice`.

This is all that can go wrong. `Tracker.Course` follows two submissions through any interleaving:
first nothing is stored, then either one of them stores its report before the other looks, and they
are in order, or both have looked, and each goes on as if it were alone. `Tracker.submissions_race`
says so of the end.
-/

namespace Geofencing

namespace Tracker

/-! ## The phase of a call -/

/-- The phase of a submission, from the store calls that it made. -/
def phase (calls : List StoreMethod) : Phase :=
  if .insertReport ∈ calls then .recording else if .latest ∈ calls then .reporting else .asking

section Moves

variable {tenant actor : Uuid} {mine : Uuid → Prop} {p p' : Phase} {a : Action} {w : World}
  {env : Surroundings}

/-- The phase to which an action leads is the one that the calls tell of. -/
theorem Moves.phase_perform (h : Moves tenant actor mine p a p') (hp : p = phase w.calls)
    (env : Surroundings) : phase (w.perform env a).2.calls = p' := by
  -- Whoever is asking has neither looked up a report nor stored one.
  have hasking : Phase.asking = phase w.calls →
      .insertReport ∉ w.calls ∧ .latest ∉ w.calls := by
    intro hphase
    rw [phase] at hphase
    split at hphase
    · cases hphase
    · split at hphase
      · cases hphase
      · exact ⟨‹_›, ‹_›⟩
  cases h with
  | list =>
    obtain ⟨hreport, hlatest⟩ := hasking hp
    simp [World.perform, StoreCall.method, phase, hreport, hlatest]
  | read =>
    obtain ⟨hreport, -⟩ := hasking hp
    simp [World.perform, StoreCall.method, phase, hreport]
  | report => simp [World.perform, StoreCall.method, phase]
  | event | mark =>
    have hreport : .insertReport ∈ w.calls := by
      rw [phase] at hp
      split at hp
      · assumption
      · split at hp <;> cases hp
    simp [World.perform, StoreCall.method, phase, hreport]
  | aside apart =>
    cases a with
    | store call => cases apart
    | attend | locate | readClock | freshId | count | readCounters => exact hp.symm

/-- Before the report is stored, nothing is. -/
theorem Moves.store_perform (h : Moves tenant actor mine p a p') (hp : p' ≠ .recording) :
    (w.perform env a).2.store = w.store := by
  cases h with
  | list | read =>
    simp only [World.perform, World.callStore_eq]
    split <;> rfl
  | report | event | mark => exact absurd rfl hp
  | aside apart =>
    cases a with
    | store call => cases apart
    | attend | locate | readClock | freshId | count | readCounters => rfl

/-- A submission does not go back. -/
theorem Moves.forward (h : Moves tenant actor mine p a p') :
    (p' = .asking → p = .asking) ∧ (p = .recording → p' = .recording) := by
  cases h <;> simp

/-- The phase in which a submission stores its report is left then. -/
theorem Moves.reporting_of_recording (h : Moves tenant actor mine p a p') (hp : p ≠ .recording)
    (hp' : p' = .recording) : p = .reporting := by
  cases h with
  | list | read => cases hp'
  | report => rfl
  | event | mark => exact absurd rfl hp
  | aside => exact absurd hp' hp

end Moves

/-! ## Two calls -/

/-- Two submissions for one actor, which draw different identifiers. -/
structure Pair where
  /-- What surrounds each of the two. -/
  env : Bool → Surroundings
  /-- The tenant of the actor. -/
  tenant : Uuid
  /-- Who is tracked by both. -/
  actor : Uuid
  /-- What each of the two observed. -/
  observation : Bool → Observation
  /-- Which of the two draws an identifier, if one does. -/
  owner : Uuid → Bool
  /-- No identifier is drawn by both. -/
  owns : ∀ k n, owner ((env k).ids n) = k

namespace Pair

/-- One of the two. -/
def call (c : Pair) (k : Bool) : Call := ⟨c.env k, c.tenant, c.actor, c.observation k⟩

/-- The two after some turns. -/
def after (c : Pair) (s : Store) (schedule : List Bool) :
    System Bool (Except DomainError Outcome) :=
  (start c.call s).run schedule

/-- The phase of one of the two after some turns. -/
def stage (c : Pair) (s : Store) (schedule : List Bool) (k : Bool) : Phase :=
  phase ((c.after s schedule).threads k).world.calls

/-- At some time both had looked up the last report, and neither had stored its own. -/
def Raced (c : Pair) (s : Store) (schedule : List Bool) : Prop :=
  ∃ before, before <+: schedule ∧ ∀ k, c.stage s before k = .reporting

instance (c : Pair) (s : Store) (schedule : List Bool) : Decidable (c.Raced s schedule) :=
  decidable_of_iff (∃ before ∈ schedule.inits, ∀ k, c.stage s before k = .reporting) <| by
    simp only [List.mem_inits, Raced]

/-- What one of the two has to itself. -/
def own (c : Pair) (k : Bool) : View :=
  { tenant := c.tenant, actor := c.actor, mine := fun id => c.owner id = k
    reports := false, history := false }

/-- What one of the two has to itself, and the reports. -/
def reading (c : Pair) (k : Bool) : View := { c.own k with reports := true }

/-- The geofences alone. -/
def outline (c : Pair) : View :=
  { tenant := c.tenant, actor := c.actor, mine := fun _ => false
    reports := false, history := false }

/-- What one of the two does. -/
def moves (c : Pair) (k : Bool) : Phase → Action → Phase → Prop :=
  Moves c.tenant c.actor fun id => c.owner id = k

variable {c : Pair} {s : Store} {schedule : List Bool} {i k : Bool}

/-! ### What the two see of each other -/

/-- What a call has to itself and the reports decide all that it does. -/
theorem reading_decides (c : Pair) (k : Bool) :
    (c.reading k).Decides (c.moves k) fun _ => True := by
  intro p a p' _ hmove
  refine ⟨Moves.seenBy hmove (fun id hid => ?_) fun _ => ⟨rfl, rfl, rfl⟩, trivial⟩
  simpa [reading, own] using hid

/-- Once the last report was looked up, the reports do not matter. -/
theorem own_decides (c : Pair) (k : Bool) :
    (c.own k).Decides (c.moves k) fun p => p ≠ .asking := by
  intro p a p' hp hmove
  refine ⟨Moves.seenBy hmove (fun id hid => ?_) fun h => absurd h hp, fun h => ?_⟩
  · simpa [own] using hid
  · exact hp (hmove.forward.1 h)

/-- The identifiers of one call are not those of the other. -/
private theorem owner_ne (hne : k ≠ i) :
    ∀ id, c.owner id = i → decide (c.owner id = k) = false := by
  intro id hid
  simpa [hid] using hne.symm

/-- A call leaves alone what the other one has to itself. -/
theorem own_misses (c : Pair) (hne : k ≠ i) : (c.own k).Misses (c.moves i) fun _ => True := by
  intro p a p' _ hmove
  exact ⟨Moves.hiddenFrom hmove (owner_ne hne) (fun _ h => nomatch h) (fun h => nomatch h), trivial⟩

/-- Once the report is stored, the reports stay as they are. -/
theorem reading_misses (c : Pair) (hne : k ≠ i) :
    (c.reading k).Misses (c.moves i) fun p => p = .recording := by
  intro p a p' hp hmove
  refine ⟨Moves.hiddenFrom hmove (owner_ne hne) (fun h => ?_) (fun h => nomatch h),
    hmove.forward.2 hp⟩
  rw [hp] at h
  cases h

/-! ### One more turn -/

theorem after_concat (c : Pair) (s : Store) (schedule : List Bool) (i : Bool) :
    c.after s (schedule ++ [i]) = (c.after s schedule).step i :=
  System.run_concat ..

/-- The call whose turn it is takes an action. -/
theorem threads_concat_self : (c.after s (schedule ++ [i])).threads i =
    (((c.after s schedule).threads i).step (c.after s schedule).store).1 := by
  rw [after_concat, System.threads_step_self]

theorem threads_concat_of_ne (hne : k ≠ i) :
    (c.after s (schedule ++ [i])).threads k = (c.after s schedule).threads k := by
  rw [after_concat, System.threads_step_of_ne hne]

theorem stage_concat_of_ne (hne : k ≠ i) :
    c.stage s (schedule ++ [i]) k = c.stage s schedule k := by
  rw [stage, stage, threads_concat_of_ne hne]

/-- A thread that follows its moves from the phase that its calls tell of goes on to do so. -/
private theorem sound_step {t : Thread (Except DomainError Outcome)} {s : Store}
    (h : t.Sound (c.moves i) (fun id => c.owner id = i) (phase t.world.calls)) :
    (t.step s).1.Sound (c.moves i) (fun id => c.owner id = i) (phase (t.step s).1.world.calls) ∧
      (t.step s = (t, s) ∨ ∃ a next, t.prog = .step a next ∧
        c.moves i (phase t.world.calls) a (phase (t.step s).1.world.calls)) := by
  obtain hsame | ⟨a, next, p', hprog, hmove, hsound⟩ := h.step_cases s
  · rw [hsame]
    exact ⟨h, .inl rfl⟩
  · have hphase : phase (t.step s).1.world.calls = p' := by
      rw [Thread.step_of_prog hprog]
      exact Moves.phase_perform (w := t.worldOver s) hmove rfl t.env
    rw [hphase]
    exact ⟨hsound, .inr ⟨a, next, hprog, hmove⟩⟩

/-- After any turns, each call is in the phase that its store calls tell. -/
theorem sound (c : Pair) (s : Store) (schedule : List Bool) (k : Bool) :
    ((c.after s schedule).threads k).Sound (c.moves k) (fun id => c.owner id = k)
      (c.stage s schedule k) := by
  induction schedule using List.reverseRecOn with
  | nil => exact (c.call k).sound_thread s (c.owns k)
  | append_singleton schedule i ih =>
    by_cases hk : k = i
    · subst hk
      rw [stage, threads_concat_self]
      exact (sound_step ih).1
    · rw [stage_concat_of_ne hk, threads_concat_of_ne hk]
      exact ih

/-- A turn is void, or it is a move. -/
theorem turn_cases (c : Pair) (s : Store) (schedule : List Bool) (i : Bool) :
    ((c.after s schedule).threads i).step (c.after s schedule).store =
        ((c.after s schedule).threads i, (c.after s schedule).store) ∧
      c.stage s (schedule ++ [i]) i = c.stage s schedule i ∨
    ∃ a next, ((c.after s schedule).threads i).prog = .step a next ∧
      c.moves i (c.stage s schedule i) a (c.stage s (schedule ++ [i]) i) := by
  obtain hsame | hmove := (sound_step (s := (c.after s schedule).store) (c.sound s schedule i)).2
  · refine .inl ⟨hsame, ?_⟩
    rw [stage, threads_concat_self, hsame]
    rfl
  · refine .inr ?_
    rw [stage, stage, threads_concat_self]
    exact hmove

/-- A call that has not looked up the last report had not done so before. -/
theorem asking_of_concat (h : c.stage s (schedule ++ [i]) k = .asking) :
    c.stage s schedule k = .asking := by
  by_cases hk : k = i
  · subst hk
    obtain ⟨-, hsame⟩ | ⟨a, next, -, hmove⟩ := c.turn_cases s schedule k
    · rwa [hsame] at h
    · exact hmove.forward.1 h
  · rwa [stage_concat_of_ne hk] at h

/-- A call that has stored its report has done so for good. -/
theorem recording_concat (h : c.stage s schedule k = .recording) :
    c.stage s (schedule ++ [i]) k = .recording := by
  by_cases hk : k = i
  · subst hk
    obtain ⟨-, hsame⟩ | ⟨a, next, -, hmove⟩ := c.turn_cases s schedule k
    · rwa [hsame]
    · exact hmove.forward.2 h
  · rwa [stage_concat_of_ne hk]

/-- A turn before the report is stored leaves the store as it is. -/
theorem store_concat (h : c.stage s (schedule ++ [i]) i ≠ .recording) :
    (c.after s (schedule ++ [i])).store = (c.after s schedule).store := by
  rw [after_concat, System.store_step]
  obtain ⟨hsame, -⟩ | ⟨a, next, hprog, hmove⟩ := c.turn_cases s schedule i
  · rw [hsame]
  · rw [Thread.step_of_prog hprog]
    exact Moves.store_perform (w := Thread.worldOver _ _) hmove h

/-- A turn before the last report is looked up could as well be taken over another store with the
same geofences. -/
theorem future_concat (h : c.stage s (schedule ++ [i]) k = .asking) {b : Store}
    (hb : (c.after s schedule).store.geofences = b.geofences) :
    ((c.after s (schedule ++ [i])).threads k).future b =
      ((c.after s schedule).threads k).future b := by
  -- The call whose turn it is not has not moved at all.
  by_cases hk : k = i
  · subst hk
    rw [threads_concat_self]
    obtain ⟨hsame, -⟩ | ⟨a, next, hprog, hmove⟩ := c.turn_cases s schedule k
    · rw [hsame]
    · -- Nothing but the geofences decides an action before the lookup.
      have hasking := asking_of_concat h
      rw [h, hasking] at hmove
      have halike : (c.after s schedule).store.Alike c.outline b := by
        refine ⟨hb, ?_, fun hv => absurd hv Bool.false_ne_true,
          fun hv => absurd hv Bool.false_ne_true⟩
        simp [outline]
      have hseen : a.SeenBy c.outline := by
        cases hmove with
        | list => trivial
        | aside apart => exact Action.seenBy_of_aside apart
      refine Thread.future_step_over hprog hseen (fun w => ?_) halike
      exact Moves.store_perform hmove (fun hp => nomatch hp)
  · rw [threads_concat_of_ne hk]

/-- The other call keeps what it has to itself. -/
theorem alike_own_concat (c : Pair) (s : Store) (schedule : List Bool) (hne : k ≠ i) :
    (c.after s schedule).store.Alike (c.own k) (c.after s (schedule ++ [i])).store := by
  rw [after_concat]
  exact (c.sound s schedule i).alike_step trivial (c.own_misses hne) _

/-- A call that has looked up the last report is not disturbed by the other one. -/
theorem endAlike_concat_of_asked (hne : k ≠ i) (hasked : c.stage s schedule k ≠ .asking) :
    EndAlike (c.own k) ((c.after s schedule).future k)
      ((c.after s (schedule ++ [i])).future k) := by
  have halike := c.alike_own_concat s schedule hne
  rw [after_concat] at halike ⊢
  exact (System.future_step_of_ne hne (c.sound s schedule k) hasked (c.own_decides k) halike).1

/-- A call is not disturbed by another one that has stored its report. -/
theorem endAlike_concat_of_stored (hne : k ≠ i) (hstored : c.stage s schedule i = .recording) :
    EndAlike (c.own k) ((c.after s schedule).future k)
      ((c.after s (schedule ++ [i])).future k) := by
  have halike : (c.after s schedule).store.Alike (c.reading k)
      ((c.after s schedule).step i).store :=
    (c.sound s schedule i).alike_step hstored (c.reading_misses hne) _
  rw [after_concat]
  exact (System.future_step_of_ne hne (c.sound s schedule k) trivial (c.reading_decides k)
    halike).1.withoutReports

/-- A call's own turn leads to the same future. -/
theorem future_concat_self :
    (c.after s (schedule ++ [i])).future i = (c.after s schedule).future i := by
  rw [after_concat, System.future_step]

/-- Two calls raced if they did so before or do so now. -/
theorem raced_concat : c.Raced s (schedule ++ [i]) ↔
    c.Raced s schedule ∨ ∀ k, c.stage s (schedule ++ [i]) k = .reporting := by
  constructor
  · rintro ⟨before, hbefore, hstage⟩
    rcases List.prefix_concat_iff.1 hbefore with rfl | hprefix
    · exact .inr hstage
    · exact .inl ⟨before, hprefix, hstage⟩
  · rintro (⟨before, hprefix, hstage⟩ | hstage)
    · exact ⟨before, hprefix.trans (List.prefix_append _ _), hstage⟩
    · exact ⟨_, List.prefix_rfl, hstage⟩

/-! ## The course of two calls -/

/-- What two calls have come to after some turns. -/
inductive Course (c : Pair) (s : Store) (schedule : List Bool) : Prop
  /-- Nothing is stored yet. A call that has not looked up the last report could as well begin
  later. -/
  | early (store : (c.after s schedule).store = s)
      (future : ∀ k, (c.after s schedule).future k = (c.call k).alone s)
      (unstored : ∀ k, c.stage s schedule k ≠ .recording)
      (unraced : ∀ k, c.stage s schedule k = .asking → ¬c.Raced s schedule)
      (fresh : ∀ k, c.stage s schedule k = .asking → ∀ b : Store, s.geofences = b.geofences →
        ((c.after s schedule).threads k).future b = (c.call k).alone b)
  /-- One has stored its report before the other looked. -/
  | ordered (first : Bool) (stored : c.stage s schedule first = .recording)
      (one : EndAlike (c.own first) ((c.call first).alone s) ((c.after s schedule).future first))
      (two : EndAlike (c.own !first) ((c.call !first).alone ((c.call first).alone s).2.store)
        ((c.after s schedule).future !first))
      (unraced : ¬c.Raced s schedule)
  /-- Both have looked before a report was stored. -/
  | raced (asked : ∀ k, c.stage s schedule k ≠ .asking)
      (future : ∀ k, EndAlike (c.own k) ((c.call k).alone s) ((c.after s schedule).future k))
      (raced : c.Raced s schedule)

/-- Two calls start out with nothing stored. -/
private theorem course_start (c : Pair) (s : Store) : c.Course s [] := by
  have hstage : ∀ k, c.stage s [] k = .asking := fun _ => rfl
  refine .early rfl (fun _ => rfl) (fun k h => ?_) (fun k _ => ?_) fun k _ b _ => rfl
  · rw [hstage k] at h
    cases h
  · rintro ⟨before, hbefore, hreporting⟩
    rw [List.prefix_nil.1 hbefore] at hreporting
    have hreporting := hreporting k
    rw [hstage k] at hreporting
    cases hreporting

/-- The first report is stored. What the calls have come to then depends on whether the other one
has looked. -/
private theorem course_of_stored (hstore : (c.after s schedule).store = s)
    (hfuture : ∀ k, (c.after s schedule).future k = (c.call k).alone s)
    (hunstored : ∀ k, c.stage s schedule k ≠ .recording)
    (hunraced : ∀ k, c.stage s schedule k = .asking → ¬c.Raced s schedule)
    (hfresh : ∀ k, c.stage s schedule k = .asking → ∀ b : Store, s.geofences = b.geofences →
      ((c.after s schedule).threads k).future b = (c.call k).alone b)
    (hstored : c.stage s (schedule ++ [i]) i = .recording) : c.Course s (schedule ++ [i]) := by
  have hne : (!i) ≠ i := by simp
  have hself : (c.after s (schedule ++ [i])).future i = (c.call i).alone s := by
    rw [future_concat_self, hfuture i]
  -- A report is stored only by a call that has looked up the last one.
  have hreporting : c.stage s schedule i = .reporting := by
    obtain ⟨-, hsame⟩ | ⟨a, next, -, hmove⟩ := c.turn_cases s schedule i
    · exact absurd (hsame ▸ hstored) (hunstored i)
    · exact hmove.reporting_of_recording (hunstored i) hstored
  -- What the other call has looked up decides whether the two raced.
  cases hother : c.stage s schedule (!i) with
  | recording => exact absurd hother (hunstored !i)
  | asking =>
    refine .ordered i hstored ?_ ?_ fun hraced => ?_
    · rw [hself]
      exact .refl _ _
    · -- The other call reads the same reports now as when this one has come to its end.
      have hgeofences : s.geofences = (c.after s (schedule ++ [i])).store.geofences := by
        have halike := c.alike_own_concat s schedule hne
        rw [hstore] at halike
        exact halike.geofences
      have hlater : (c.after s (schedule ++ [i])).store.Alike (c.reading !i)
          ((c.call i).alone s).2.store := by
        have hsound := c.sound s (schedule ++ [i]) i
        rw [← hself]
        exact hsound.follows.alike_run (w := Thread.worldOver _ _) (c.reading_misses hne) hsound.ids
          hstored
      have hbegin : (c.after s (schedule ++ [i])).future (!i) =
          (c.call !i).alone (c.after s (schedule ++ [i])).store := by
        rw [System.future, threads_concat_of_ne hne]
        exact hfresh (!i) hother _ hgeofences
      rw [hbegin]
      exact (Call.alone_alike (c.reading_decides !i) trivial (c.owns !i)
        hlater.symm).withoutReports
    · rcases raced_concat.1 hraced with hraced | hboth
      · exact hunraced (!i) hother hraced
      · rw [hboth i] at hstored
        cases hstored
  | reporting =>
    -- Neither call saw the other's report, and both look up nothing more.
    have hboth : ∀ k, c.stage s schedule k = .reporting := by
      intro k
      by_cases hk : k = i
      · rw [hk, hreporting]
      · rw [Bool.eq_not.2 hk, hother]
    refine .raced (fun k hk => ?_) (fun k => ?_) (raced_concat.2 (.inl ⟨_, List.prefix_rfl, hboth⟩))
    · have hasking := asking_of_concat hk
      rw [hboth k] at hasking
      cases hasking
    · by_cases hk : k = i
      · rw [hk, hself]
        exact .refl _ _
      · rw [← hfuture k]
        exact endAlike_concat_of_asked hk (by rw [hboth k]; decide)

/-- One more turn. -/
private theorem Course.concat (h : c.Course s schedule) (i : Bool) :
    c.Course s (schedule ++ [i]) := by
  cases h with
  | early hstore hfuture hunstored hunraced hfresh =>
    -- As long as nobody stores anything, nothing is decided.
    by_cases hstored : c.stage s (schedule ++ [i]) i = .recording
    · exact course_of_stored hstore hfuture hunstored hunraced hfresh hstored
    · have hstore' := store_concat hstored
      refine .early (hstore'.trans hstore) (fun k => ?_) (fun k hk => ?_) (fun k hk hraced => ?_)
        fun k hk b hb => ?_
      · by_cases hk : k = i
        · rw [hk, future_concat_self, hfuture i]
        · rw [System.future, threads_concat_of_ne hk, hstore', ← hfuture k]
          rfl
      · by_cases hki : k = i
        · exact hstored (hki ▸ hk)
        · rw [stage_concat_of_ne hki] at hk
          exact hunstored k hk
      · rcases raced_concat.1 hraced with hraced | hboth
        · exact hunraced k (asking_of_concat hk) hraced
        · rw [hboth k] at hk
          cases hk
      · rw [future_concat hk (by rw [hstore, hb])]
        exact hfresh k (asking_of_concat hk) b hb
  | ordered first hstored hone htwo hunraced =>
    -- The first call has stored its report, so the two race no more.
    have hunraced' : ¬c.Raced s (schedule ++ [i]) := by
      intro hraced
      rcases raced_concat.1 hraced with hraced | hboth
      · exact hunraced hraced
      · have hrecording := recording_concat (i := i) hstored
        rw [hboth first] at hrecording
        cases hrecording
    refine .ordered first (recording_concat hstored) ?_ ?_ hunraced'
    · by_cases hfirst : first = i
      · rw [hfirst] at hone ⊢
        rw [future_concat_self]
        exact hone
      · exact hone.trans (endAlike_concat_of_asked hfirst (by rw [hstored]; decide))
    · by_cases hfirst : (!first) = i
      · rw [hfirst] at htwo ⊢
        rw [future_concat_self]
        exact htwo
      · -- It is the turn of the first call, which has nothing left to change for the other.
        have hi : i = first := by
          cases first <;> cases i <;> simp_all
        rw [hi]
        exact htwo.trans (endAlike_concat_of_stored (by simp) hstored)
  -- Both have looked up the last report; no turn of one changes the future of the other.
  | raced hasked hfuture hraced =>
    refine .raced (fun k hk => hasked k (asking_of_concat hk)) (fun k => ?_)
      (raced_concat.2 (.inl hraced))
    by_cases hk : k = i
    · rw [hk] at *
      rw [future_concat_self]
      exact hfuture i
    · exact (hfuture k).trans (endAlike_concat_of_asked hk (hasked k))

/-- Two calls are always on their course. -/
theorem course (c : Pair) (s : Store) (schedule : List Bool) : c.Course s schedule := by
  induction schedule using List.reverseRecOn with
  | nil => exact course_start c s
  | append_singleton schedule i ih => exact ih.concat i

/-! ## The end -/

/-- A call has returned what a run returned and told the hook the same, and its events are those in
a store. -/
structure Matches (c : Pair) (sys : System Bool (Except DomainError Outcome)) (k : Bool)
    (out : Option (Except DomainError Outcome) × World) (s' : Store) : Prop where
  returned : sys.returned k = out.1
  entries : (sys.threads k).world.entries = out.2.entries
  events : (sys.store.events.filter fun e => c.owner e.id = k) =
    s'.events.filter fun e => c.owner e.id = k

/-- The two calls have done what they do one after the other. -/
def InTurn (c : Pair) (s : Store) (sys : System Bool (Except DomainError Outcome))
    (first : Bool) : Prop :=
  let one := (c.call first).alone s
  let two := (c.call !first).alone one.2.store
  c.Matches sys first one two.2.store ∧ c.Matches sys (!first) two two.2.store

/-- A call that ended like a run matches it. -/
private theorem matches_of_endAlike {sys : System Bool (Except DomainError Outcome)}
    {out : Option (Except DomainError Outcome) × World} {s' : Store}
    (h : EndAlike (c.own k) out (sys.future k)) (hended : (sys.returned k).isSome = true)
    (hs' : out.2.store.Alike (c.own k) s') : c.Matches sys k out s' := by
  obtain ⟨result, hresult⟩ := Option.isSome_iff_exists.1 hended
  rw [System.future, Thread.future_of_returned hresult] at h
  obtain ⟨hvalue, hown, hstore⟩ := h
  have hentries := congrArg World.entries hown
  exact ⟨hresult.trans hvalue.symm, hentries, (hstore.symm.trans hs').events⟩

end Pair

/-- Two submissions of one actor that have both ended. If at some time both had looked up the last
report and neither had stored its own, each has done what it does alone. Otherwise they have done
what they do one after the other. -/
theorem submissions_race (c : Pair) (s : Store) (schedule : List Bool)
    (hended : ∀ k, ((c.after s schedule).returned k).isSome = true) :
    (c.Raced s schedule → ∀ k, c.Matches (c.after s schedule) k ((c.call k).alone s)
      ((c.call k).alone s).2.store) ∧
    (¬c.Raced s schedule → ∃ first, c.InTurn s (c.after s schedule) first) := by
  have hinTurn : ∀ first,
      EndAlike (c.own first) ((c.call first).alone s) ((c.after s schedule).future first) →
      EndAlike (c.own !first) ((c.call !first).alone ((c.call first).alone s).2.store)
        ((c.after s schedule).future !first) → c.InTurn s (c.after s schedule) first := by
    intro first hone htwo
    refine ⟨Pair.matches_of_endAlike hone (hended first) ?_,
      Pair.matches_of_endAlike htwo (hended !first) (.refl _ _)⟩
    exact Call.alike_alone (c.own_misses (by simp)) trivial (c.owns !first)
  -- Both have ended, so what the two calls have come to is what they came to in the end.
  cases c.course s schedule with
  | early hstore hfuture =>
    refine ⟨fun _ k => ?_, fun _ => ⟨false, hinTurn false ?_ ?_⟩⟩
    · exact Pair.matches_of_endAlike (hfuture k ▸ .refl _ _) (hended k) (.refl _ _)
    · exact hfuture false ▸ .refl _ _
    · -- Both have ended without storing anything.
      have hsame : ((c.call false).alone s).2.store = s := by
        obtain ⟨result, hresult⟩ := Option.isSome_iff_exists.1 (hended false)
        rw [← hfuture false, System.future, Thread.future_of_returned hresult]
        exact hstore
      rw [hsame]
      exact hfuture true ▸ .refl _ _
  | ordered first _ hone htwo hunraced =>
    exact ⟨fun hraced => absurd hraced hunraced, fun _ => ⟨first, hinTurn first hone htwo⟩⟩
  | raced _ hfuture hraced =>
    refine ⟨fun _ k => ?_, fun hunraced => absurd hraced hunraced⟩
    exact Pair.matches_of_endAlike (hfuture k) (hended k) (.refl _ _)

end Tracker

/-! ### One pupil, observed twice -/

namespace Campus

/-- A pupil who comes in is observed by two devices. -/
def twice : Tracker.Pair where
  env := side
  tenant := school
  actor := pupil
  observation _ := inside
  owner id := id.value % 2 == 1
  owns k n := by
    rw [parity_side k n]
    cases k <;> rfl

/-- One call after the other. -/
def queue : List Bool := List.replicate 15 true ++ List.replicate 15 false

end Campus

/-- Each of two calls that take turns records an entry and tells the hook about it. One after the
other, in whatever order, the second one would find the pupil inside. -/
theorem Tracker.recorded_twice :
    let sys := Campus.twice.after Campus.morning.store Campus.turns
    (∀ k, (sys.returned k).isSome = true) ∧ sys.store.events.map Event.kind = [.enter, .enter] ∧
      (∀ k, (sys.threads k).world.entries.length = 1) ∧
      ∀ first, ¬Campus.twice.InTurn Campus.morning.store sys first := by
  refine ⟨by decide +kernel, by decide +kernel, by decide +kernel, fun first hinTurn => ?_⟩
  have hevents := congrArg List.length hinTurn.2.events
  revert hevents
  cases first <;> decide +kernel

/-- Two calls that take turns race, and two calls in a queue do not. -/
theorem Tracker.submissions_race_campus :
    (∀ k, Campus.twice.Matches (Campus.twice.after Campus.morning.store Campus.turns) k
      ((Campus.twice.call k).alone Campus.morning.store)
      ((Campus.twice.call k).alone Campus.morning.store).2.store) ∧
    ∃ first, Campus.twice.InTurn Campus.morning.store
      (Campus.twice.after Campus.morning.store Campus.queue) first :=
  ⟨(submissions_race Campus.twice Campus.morning.store Campus.turns (by decide +kernel)).1
      (by decide +kernel),
    (submissions_race Campus.twice Campus.morning.store Campus.queue (by decide +kernel)).2
      (by decide +kernel)⟩

end Geofencing
