import Geofencing.Proofs.Phases

/-!
# Submissions of different actors

Submissions of different actors may interleave in any way. Each of them sees the reports of its own
actor and the events with its own identifiers, and no other submission touches these, so each has
the future that it would have alone: `Tracker.Undisturbed`. Running the submissions one after
another leaves the same in every such view, and the views together cover all that is stored about an
actor. This gives `Tracker.submissions_independent`.
-/

namespace Geofencing

/-- Events that differ in their marks only are the same if those of every owner are. -/
theorem Event.eq_of_owner {κ : Type} [DecidableEq κ] (owner : Uuid → κ)
    {events events' : List Event} (hunmarked : events.map unmarked = events'.map unmarked)
    (howner : ∀ k, (events.filter fun e => owner e.id = k) =
      events'.filter fun e => owner e.id = k) : events = events' := by
  induction events generalizing events' with
  | nil => exact (List.map_eq_nil_iff.1 hunmarked.symm).symm
  | cons e rest ih =>
    cases events' with
    | nil => cases hunmarked
    | cons e' rest' =>
      obtain ⟨hhead, htail⟩ := List.cons.inj hunmarked
      -- Both events have the same identifier and so the same owner, among whose events they come
      -- first.
      have hid : e.id = e'.id := by
        have hunmarked_id : e.unmarked.id = e'.unmarked.id := congrArg Event.id hhead
        exact hunmarked_id
      have hfirst := howner (owner e.id)
      rw [List.filter_cons_of_pos (by simp), List.filter_cons_of_pos (by simp [hid])] at hfirst
      obtain ⟨rfl, -⟩ := List.cons.inj hfirst
      refine congrArg (e :: ·) (ih htail fun k => ?_)
      have hk := howner k
      by_cases hown : owner e.id = k
      · rw [List.filter_cons_of_pos (by simpa using hown),
          List.filter_cons_of_pos (by simpa using hown)] at hk
        exact (List.cons.inj hk).2
      · rwa [List.filter_cons_of_neg (by simpa using hown),
          List.filter_cons_of_neg (by simpa using hown)] at hk

namespace Tracker

variable {ι : Type} [DecidableEq ι] {calls : ι → Call} {owner : Uuid → Option ι}
  {s s' : Store} {i j : ι}

/-! ## What each call sees -/

/-- The calls are of different actors, and whoever draws an identifier owns it. -/
structure Apart (calls : ι → Call) (owner : Uuid → Option ι) : Prop where
  /-- No two calls are for one actor. -/
  actors : ∀ i j, (calls i).tenant = (calls j).tenant → (calls i).actor = (calls j).actor → i = j
  /-- No two calls draw the same identifier. -/
  ids : ∀ i n, owner ((calls i).env.ids n) = some i

/-- What a call sees: all about its actor, and its own events. -/
def sight (calls : ι → Call) (owner : Uuid → Option ι) (i : ι) : View :=
  { tenant := (calls i).tenant, actor := (calls i).actor, mine := fun id => owner id = some i
    reports := true, history := true }

/-- What a call does. -/
def moves (calls : ι → Call) (owner : Uuid → Option ι) (i : ι) : Phase → Action → Phase → Prop :=
  Moves (calls i).tenant (calls i).actor fun id => owner id = some i

/-- A view in which nothing of a call is seen. -/
def Misses (calls : ι → Call) (owner : Uuid → Option ι) (v : View) (i : ι) : Prop :=
  v.Misses (moves calls owner i) fun _ => True

theorem sight_decides (calls : ι → Call) (owner : Uuid → Option ι) (i : ι) :
    (sight calls owner i).Decides (moves calls owner i) fun _ => True := by
  intro p a p' _ hmove
  refine ⟨Moves.seenBy hmove (fun id hid => ?_) fun _ => ⟨rfl, rfl, rfl⟩, trivial⟩
  simpa [sight] using hid

theorem Apart.sight_misses (h : Apart calls owner) (hne : i ≠ j) :
    Misses calls owner (sight calls owner i) j := by
  have hother : ¬((calls j).tenant = (calls i).tenant ∧ (calls j).actor = (calls i).actor) :=
    fun hsame => hne (h.actors j i hsame.1 hsame.2).symm
  intro p a p' _ hmove
  refine ⟨Moves.hiddenFrom hmove (fun id hid => ?_) (fun _ _ => hother) fun _ => hother, trivial⟩
  have hsome : some j ≠ some i := fun heq => hne (Option.some.inj heq).symm
  simp only [sight, decide_eq_false_iff_not]
  rwa [hid]

/-- Views that together cover all that is stored decide everything about an actor. -/
theorem rows_eq_of_alike (calls : ι → Call) (owner : Uuid → Option ι)
    (hsight : ∀ i, s.Alike (sight calls owner i) s')
    (hmissed : ∀ v, (∀ i, Misses calls owner v i) → s.Alike v s') (tenant actor : Uuid) :
    (s.reports.filter fun r => r.isAbout tenant actor) =
        (s'.reports.filter fun r => r.isAbout tenant actor) ∧
      (s.events.filter fun e => e.isAbout tenant actor) =
        s'.events.filter fun e => e.isAbout tenant actor := by
  -- The reports and the unmarked events of the actor are seen by its call. Without a call they are
  -- in a view that misses all calls.
  obtain ⟨hreports, hhistory⟩ : (s.reports.filter fun r => r.isAbout tenant actor) =
        (s'.reports.filter fun r => r.isAbout tenant actor) ∧
      ((s.events.map Event.unmarked).filter fun e => e.isAbout tenant actor) =
        (s'.events.map Event.unmarked).filter fun e => e.isAbout tenant actor := by
    by_cases hcall : ∃ i, (calls i).tenant = tenant ∧ (calls i).actor = actor
    · obtain ⟨i, rfl, rfl⟩ := hcall
      exact ⟨(hsight i).reports rfl, (hsight i).history rfl⟩
    · have halike := hmissed ⟨tenant, actor, fun _ => false, true, true⟩ fun i p a p' _ hmove =>
        ⟨Moves.hiddenFrom hmove (fun _ _ => rfl) (fun _ _ h => hcall ⟨i, h⟩) fun _ h =>
          hcall ⟨i, h⟩, trivial⟩
      exact ⟨halike.reports rfl, halike.history rfl⟩
  -- Every identifier has an owner who sees its marks, or nobody ever marks it.
  have howner : ∀ k, (s.events.filter fun e => owner e.id = k) =
      s'.events.filter fun e => owner e.id = k := by
    intro k
    cases k with
    | some i => exact (hsight i).events
    | none =>
      have halike := hmissed ⟨tenant, actor, fun id => owner id = none, false, false⟩
        fun i p a p' _ hmove =>
          ⟨Moves.hiddenFrom hmove (fun id hid => by simp [hid]) (fun _ h => nomatch h)
            (fun h => nomatch h), trivial⟩
      exact halike.events
  refine ⟨hreports, Event.eq_of_owner owner ?_ fun k => ?_⟩
  · rw [List.filter_map, List.filter_map] at hhistory
    exact hhistory
  · rw [List.filter_comm, howner k, List.filter_comm]

/-! ## Interleavings -/

/-- After some steps every call still has the future that it would have alone. -/
structure Undisturbed (calls : ι → Call) (owner : Uuid → Option ι) (s : Store)
    (sys : System ι (Except DomainError Outcome)) : Prop where
  /-- Every call is in one of its phases. -/
  sound : ∀ i, ∃ p, (sys.threads i).Sound (moves calls owner i) (fun id => owner id = some i) p
  /-- Every call will end as it would have alone. -/
  future : ∀ i, EndAlike (sight calls owner i) ((calls i).alone s) (sys.future i)
  /-- What no call touches is as it was. -/
  missed : ∀ v, (∀ i, Misses calls owner v i) → s.Alike v sys.store

variable {sys : System ι (Except DomainError Outcome)}

theorem Apart.undisturbed_start (h : Apart calls owner) (s : Store) :
    Undisturbed calls owner s (start calls s) where
  sound i := ⟨.asking, (calls i).sound_thread s (h.ids i)⟩
  future _ := .refl _ _
  missed v _ := .refl v s

/-- One step of a call does not disturb the others. -/
theorem Undisturbed.step (h : Undisturbed calls owner s sys) (hapart : Apart calls owner) (i : ι) :
    Undisturbed calls owner s (sys.step i) ∧
      ∀ j, (sys.step i).left j = sys.left j - if i = j then 1 else 0 := by
  obtain ⟨p, hsound⟩ := h.sound i
  -- The step is in the views of no other call, so what the others have ahead does not change.
  have halike : ∀ v, Misses calls owner v i → sys.store.Alike v (sys.step i).store :=
    fun v hv => hsound.alike_step trivial hv sys.store
  have hother : ∀ j, j ≠ i →
      EndAlike (sight calls owner j) (sys.future j) ((sys.step i).future j) ∧
        sys.left j = (sys.step i).left j := by
    intro j hne
    obtain ⟨q, hq⟩ := h.sound j
    exact System.future_step_of_ne hne hq trivial (sight_decides calls owner j)
      (halike _ (hapart.sight_misses hne))
  refine ⟨⟨fun j => ?_, fun j => ?_, fun v hv => (h.missed v hv).trans (halike v (hv i))⟩,
    fun j => ?_⟩
  · by_cases hne : j = i
    · subst hne
      rw [System.threads_step_self]
      obtain hsame | ⟨_, _, p', -, -, hsound'⟩ := hsound.step_cases sys.store
      · exact ⟨p, by rwa [hsame]⟩
      · exact ⟨p', hsound'⟩
    · rw [System.threads_step_of_ne hne]
      exact h.sound j
  · by_cases hne : j = i
    · subst hne
      rw [System.future_step]
      exact h.future j
    · exact (h.future j).trans (hother j hne).1
  · by_cases hne : j = i
    · subst hne
      rw [System.left_step, if_pos rfl]
    · rw [(hother j hne).2, if_neg (Ne.symm hne), Nat.sub_zero]

/-- However the calls interleave, none is disturbed, and every turn brings a call closer to its
end. -/
theorem Undisturbed.run (h : Undisturbed calls owner s sys) (hapart : Apart calls owner)
    (schedule : List ι) :
    Undisturbed calls owner s (sys.run schedule) ∧
      ∀ i, (sys.run schedule).left i = sys.left i - schedule.count i := by
  induction schedule generalizing sys with
  | nil => exact ⟨h, fun i => rfl⟩
  | cons i rest ih =>
    obtain ⟨hstep, hleft⟩ := h.step hapart i
    obtain ⟨hrun, hrest⟩ := ih hstep
    refine ⟨hrun, fun j => ?_⟩
    -- Every turn of a thread is one less for it to take, and none for the others.
    have hcount : (i :: rest).count j = rest.count j + if i = j then 1 else 0 := by
      rw [List.count_cons]
      simp
    have hj := hrest j
    rw [hleft j] at hj
    change ((sys.step i).run rest).left j = _
    omega

/-! ## One call after another -/

/-- The store after some calls ran one after another. -/
def serial (calls : ι → Call) (s : Store) (order : List ι) : Store :=
  order.foldl (fun s i => ((calls i).alone s).2.store) s

/-- Each call that runs in turn leaves what it would leave alone, and the others do not touch it. -/
theorem Apart.serial_alike (h : Apart calls owner) {order : List ι} (hnodup : order.Nodup) :
    (∀ i ∈ order, ((calls i).alone s).2.store.Alike (sight calls owner i)
      (serial calls s order)) ∧
    ∀ v, (∀ i ∈ order, Misses calls owner v i) → s.Alike v (serial calls s order) := by
  induction order generalizing s with
  | nil => exact ⟨fun i hi => absurd hi List.not_mem_nil, fun v _ => .refl v s⟩
  | cons first rest ih =>
    obtain ⟨hfirst, hrest⟩ := List.nodup_cons.1 hnodup
    obtain ⟨hcalls, hmissed⟩ := ih (s := ((calls first).alone s).2.store) hrest
    have hafter : ∀ v, Misses calls owner v first →
        s.Alike v ((calls first).alone s).2.store :=
      fun v hv => Call.alike_alone hv trivial (h.ids first)
    refine ⟨fun i hi => ?_, fun v hv => ?_⟩
    · rcases List.mem_cons.1 hi with rfl | hi
      · -- None of the later calls is this one.
        exact hmissed _ fun j hj => h.sight_misses fun heq => hfirst (heq ▸ hj)
      · -- A later call finds in its view what was there at the start.
        have hne : i ≠ first := fun heq => hfirst (heq ▸ hi)
        have halone := Call.alone_alike (sight_decides calls owner i) trivial (h.ids i)
          (hafter _ (h.sight_misses hne))
        exact halone.world.store.trans (hcalls i hi)
    · exact (hafter v (hv first List.mem_cons_self)).trans
        (hmissed v fun i hi => hv i (List.mem_cons_of_mem _ hi))

/-! ## Both -/

/-- Calls of different actors interleave in any way. A call that gets as many turns as it takes
alone returns what it returns alone. If all do, the reports of each actor and its events with their
marks are those after the calls ran one after another, in whatever order. -/
theorem submissions_independent (calls : ι → Call) (s : Store)
    (hactors : ∀ i j, (calls i).tenant = (calls j).tenant → (calls i).actor = (calls j).actor →
      i = j)
    (hids : ∀ i j m n, (calls i).env.ids m = (calls j).env.ids n → i = j) (schedule : List ι) :
    (∀ i, (start calls s).left i ≤ schedule.count i →
      ∃ result, ((start calls s).run schedule).returned i = some result ∧
        ((calls i).alone s).1 = some result) ∧
    ((∀ i, (start calls s).left i ≤ schedule.count i) →
      ∀ order : List ι, order.Nodup → (∀ i, i ∈ order) → ∀ tenant actor,
        (((start calls s).run schedule).store.reports.filter fun r => r.isAbout tenant actor) =
            ((serial calls s order).reports.filter fun r => r.isAbout tenant actor) ∧
          (((start calls s).run schedule).store.events.filter fun e => e.isAbout tenant actor) =
            (serial calls s order).events.filter fun e => e.isAbout tenant actor) := by
  classical
  -- Nobody owns an identifier that no call draws.
  let owner : Uuid → Option ι := fun id =>
    if h : ∃ i n, (calls i).env.ids n = id then some h.choose else none
  have hapart : Apart calls owner := by
    refine ⟨hactors, fun i n => ?_⟩
    have hdrawn : ∃ j m, (calls j).env.ids m = (calls i).env.ids n := ⟨i, n, rfl⟩
    obtain ⟨m, hm⟩ := hdrawn.choose_spec
    simp only [owner, dif_pos hdrawn, hids _ _ _ _ hm]
  obtain ⟨hundisturbed, hleft⟩ := (hapart.undisturbed_start s).run hapart schedule
  -- A call without actions left has come to the future that it has alone.
  have hended : ∀ i, (start calls s).left i ≤ schedule.count i →
      EndAlike (sight calls owner i) ((calls i).alone s)
        (((start calls s).run schedule).returned i,
          (((start calls s).run schedule).threads i).worldOver
            ((start calls s).run schedule).store) := by
    intro i hturns
    have hzero : ((start calls s).run schedule).left i = 0 := by
      rw [hleft i]
      omega
    have hfuture := hundisturbed.future i
    rw [System.future, Thread.returned_of_left hzero] at hfuture
    exact hfuture
  refine ⟨fun i hturns => ?_, fun hturns order hnodup hall => ?_⟩
  · obtain ⟨result, halone⟩ := (calls i).exists_alone s
    exact ⟨result, (hended i hturns).value.symm.trans halone, halone⟩
  · obtain ⟨hcalls, hmissed⟩ := hapart.serial_alike (s := s) hnodup
    refine rows_eq_of_alike calls owner (fun i => ?_) fun v hv => ?_
    · exact (hended i (hturns i)).world.store.symm.trans (hcalls i (hall i))
    · exact (hundisturbed.missed v hv).symm.trans (hmissed v fun i _ => hv i)

end Tracker

/-! ### Two pupils at the gate -/

namespace Campus

/-- A pupil of the same class. -/
def classmate : Uuid := .ofNat 8

/-- Surroundings of one of two calls, which draw identifiers of different parity. -/
def side (k : Bool) : Surroundings :=
  { surroundings with ids := fun n => .ofNat (2 * n + k.toNat) }

theorem parity_side (k : Bool) (n : Nat) : ((side k).ids n).value % 2 = k.toNat := by
  change (2 * n + k.toNat) % twoTo 128 % 2 = k.toNat
  rw [Nat.mod_mod_of_dvd _ (by decide)]
  cases k <;> simp

/-- Two pupils come in at the same time. -/
def crowd (k : Bool) : Tracker.Call :=
  ⟨side k, school, if k then classmate else pupil, inside⟩

/-- The two take turns. -/
def turns : List Bool := (List.replicate 15 [false, true]).flatten

end Campus

/-- Two pupils who come in at the same time are recorded as if they had come one after the other. -/
theorem Tracker.submissions_independent_campus :
    let final := (start Campus.crowd Campus.morning.store).run Campus.turns
    let store := serial Campus.crowd Campus.morning.store [false, true]
    final.store.events.map Event.actor = [Campus.classmate, Campus.pupil] ∧
      store.events.map Event.actor = [Campus.pupil, Campus.classmate] ∧
      (∀ k, ∃ result, final.returned k = some result ∧
        ((Campus.crowd k).alone Campus.morning.store).1 = some result) ∧
      ∀ tenant actor, (final.store.events.filter fun e => e.isAbout tenant actor) =
        store.events.filter fun e => e.isAbout tenant actor := by
  have hactors : ∀ i j, (Campus.crowd i).tenant = (Campus.crowd j).tenant →
      (Campus.crowd i).actor = (Campus.crowd j).actor → i = j := by decide +kernel
  -- One pupil draws even identifiers and the other one odd identifiers.
  have hids : ∀ i j m n, (Campus.crowd i).env.ids m = (Campus.crowd j).env.ids n → i = j := by
    intro i j m n h
    have hparity : i.toNat = j.toNat := by
      rw [← Campus.parity_side i m, ← Campus.parity_side j n]
      exact congrArg (fun id => id.value % 2) h
    revert hparity
    cases i <;> cases j <;> decide
  have hturns : ∀ k, (start Campus.crowd Campus.morning.store).left k ≤ Campus.turns.count k := by
    decide +kernel
  obtain ⟨hreturned, hstored⟩ := submissions_independent Campus.crowd Campus.morning.store hactors
    hids Campus.turns
  refine ⟨by decide +kernel, by decide +kernel, fun k => hreturned k (hturns k), ?_⟩
  intro tenant actor
  exact (hstored hturns [false, true] (by decide) (by decide) tenant actor).2

end Geofencing
