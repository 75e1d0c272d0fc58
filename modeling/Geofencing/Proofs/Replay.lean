import Geofencing.Proofs.Operation

/-!
# Replaying the events of an actor

What an actor is inside of is never stored, but the events tell. As long as a geofence stays active
and keeps its shape, the events of an actor about it are an entry, an exit, an entry and so on, and
the actor is inside exactly if the last of them is an entry.

* `Replay.crossings` are the ways in which an actor crossed the boundary of a geofence.
* `Replay.Tells` is the invariant that ties them to the last report.
* `Replay.Course` is a run of operations that leaves the geofence in place.
-/

namespace Geofencing

namespace Replay

/-! ## Crossings -/

/-- The ways in which an actor crossed the boundary of a geofence, in the order of the events. -/
def crossings (tenant actor geofence : Uuid) (events : List Event) : List EventKind :=
  (events.filter fun e => e.tenant == tenant && e.actor == actor && e.geofence == geofence).map
    Event.kind

/-- Entries and exits in turn, beginning with an entry. -/
def turns (n : Nat) : List EventKind :=
  (List.range n).map fun i => if i % 2 = 0 then .enter else .exit

theorem length_turns (n : Nat) : (turns n).length = n := by
  rw [turns, List.length_map, List.length_range]

/-- The last of an odd number of turns is an entry, the last of an even number is not. -/
theorem getLast?_turns (n : Nat) : (turns n).getLast? = some .enter ↔ n % 2 = 1 := by
  cases n with
  | zero => simp [turns]
  | succ n =>
    rw [turns, List.range_succ, List.map_append, List.map_singleton, List.getLast?_concat]
    split
    · simp
      omega
    · simp
      omega

/-- Being inside goes with an odd number of turns, and each change of it takes the next turn. -/
theorem turns_append_classify {n : Nat} {was : Bool} (inside : Bool)
    (hwas : n % 2 = 1 ↔ was = true) :
    ∃ m, turns n ++ (Transition.classify inside was).event?.toList = turns m ∧
      (m % 2 = 1 ↔ inside = true) := by
  have hnext : turns (n + 1) = turns n ++ [if n % 2 = 0 then .enter else .exit] := by
    rw [turns, List.range_succ, List.map_append]
    rfl
  -- Staying where one is takes no turn, and a change takes the one whose turn it is.
  cases was with
  | false =>
    have heven : n % 2 = 0 := by
      have hnot : ¬ n % 2 = 1 := fun h => Bool.false_ne_true (hwas.1 h)
      omega
    cases inside with
    | false => exact ⟨n, List.append_nil _, by simp [heven]⟩
    | true => exact ⟨n + 1, by rw [hnext, if_pos heven]; rfl, by simp; omega⟩
  | true =>
    have hodd : n % 2 = 1 := hwas.2 rfl
    cases inside with
    | false => exact ⟨n + 1, by rw [hnext, if_neg (by omega)]; rfl, by simp; omega⟩
    | true => exact ⟨n, List.append_nil _, by simp [hodd]⟩

section Crossings

variable {tenant actor geofence : Uuid} {events : List Event}

theorem crossings_append (events later : List Event) :
    crossings tenant actor geofence (events ++ later) =
      crossings tenant actor geofence events ++ crossings tenant actor geofence later := by
  rw [crossings, List.filter_append, List.map_append]
  rfl

/-- Marks play no part in crossings. -/
theorem crossings_map_unmarked (events : List Event) :
    crossings tenant actor geofence (events.map Event.unmarked) =
      crossings tenant actor geofence events := by
  rw [crossings, crossings, List.filter_map, List.map_map]
  rfl

/-- Events about other geofences do not matter. -/
theorem crossings_filter {other : Uuid} (hother : geofence ≠ other) :
    crossings tenant actor geofence (events.filter fun e => e.geofence != other) =
      crossings tenant actor geofence events := by
  rw [crossings, crossings, List.filter_filter]
  congr 1
  refine List.filter_congr fun e _ => ?_
  by_cases hid : e.geofence = geofence
  · simp [hid, hother]
  · simp [hid]

/-- Events of others do not matter. -/
theorem crossings_eq_nil (h : ∀ e ∈ events, ¬(e.tenant = tenant ∧ e.actor = actor)) :
    crossings tenant actor geofence events = [] := by
  rw [crossings, List.map_eq_nil_iff, List.filter_eq_nil_iff]
  intro e he hmatch
  simp only [Bool.and_eq_true, beq_iff_eq] at hmatch
  exact h e he hmatch.1

end Crossings

/-! ## One geofence among those of its tenant -/

section Geofence

variable {s : Store} {tenant id : Uuid} {g : Geofence} (engine : Geo.Engine)

/-- Whether a location is inside of a shape: a malformed shape has no inside. -/
def within (shape : Shape) (location : Coordinate) : Bool :=
  shape.wellFormed && (Membership.measure engine location shape).inside

/-- In a list without repeated identifiers, each identifier selects one geofence. -/
private theorem filter_id_eq_singleton {l : List Geofence} (hnodup : (l.map Geofence.id).Nodup)
    (hmem : g ∈ l) : (l.filter fun g' => g'.id == g.id) = [g] := by
  induction l with
  | nil => cases hmem
  | cons first rest ih =>
    rw [List.map_cons, List.nodup_cons] at hnodup
    rcases List.mem_cons.1 hmem with rfl | hmem
    · rw [List.filter_cons_of_pos (by simp), List.filter_eq_nil_iff.2]
      intro g' hg' hid
      exact hnodup.1 (beq_iff_eq.1 hid ▸ List.mem_map_of_mem hg')
    · have hne : first.id ≠ g.id := fun hid => hnodup.1 (hid ▸ List.mem_map_of_mem hmem)
      rw [List.filter_cons_of_neg (by simpa using hne), ih hnodup.2 hmem]

/-- Evaluating a location finds an active geofence once if its shape is well formed, else never. -/
theorem filter_geofence_evaluate (hindexed : s.Indexed) (hfound : s.find tenant id = some g)
    (hactive : g.active = true) (location : Coordinate) :
    ((Membership.evaluate engine tenant location (s.list tenant false)).filter fun f =>
        f.geofence == id) =
      if g.shape.wellFormed then
        [Membership.finding g (Membership.measure engine location g.shape)]
      else [] := by
  obtain ⟨hstored, htenant⟩ := Store.find_eq_some_iff.1 hfound
  have hid : g.id = id := hindexed.id_eq hstored
  have hlisted : g ∈ s.list tenant false :=
    (Store.mem_list_iff hindexed).2 ⟨hid ▸ hfound, .inr hactive⟩
  -- Of all geofences that are listed, only this one has the identifier.
  have hone : ((s.list tenant false).filter fun g' => g'.id == id) = [g] :=
    hid ▸ filter_id_eq_singleton (s.nodup_list hindexed false) hlisted
  have hevaluable : Membership.evaluable tenant g = g.shape.wellFormed := by
    simp [Membership.evaluable, htenant, hactive]
  rw [Membership.evaluate_eq_map, List.filter_map]
  change (((s.list tenant false).filter (Membership.evaluable tenant)).filter
    fun g' => g'.id == id).map _ = _
  rw [List.filter_comm, hone, List.filter_cons, hevaluable]
  split <;> rfl

/-- Evaluating a location finds it inside of an active geofence exactly if it is within the
shape. -/
theorem mem_insideIds_evaluate (hindexed : s.Indexed) (hfound : s.find tenant id = some g)
    (hactive : g.active = true) (location : Coordinate) :
    id ∈ Membership.insideIds (Membership.evaluate engine tenant location (s.list tenant false)) ↔
      within engine g.shape location = true := by
  -- The geofence has one finding if its shape can be evaluated, and else none.
  have hone := filter_geofence_evaluate engine hindexed hfound hactive location
  have hmem : id ∈ Membership.insideIds
      (Membership.evaluate engine tenant location (s.list tenant false)) ↔
      ∃ f ∈ (Membership.evaluate engine tenant location (s.list tenant false)).filter
        (fun f => f.geofence == id), f.inside = true := by
    simp only [Membership.insideIds, List.mem_map, List.mem_filter, beq_iff_eq, and_assoc]
    constructor
    · rintro ⟨f, hf, hin, hid⟩
      exact ⟨f, hf, hid, hin⟩
    · rintro ⟨f, hf, hid, hin⟩
      exact ⟨f, hf, hin, hid⟩
  rw [hmem, hone, within]
  cases g.shape.wellFormed with
  | false => simp
  | true => simp [Membership.finding]

end Geofence

/-! ## The invariant -/

/-- The report that arrived last tells whether the actor is inside; without one it is outside. -/
def lastWithin (engine : Geo.Engine) (shape : Shape) (last : Option Report) : Bool :=
  last.any fun r => within engine shape r.coordinate

/-- The crossings of an actor take turns, and their number tells whether the actor is inside. -/
structure Tells (engine : Geo.Engine) (tenant actor id : Uuid) (shape : Shape) (s : Store) :
    Prop where
  /-- The geofences are stored properly. -/
  indexed : s.Indexed
  /-- Entries and exits take turns, and the actor is inside exactly after an odd number of them. -/
  told : ∃ n, crossings tenant actor id s.events = turns n ∧
    (n % 2 = 1 ↔ lastWithin engine shape (s.latest tenant actor) = true)

/-- A tenant has an active geofence of a given shape under an identifier. -/
def Keeps (tenant id : Uuid) (shape : Shape) (s : Store) : Prop :=
  ∃ g, s.find tenant id = some g ∧ g.active = true ∧ g.shape = shape

section Steps

variable {env : Surroundings} {engine : Geo.Engine} {tenant actor id : Uuid} {shape : Shape}
  {w : World}

/-- Nothing changes for an actor if its crossings and its last report stay. -/
theorem Tells.of_same {s s' : Store} (h : Tells engine tenant actor id shape s)
    (hindexed : s'.Indexed)
    (hcrossings : crossings tenant actor id s'.events = crossings tenant actor id s.events)
    (hlatest : s'.latest tenant actor = s.latest tenant actor) :
    Tells engine tenant actor id shape s' := by
  refine ⟨hindexed, ?_⟩
  rw [hcrossings, hlatest]
  exact h.told

/-- Recording adds the crossings among the findings. -/
theorem crossings_recorded {location : Coordinate} {occurredAt : Instant} {w' : World}
    {fs : List Finding} {log : List (Finding × Event)}
    (h : Recorder.Recorded env tenant actor location occurredAt w fs log w') :
    crossings tenant actor id (log.map Prod.snd) =
      (fs.filter fun f => f.geofence == id).filterMap fun f => f.transition.event? := by
  induction h with
  | nil => rfl
  | @skip w w' f fs log none _ ih =>
    -- The finding is no crossing, so it does not matter whether it is about the geofence.
    rw [ih, List.filter_cons]
    split
    · rw [List.filterMap_cons, none]
    · rfl
  | @cons w w' f kind e fs log crossing _ made _ ih =>
    have hone : crossings tenant actor id [w.filed env e (Recorder.attends f kind)] =
        if f.geofence == id then [kind] else [] := by
      subst made
      simp only [crossings, World.filed, Recorder.event, List.filter_cons, beq_self_eq_true,
        Bool.true_and]
      split <;> rfl
    rw [List.map_cons, ← List.singleton_append, crossings_append, hone, ih, List.filter_cons]
    split
    · rw [List.filterMap_cons, crossing]
      rfl
    · rfl

/-- Recording for one actor adds crossings of that actor only. -/
theorem crossings_recorded_other {tenant' actor' : Uuid} {location : Coordinate}
    {occurredAt : Instant} {w' : World} {fs : List Finding} {log : List (Finding × Event)}
    (h : Recorder.Recorded env tenant' actor' location occurredAt w fs log w')
    (hother : ¬(tenant' = tenant ∧ actor' = actor)) :
    crossings tenant actor id (log.map Prod.snd) = [] := by
  refine crossings_eq_nil fun e he hmatch => ?_
  obtain ⟨p, hp, rfl⟩ := List.mem_map.1 he
  have htells := h.tellsOf p hp
  rw [htells.tenant, htells.actor] at hmatch
  exact hother hmatch

/-- The crossings after a recording are those before and those recorded. -/
theorem crossings_of_recorded {tenant' actor' : Uuid} {location : Coordinate}
    {occurredAt : Instant} {w' : World} {fs : List Finding} {log : List (Finding × Event)}
    (h : Recorder.Recorded env tenant' actor' location occurredAt w fs log w') :
    crossings tenant actor id w'.store.events =
      crossings tenant actor id w.store.events ++
        crossings tenant actor id (log.map Prod.snd) := by
  -- Recording may mark an old event that has an identifier drawn now, so the events stay the same
  -- up to marks only. Crossings do not see marks.
  rw [← crossings_map_unmarked, h.map_unmarked, crossings_append, crossings_map_unmarked]
  congr 1
  rw [← crossings_map_unmarked (log.map Prod.snd), List.map_map]
  rfl

/-- A submission crosses the boundary of a geofence exactly if it changes whether the actor is
inside. -/
theorem filter_geofence_found (hengine : ∀ n, env.engine n = engine) (hindexed : w.store.Indexed)
    (hkeeps : Keeps tenant id shape w.store) (o : Observation) :
    ((env.found w tenant actor o).filter fun f => f.geofence == id).filterMap
        (fun f => f.transition.event?) =
      (Transition.classify (within engine shape o.coordinate)
        (lastWithin engine shape (w.store.latest tenant actor))).event?.toList := by
  obtain ⟨g, hfound, hactive, rfl⟩ := hkeeps
  -- The previous membership is found anew, against the geofence as it is now. Its shape is the one
  -- that it had then, so the answer is the one that was found then.
  have hwas : (Membership.insideIds (env.before w tenant actor).1).contains id =
      lastWithin engine g.shape (w.store.latest tenant actor) := by
    rw [Surroundings.before]
    cases w.store.latest tenant actor with
    | none => rfl
    | some r =>
      simp only [Membership.evaluate_of_engine hengine]
      rw [Bool.eq_iff_iff, List.contains_iff_mem,
        mem_insideIds_evaluate engine hindexed hfound hactive]
      rfl
  rw [Surroundings.found, Surroundings.now, Membership.evaluate_of_engine hengine,
    Membership.transitions, List.filter_map]
  change List.filterMap _ (List.map _ (List.filter (fun f : Finding => f.geofence == id) _)) = _
  rw [filter_geofence_evaluate engine hindexed hfound hactive]
  cases hformed : g.shape.wellFormed with
  | false =>
    -- A malformed shape is passed over, and nobody was ever inside of it.
    have hout : ∀ location, within engine g.shape location = false := by
      intro location
      rw [within, hformed, Bool.false_and]
    have hlast : lastWithin engine g.shape (w.store.latest tenant actor) = false := by
      cases w.store.latest tenant actor with
      | none => rfl
      | some r => exact hout r.coordinate
    rw [hout, hlast, if_neg Bool.false_ne_true]
    rfl
  | true =>
    have hid : g.id = id := hindexed.id_eq (Store.find_eq_some_iff.1 hfound).1
    rw [if_pos rfl, List.map_singleton, within, hformed, Bool.true_and, ← hwas, ← hid]
    cases hevent : (Transition.classify (Membership.measure engine o.coordinate g.shape).inside
      ((Membership.insideIds (env.before w tenant actor).1).contains g.id)).event? with
    | none => exact List.filterMap_cons_none hevent
    | some kind => exact List.filterMap_cons_some hevent

/-- After a submission the last report about its actor is the one that it stored, and those about
others stay. -/
theorem latest_of_recorded {tenant' actor' : Uuid} {location : Coordinate} {occurredAt : Instant}
    {o : Observation} {w' : World} {fs : List Finding} {log : List (Finding × Event)}
    (h : Recorder.Recorded env tenant' actor' location occurredAt (w.reported env tenant' actor' o)
      fs log w') :
    w'.store.latest tenant actor =
      if (w.report env tenant' actor' o).isAbout tenant actor then
        some (w.report env tenant' actor' o)
      else w.store.latest tenant actor := by
  rw [← Store.latest_addReport, Store.latest, h.reports]
  rfl

/-- A submission of the actor itself, in which no event is refused, takes the next turn exactly if
it changes whether the actor is inside. -/
theorem Tells.submit_own (hengine : ∀ n, env.engine n = engine)
    (h : Tells engine tenant actor id shape w.store) (hkeeps : Keeps tenant id shape w.store)
    {o : Observation} {result : Option (Except DomainError Tracker.Outcome)} {w' : World}
    (hgrants : env.Grants (· = .insertEvent) w w')
    (hsubmitted : Tracker.Submitted env tenant actor o w result w') :
    Tells engine tenant actor id shape w'.store := by
  cases hsubmitted with
  | invalid => exact h
  | rejected hstore => exact hstore ▸ h
  | interrupted _ _ _ hrecorded hrefused =>
    -- Here the report would be stored without its events, and the turns would be lost.
    rw [hgrants _ _ rfl (World.calls_reported.trans hrecorded.calls) List.suffix_rfl] at hrefused
    cases hrefused
  | accepted _ hrecorded =>
    have hcrossings : crossings tenant actor id w'.store.events =
        crossings tenant actor id w.store.events ++
          (Transition.classify (within engine shape o.coordinate)
            (lastWithin engine shape (w.store.latest tenant actor))).event?.toList := by
      rw [crossings_of_recorded hrecorded, crossings_recorded hrecorded,
        filter_geofence_found hengine h.indexed hkeeps]
      rfl
    have hindexed : w'.store.Indexed := h.indexed.of_geofences hrecorded.geofences
    have hlatest : w'.store.latest tenant actor = some (w.report env tenant actor o) := by
      rw [latest_of_recorded hrecorded, if_pos (by simp [World.report, Report.isAbout])]
    -- The turns so far say whether the actor was inside, and the submission compares with that.
    obtain ⟨n, hturns, hwas⟩ := h.told
    obtain ⟨m, hnext, hinside⟩ := turns_append_classify (within engine shape o.coordinate) hwas
    refine ⟨hindexed, m, ?_, ?_⟩
    · rw [hcrossings, hturns, hnext]
    · rw [hlatest, hinside]
      rfl

/-- A submission of another actor changes nothing, also if it is cut short. -/
theorem Tells.submit_other (h : Tells engine tenant actor id shape w.store) {tenant' actor' : Uuid}
    {o : Observation} {result : Option (Except DomainError Tracker.Outcome)} {w' : World}
    (hother : ¬(tenant' = tenant ∧ actor' = actor))
    (hsubmitted : Tracker.Submitted env tenant' actor' o w result w') :
    Tells engine tenant actor id shape w'.store := by
  -- Neither the report nor an event of it is about the actor, however many events there are.
  have hrecording : ∀ {fs log w₁}, Recorder.Recorded env tenant' actor' o.coordinate o.recordedAt
      (w.reported env tenant' actor' o) fs log w₁ →
      Tells engine tenant actor id shape w₁.store := by
    intro fs log w₁ hrecorded
    refine h.of_same (h.indexed.of_geofences hrecorded.geofences) ?_ ?_
    · rw [crossings_of_recorded hrecorded, crossings_recorded_other hrecorded hother,
        List.append_nil]
      rfl
    · rw [latest_of_recorded hrecorded, if_neg]
      simpa [World.report, Report.isAbout] using hother
  cases hsubmitted with
  | invalid => exact h
  | rejected hstore => exact hstore ▸ h
  | accepted _ hrecorded => exact hrecording hrecorded
  | interrupted _ _ _ hrecorded _ =>
    -- The event that was refused is not stored.
    have htold := hrecording hrecorded
    exact htold

end Steps

/-! ## Runs -/

/-- What a run may do as far as one actor is concerned: no event is refused in submissions of the
actor, and purges keep the report about the actor that arrived last. Everything else is free. -/
def Allowed (env : Surroundings) (tenant actor : Uuid) (w : World) : Operation → Prop
  | .submit tenant' actor' o => tenant' = tenant ∧ actor' = actor →
      env.Grants (· = .insertEvent) w ((Operation.submit tenant' actor' o).run env w)
  | .purge policy scope => ∀ r, w.store.latest tenant actor = some r →
      r ∈ ((Operation.purge policy scope).run env w).store.reports
  | .create _ | .update _ | .delete _ _ => True

/-- A run of allowed operations during which a tenant keeps an active geofence of a given shape. -/
inductive Course (env : Surroundings) (tenant actor id : Uuid) (shape : Shape) :
    World → World → Prop
  /-- Nothing has happened yet. -/
  | start {w : World} (keeps : Keeps tenant id shape w.store) :
      Course env tenant actor id shape w w
  /-- One more operation is allowed and keeps the geofence. -/
  | step {w w' : World} (sofar : Course env tenant actor id shape w w') (op : Operation)
      (allowed : Allowed env tenant actor w' op)
      (keeps : Keeps tenant id shape (op.run env w').store) :
      Course env tenant actor id shape w (op.run env w')

/-- Operations that spare a geofence: it is not deleted, and an update leaves it active and of the
same shape. It may be renamed, and all other geofences may change. -/
def Spares (id : Uuid) (shape : Shape) : Operation → Prop
  | .update g => g.id = id → g.active = true ∧ g.shape = shape
  | .delete _ id' => id' ≠ id
  | .submit _ _ _ | .create _ | .purge _ _ => True

section Runs

variable {env : Surroundings} {engine : Geo.Engine} {tenant actor id : Uuid} {shape : Shape}
  {w w' : World}

/-- The geofence is in place at the end of a run. -/
theorem Course.keeps (h : Course env tenant actor id shape w w') :
    Keeps tenant id shape w'.store := by
  cases h with
  | start keeps => exact keeps
  | step _ _ _ keeps => exact keeps

/-- An operation that spares a geofence leaves it in place. -/
theorem Keeps.step (h : Keeps tenant id shape w.store) {op : Operation}
    (hspares : Spares id shape op) (env : Surroundings) :
    Keeps tenant id shape (op.run env w).store := by
  -- Operations that leave all geofences alone leave this one in place.
  have hgeofences : ∀ {s : Store}, s.geofences = w.store.geofences → Keeps tenant id shape s := by
    intro s hsame
    rw [Keeps, Store.find, Store.geofence?, hsame]
    exact h
  obtain ⟨g, hfound, hactive, hshape⟩ := h
  obtain ⟨hstored, htenant⟩ := Store.find_eq_some_iff.1 hfound
  cases op with
  | submit tenant' actor' o => exact hgeofences (Tracker.submitted_run env w _ _ o).geofences
  | create g' =>
    obtain hsame | ⟨hnew, hstore⟩ := Operation.store_create env w g'
    · exact hgeofences (by rw [hsame])
    · -- The identifier of the new geofence was unused, so it is not the one of this geofence.
      have hother : id ≠ g'.id := by
        rintro rfl
        rw [hnew] at hstored
        cases hstored
      refine ⟨g, ?_, hactive, hshape⟩
      rw [hstore, Store.find_eq_some_iff, Store.geofence?_insert hnew, if_neg hother]
      exact ⟨hstored, htenant⟩
  | update g' =>
    obtain hsame | ⟨hsome, hstore⟩ := Operation.store_update env w g'
    · exact hgeofences (by rw [hsame])
    · rw [hstore]
      by_cases hid : id = g'.id
      · -- Only the tenant of a geofence can update it, so the new one is of the same tenant.
        subst hid
        obtain ⟨old, hold⟩ := Option.isSome_iff_exists.1 hsome
        rw [Store.find_eq_some_iff, hstored, Option.some_inj] at hold
        obtain ⟨rfl, hsame⟩ := hold
        refine ⟨g', ?_, hspares rfl⟩
        rw [Store.find_eq_some_iff, Store.geofence?_replace, if_pos rfl, hstored]
        exact ⟨rfl, hsame.symm.trans htenant⟩
      · refine ⟨g, ?_, hactive, hshape⟩
        rw [Store.find_eq_some_iff, Store.geofence?_replace, if_neg hid]
        exact ⟨hstored, htenant⟩
  | delete tenant' id' =>
    obtain hsame | ⟨-, hstore⟩ := Operation.store_delete env w tenant' id'
    · exact hgeofences (by rw [hsame])
    · refine ⟨g, ?_, hactive, hshape⟩
      rw [hstore, Store.find_eq_some_iff, Store.geofence?_remove, if_neg (Ne.symm hspares)]
      exact ⟨hstored, htenant⟩
  | purge policy scope =>
    obtain hsame | ⟨cutoff, hstore⟩ := Operation.store_purge env w policy scope
    · exact hgeofences (by rw [hsame])
    · exact hgeofences (by rw [hstore]; rfl)

/-- A run goes on with any allowed operation that spares the geofence. -/
theorem Course.spare (h : Course env tenant actor id shape w w') (op : Operation)
    (hspares : Spares id shape op) (hallowed : Allowed env tenant actor w' op) :
    Course env tenant actor id shape w (op.run env w') :=
  .step h op hallowed (h.keeps.step hspares env)

/-- Every allowed operation that leaves the geofence in place keeps the invariant. -/
theorem Tells.step (hengine : ∀ n, env.engine n = engine)
    (h : Tells engine tenant actor id shape w.store) (hkeeps : Keeps tenant id shape w.store)
    {op : Operation} (hallowed : Allowed env tenant actor w op)
    (hkept : Keeps tenant id shape (op.run env w).store) :
    Tells engine tenant actor id shape (op.run env w).store := by
  cases op with
  | submit tenant' actor' o =>
    -- Only submissions of the actor add events that count.
    by_cases hown : tenant' = tenant ∧ actor' = actor
    · obtain ⟨rfl, rfl⟩ := hown
      exact h.submit_own hengine hkeeps (hallowed ⟨rfl, rfl⟩) (Tracker.submitted_run env w _ _ o)
    · exact h.submit_other hown (Tracker.submitted_run env w _ _ o)
  | create g =>
    obtain hsame | ⟨hnew, hstore⟩ := Operation.store_create env w g
    · exact hsame ▸ h
    · rw [hstore]
      exact h.of_same (h.indexed.insert hnew) rfl rfl
  | update g =>
    obtain hsame | ⟨-, hstore⟩ := Operation.store_update env w g
    · exact hsame ▸ h
    · rw [hstore]
      exact h.of_same (h.indexed.replace g) rfl rfl
  | delete tenant' id' =>
    obtain hsame | ⟨-, hstore⟩ := Operation.store_delete env w tenant' id'
    · exact hsame ▸ h
    · -- The geofence is still there, so it is another one that was removed.
      have hother : id ≠ id' := by
        rintro rfl
        obtain ⟨g, hfound, -⟩ := hkept
        rw [hstore, Store.find_eq_some_iff, Store.geofence?_remove, if_pos rfl] at hfound
        cases hfound.1
      rw [hstore]
      exact h.of_same (h.indexed.remove id') (crossings_filter hother) rfl
  | purge policy scope =>
    obtain hsame | ⟨cutoff, hstore⟩ := Operation.store_purge env w policy scope
    · exact hsame ▸ h
    · -- Old reports play no part, and the last one is kept.
      rw [hstore]
      refine h.of_same (h.indexed.of_geofences rfl) rfl (Store.latest_purge fun r hr => ?_)
      exact hstore ▸ hallowed r hr

/-- The invariant holds along every run that begins with it. -/
theorem Tells.course (hengine : ∀ n, env.engine n = engine)
    (h : Tells engine tenant actor id shape w.store)
    (hcourse : Course env tenant actor id shape w w') :
    Tells engine tenant actor id shape w'.store := by
  -- By induction along the run: before each step the geofence is in place, and after it again.
  induction hcourse with
  | start _ => exact h
  | step sofar op allowed keeps ih => exact ih.step hengine sofar.keeps allowed keeps

/-- Without a report and an event of the actor, the invariant holds. -/
theorem Tells.of_none (hindexed : w.store.Indexed)
    (hreports : ∀ r ∈ w.store.reports, r.isAbout tenant actor = false)
    (hevents : ∀ e ∈ w.store.events, ¬(e.tenant = tenant ∧ e.actor = actor)) :
    Tells engine tenant actor id shape w.store := by
  refine ⟨hindexed, 0, crossings_eq_nil hevents, ?_⟩
  rw [Store.latest_eq_none_iff.2 hreports]
  simp [lastWithin]

/-- Asking what an actor is inside of evaluates the last report, if no store call is refused. -/
theorem run_current (hgrants : env.Grants (fun _ => True) w
      ((Tracker.current tenant actor).run.run env w).2) :
    ((Tracker.current tenant actor).run.run env w).1 =
      some (.ok (Membership.insideIds (env.before w tenant actor).1)) := by
  suffices h : (Tracker.current tenant actor).run.Ensures env w fun r w' =>
      env.Grants (fun _ => True) w w' →
        r = some (.ok (Membership.insideIds (env.before w tenant actor).1)) from h hgrants
  simp only [Tracker.current, Prog.ensures_run_bind]
  rw [Prog.ensures_run_store]
  cases hlatest : env.refuses w.calls .latest with
  | true =>
    -- This call is between the two worlds, so it was granted.
    rw [World.callStore_of_refused hlatest]
    intro hgrants
    have hgranted : env.refuses w.calls .latest = false :=
      hgrants _ _ trivial List.suffix_rfl List.suffix_rfl
    rw [hgranted] at hlatest
    cases hlatest
  | false =>
    rw [World.callStore_of_ok hlatest rfl, Surroundings.before]
    cases w.store.latest tenant actor with
    | none => exact fun _ => rfl
    | some r =>
      simp only [Prog.ensures_run_bind]
      rw [Prog.ensures_run_store]
      cases hactive : env.refuses (.latest :: w.calls) .findActive with
      | true =>
        rw [World.callStore_of_refused hactive]
        intro hgrants
        have hgranted : env.refuses (.latest :: w.calls) .findActive = false :=
          hgrants _ _ trivial (List.suffix_cons _ _) List.suffix_rfl
        rw [hgranted] at hactive
        cases hactive
      | false =>
        rw [World.callStore_of_ok hactive rfl]
        simp only [Prog.ensures_run_lift]
        rw [Prog.Ensures, Tracker.evaluate, Membership.run_evaluateWith]
        exact fun _ => rfl

/-- Over every run that leaves a geofence in place and begins without a report and an event of the
actor, the actor's events about it are an entry, an exit and so on in turn, and the actor is inside
exactly if the last of them is an entry. -/
theorem replay_crossings (hengine : ∀ n, env.engine n = engine) (hindexed : w.store.Indexed)
    (hreports : ∀ r ∈ w.store.reports, r.isAbout tenant actor = false)
    (hevents : ∀ e ∈ w.store.events, ¬(e.tenant = tenant ∧ e.actor = actor))
    (hcourse : Course env tenant actor id shape w w') :
    let log := crossings tenant actor id w'.store.events
    let current := (Tracker.current tenant actor).run.run env w'
    log = turns log.length ∧
      (env.Grants (fun _ => True) w' current.2 →
        ∃ ids, current.1 = some (.ok ids) ∧ (id ∈ ids ↔ log.getLast? = some .enter)) := by
  intro log current
  have htells : Tells engine tenant actor id shape w'.store :=
    (Tells.of_none hindexed hreports hevents).course hengine hcourse
  obtain ⟨n, hturns, hinside⟩ := htells.told
  have hlog : log = turns n := hturns
  refine ⟨?_, fun hgrants => ⟨_, run_current hgrants, ?_⟩⟩
  · rw [hlog, length_turns]
  · -- What the actor is inside of is found anew too, and this is what the invariant speaks about.
    rw [hlog, getLast?_turns, hinside, Surroundings.before]
    obtain ⟨g, hfound, hactive, rfl⟩ := hcourse.keeps
    cases w'.store.latest tenant actor with
    | none => simp [Membership.insideIds, lastWithin]
    | some r =>
      simp only [Membership.evaluate_of_engine hengine]
      exact mem_insideIds_evaluate engine htells.indexed hfound hactive r.coordinate

end Runs

end Replay

/-! ### A day on the campus -/

namespace Campus

/-- Before anybody was observed. -/
def dawn : World := .start ⟨[(grounds.id, grounds)], [], []⟩

/-- The pupil comes and goes, the grounds are renamed, old reports are purged, somebody else comes,
and the pupil comes back. -/
def day : List Operation :=
  [.submit school pupil inside, .submit school pupil outside,
   .update { grounds with name := "Park", kind := .custom }, .purge .standard none,
   .submit school (.ofNat 8) inside, .submit school pupil inside]

/-- How the world is after some operations. -/
def after (ops : List Operation) : World := ops.foldl (Operation.run surroundings) dawn

/-- The grounds stay in place all day. -/
theorem course_day :
    Replay.Course surroundings school pupil grounds.id grounds.shape dawn (after day) := by
  have hgrants : ∀ w w', surroundings.Grants (· = .insertEvent) w w' :=
    fun _ _ _ _ _ _ _ => rfl
  -- The purge comes when the pupil is outside, and keeps the report that says so.
  have hlast : ∀ r ∈ (after (day.take 3)).store.latest school pupil,
      r ∈ (after (day.take 4)).store.reports := by
    decide +kernel
  have hstart : Replay.Course surroundings school pupil grounds.id grounds.shape dawn dawn :=
    .start ⟨grounds, rfl, rfl, rfl⟩
  have hcame := hstart.spare (.submit school pupil inside) trivial fun _ => hgrants _ _
  have hleft := hcame.spare (.submit school pupil outside) trivial fun _ => hgrants _ _
  have hrenamed := hleft.spare (.update { grounds with name := "Park", kind := .custom })
    (fun _ => ⟨rfl, rfl⟩) trivial
  have hpurged := hrenamed.spare (.purge .standard none) trivial hlast
  have hvisited := hpurged.spare (.submit school (.ofNat 8) inside) trivial fun _ => hgrants _ _
  have hback := hvisited.spare (.submit school pupil inside) trivial fun _ => hgrants _ _
  simpa only [after, day, List.foldl_cons, List.foldl_nil] using hback

end Campus

/-- The events of the day tell that the pupil is inside in the end. -/
theorem Replay.replay_crossings_campus :
    let log := crossings Campus.school Campus.pupil Campus.grounds.id
      (Campus.after Campus.day).store.events
    let current := (Tracker.current Campus.school Campus.pupil).run.run Campus.surroundings
      (Campus.after Campus.day)
    log = [.enter, .exit, .enter] ∧ log = turns log.length ∧
      (Campus.surroundings.Grants (fun _ => True) (Campus.after Campus.day) current.2 →
        ∃ ids, current.1 = some (.ok ids) ∧
          (Campus.grounds.id ∈ ids ↔ log.getLast? = some .enter)) :=
  ⟨by decide +kernel,
    replay_crossings (fun _ => rfl) ⟨by decide, fun _ h => by rw [List.mem_singleton.1 h]⟩
      (fun _ h => absurd h List.not_mem_nil) (fun _ h => absurd h List.not_mem_nil)
      Campus.course_day⟩

end Geofencing
