import Geofencing.Proofs.History

/-!
# Undetermined memberships

The spatial engine may fail on a question, and it may answer the same question differently the next
time. A question that it fails on counts as answered with outside. So an actor seems to leave a
polygon when the engine fails at the new location, and to enter it when the engine failed at the
last report: `Tracker.crossed_undetermined`.

One of the two answers can be relied on, however. An entry is recorded only if the engine finds the
new location inside, and an exit only if it finds the last one inside; so nothing is recorded if it
fails on both: `Tracker.crossings_answered`.
-/

namespace Geofencing

/-! ## What the engine answers -/

/-- What an answer of the engine counts as. -/
def Geo.Membership.ofAnswer : Except EngineFailure Membership → Membership
  | .ok m => m
  | .error _ => .undetermined

/-- The engine was asked, did not fail, and answered inside. -/
def Geo.AnsweredInside (answer : Option (Except EngineFailure Membership)) : Prop :=
  ∃ m, answer = some (.ok m) ∧ m.inside = true

/-- Whether an answer counts as inside, if there is one. -/
def Geo.countsInside (answer : Option (Except EngineFailure Membership)) : Bool :=
  answer.any fun a => (Membership.ofAnswer a).inside

/-- A failure never counts as inside. -/
theorem Geo.answeredInside_iff {answer : Option (Except EngineFailure Membership)} :
    AnsweredInside answer ↔ countsInside answer = true := by
  rcases answer with _ | _ | m <;>
    simp [AnsweredInside, countsInside, Membership.ofAnswer, Membership.undetermined]

namespace Surroundings

/-- What the engine answers about the polygons among geofences that are evaluated, each answer with
the geofence that it is about, if `n` questions came before. -/
def answers (env : Surroundings) (tenant : Uuid) (location : Coordinate) :
    Nat → List Geofence → List (Uuid × Except Geo.EngineFailure Geo.Membership)
  | _, [] => []
  | n, g :: rest =>
    if Membership.evaluable tenant g then
      match g.shape with
      | .circle _ _ => env.answers tenant location n rest
      | .polygon geometry =>
        (g.id, env.engine n location geometry) :: env.answers tenant location (n + 1) rest
    else env.answers tenant location n rest

/-- What the engine answers about a geofence at the last report of an actor, if there is one. -/
def answerBefore? (env : Surroundings) (w : World) (tenant actor id : Uuid) :
    Option (Except Geo.EngineFailure Geo.Membership) :=
  (w.store.latest tenant actor).bind fun r =>
    (env.answers tenant r.coordinate w.questions (w.store.list tenant false)).lookup id

/-- What the engine answers about a geofence at a new location. -/
def answerNow? (env : Surroundings) (w : World) (tenant actor : Uuid) (o : Observation)
    (id : Uuid) : Option (Except Geo.EngineFailure Geo.Membership) :=
  (env.answers tenant o.coordinate (env.before w tenant actor).2
    (w.store.list tenant false)).lookup id

end Surroundings

namespace Membership

variable {env : Surroundings} {tenant : Uuid} {location : Coordinate} {geofences : List Geofence}
  {n : Nat}

theorem ofShape_polygon (geometry : Json) : ofShape env.ask location (.polygon geometry) n =
    (.ofAnswer (env.engine n location geometry), n + 1) := by
  rw [ofShape, env.ask_bind]
  cases env.engine n location geometry <;> rfl

/-- Each finding is about a geofence, and about a polygon it is what the engine's answer counts
as. -/
theorem exists_of_mem_evaluate {f : Finding}
    (hf : f ∈ (env.evaluate n tenant location geofences).1) :
    ∃ g ∈ geofences, f.geofence = g.id ∧ ∀ geometry, g.shape = .polygon geometry →
      ∃ answer, (g.id, answer) ∈ env.answers tenant location n geofences ∧
        f.inside = (Geo.Membership.ofAnswer answer).inside := by
  -- By induction on the geofences, which use up the questions one after another.
  induction geofences generalizing n with
  | nil => exact absurd hf List.not_mem_nil
  | cons g rest ih =>
    rw [Surroundings.evaluate, evaluateWith] at hf
    rw [Surroundings.answers]
    by_cases hg : evaluable tenant g = true
    · rw [if_pos hg] at hf ⊢
      change f ∈ finding g (ofShape env.ask location g.shape n).1 ::
        (env.evaluate (ofShape env.ask location g.shape n).2 tenant location rest).1 at hf
      cases hshape : g.shape with
      | circle center radius =>
        rw [hshape] at hf
        rcases List.mem_cons.1 hf with rfl | hf
        · refine ⟨g, List.mem_cons_self, rfl, fun geometry hpolygon => ?_⟩
          rw [hshape] at hpolygon
          cases hpolygon
        · obtain ⟨g', hg', hfound⟩ := ih hf
          exact ⟨g', List.mem_cons_of_mem _ hg', hfound⟩
      | polygon geometry =>
        rw [hshape, ofShape_polygon] at hf
        rcases List.mem_cons.1 hf with rfl | hf
        · exact ⟨g, List.mem_cons_self, rfl, fun _ _ => ⟨_, List.mem_cons_self, rfl⟩⟩
        · obtain ⟨g', hg', hid, hfound⟩ := ih hf
          refine ⟨g', List.mem_cons_of_mem _ hg', hid, fun geometry' hpolygon => ?_⟩
          obtain ⟨answer, hanswer, hinside⟩ := hfound geometry' hpolygon
          exact ⟨answer, List.mem_cons_of_mem _ hanswer, hinside⟩
    · rw [if_neg hg] at hf ⊢
      obtain ⟨g', hg', hfound⟩ := ih hf
      exact ⟨g', List.mem_cons_of_mem _ hg', hfound⟩

/-- The engine is asked about each geofence at most once. -/
theorem map_fst_answers_sublist (n : Nat) (geofences : List Geofence) :
    ((env.answers tenant location n geofences).map Prod.fst).Sublist
      (geofences.map Geofence.id) := by
  induction geofences generalizing n with
  | nil => exact List.nil_sublist _
  | cons g rest ih =>
    rw [Surroundings.answers, List.map_cons]
    split
    · split
      · exact (ih n).cons _
      · exact (ih (n + 1)).cons_cons _
    · exact (ih n).cons _

/-- If no identifier occurs twice, a polygon is found as the one answer about it counts. -/
theorem exists_answer (hnodup : (geofences.map Geofence.id).Nodup) {g : Geofence}
    (hg : g ∈ geofences) {geometry : Json} (hshape : g.shape = .polygon geometry) {f : Finding}
    (hf : f ∈ (env.evaluate n tenant location geofences).1) (hid : f.geofence = g.id) :
    ∃ answer, (env.answers tenant location n geofences).lookup g.id = some answer ∧
      f.inside = (Geo.Membership.ofAnswer answer).inside := by
  -- The finding is about some geofence with this identifier, and there is no other one.
  obtain ⟨g', hg', hid', hfound⟩ := exists_of_mem_evaluate hf
  have hsame : g' = g := List.inj_on_of_nodup_map hnodup hg' hg (hid'.symm.trans hid)
  subst hsame
  obtain ⟨answer, hanswer, hinside⟩ := hfound geometry hshape
  refine ⟨answer, ?_, hinside⟩
  exact (Store.lookup_eq_some_iff_mem ((map_fst_answers_sublist n _).nodup hnodup)).2 hanswer

end Membership

namespace Tracker

variable {env : Surroundings} {w : World} {tenant actor : Uuid} {o : Observation} {g : Geofence}
  {geometry : Json}

/-- A stored geofence that something is found about is among those that are evaluated. -/
theorem evaluated_of_mem_now (hindexed : w.store.Indexed) {f : Finding}
    (hf : f ∈ (env.now w tenant actor o).1) (hg : w.store.geofence? f.geofence = some g) :
    g ∈ (w.store.list tenant false).filter (Membership.evaluable tenant) := by
  have hid := List.mem_map_of_mem (f := Finding.geofence) hf
  rw [Surroundings.now, Membership.map_geofence_evaluate] at hid
  obtain ⟨g', hg', hid⟩ := List.mem_map.1 hid
  have hlisted := (Store.mem_list_iff hindexed).1 (List.mem_filter.1 hg').1
  have hstored := (Store.find_eq_some_iff.1 hlisted.1).1
  rw [hid, hg] at hstored
  exact Option.some_inj.1 hstored ▸ hg'

/-- Whether an actor was inside of a polygon is what the answer about the last report counts as,
and without a report there is no answer. -/
theorem contains_before (env : Surroundings) (actor : Uuid) (hindexed : w.store.Indexed)
    (hg : g ∈ (w.store.list tenant false).filter (Membership.evaluable tenant))
    (hshape : g.shape = .polygon geometry) :
    (env.answerBefore? w tenant actor g.id).isSome = (w.store.latest tenant actor).isSome ∧
      (Membership.insideIds (env.before w tenant actor).1).contains g.id =
        Geo.countsInside (env.answerBefore? w tenant actor g.id) := by
  rw [Surroundings.answerBefore?, Surroundings.before]
  cases w.store.latest tenant actor with
  | none => exact ⟨rfl, rfl⟩
  | some r =>
    have hnodup : ((w.store.list tenant false).map Geofence.id).Nodup :=
      w.store.nodup_list hindexed false
    -- There is one finding about the geofence, so it is inside if that finding says so.
    have hdistinct : (((w.store.list tenant false).filter (Membership.evaluable tenant)).map
        Geofence.id).Nodup := hnodup.sublist (List.filter_sublist.map Geofence.id)
    have hmem := List.mem_map_of_mem (f := Geofence.id) hg
    rw [← Membership.map_geofence_evaluate env w.questions tenant r.coordinate] at hdistinct hmem
    obtain ⟨f, hf, hid⟩ := List.mem_map.1 hmem
    obtain ⟨answer, hanswer, hinside⟩ :=
      Membership.exists_answer hnodup (List.mem_filter.1 hg).1 hshape hf hid
    rw [Option.bind_some, hanswer, ← hid, Membership.contains_insideIds hdistinct f hf, hinside]
    exact ⟨rfl, rfl⟩

/-- The transition of a polygon compares what the two answers about it count as. -/
theorem transition_eq (hindexed : w.store.Indexed) {f : Finding}
    (hf : f ∈ env.found w tenant actor o) (hg : w.store.geofence? f.geofence = some g)
    (hshape : g.shape = .polygon geometry) :
    (env.answerNow? w tenant actor o g.id).isSome = true ∧
      (env.answerBefore? w tenant actor g.id).isSome = (w.store.latest tenant actor).isSome ∧
      f.transition = .classify (Geo.countsInside (env.answerNow? w tenant actor o g.id))
        (Geo.countsInside (env.answerBefore? w tenant actor g.id)) := by
  obtain ⟨f', hf', rfl⟩ := List.mem_map.1 hf
  have hid : f'.geofence = g.id := (hindexed.id_eq hg).symm
  -- Every finding is about a geofence that is evaluated, now and for the previous report.
  have hevaluated := evaluated_of_mem_now hindexed hf' hg
  obtain ⟨hasked, hcontains⟩ := contains_before env actor hindexed hevaluated hshape
  obtain ⟨now, hnow, hinside⟩ := Membership.exists_answer (w.store.nodup_list hindexed false)
    (List.mem_filter.1 hevaluated).1 hshape hf' hid
  rw [Surroundings.answerNow?, hnow, Finding.withTransition, hid, hcontains, hinside]
  exact ⟨rfl, hasked, rfl⟩

/-- A submission stores events for crossings among what it found. -/
theorem exists_found_of_mem_inserted {p : Store × Event}
    (hp : p ∈ (submit tenant actor o).run.inserted env w) :
    ∃ f ∈ env.found w tenant actor o, f.geofence = p.2.geofence ∧
      f.transition.event? = some p.2.kind := by
  -- The log of the submission and the list of its stored events describe the same events.
  have hsubmitted := submitted_run env w tenant actor o
  rw [Prog.Ensures] at hsubmitted
  have htracked : w.store.Tracked ((submit tenant actor o).run.run env w).2.store
      ((submit tenant actor o).run.inserted env w) :=
    (@follows_tracking ⟨tenant, actor, .student⟩ _ o).tracked
  have hmem := List.mem_map_of_mem (f := fun p : Store × Event => p.2.unmarked) hp
  obtain ⟨hstore, -⟩ | ⟨fs, log, w₁, hsub, hrecorded, hstore, -⟩ := hsubmitted.recorded_cases
  · -- Nothing was stored.
    have hevents := htracked.events
    rw [hstore, List.self_eq_append_right] at hevents
    rw [hevents] at hmem
    exact absurd hmem List.not_mem_nil
  · -- But for marks, the events that were stored are those of the log.
    have hevents := htracked.events
    rw [hstore, hrecorded.map_unmarked] at hevents
    rw [← List.append_cancel_left hevents] at hmem
    obtain ⟨q, hq, hunmarked⟩ := List.mem_map.1 hmem
    have htells := hrecorded.tellsOf q hq
    have hfound : q.1 ∈ log.map Prod.fst := List.mem_map_of_mem hq
    rw [hrecorded.map_fst] at hfound
    have hgeofence := congrArg Event.geofence hunmarked
    have hkind := congrArg Event.kind hunmarked
    refine ⟨q.1, hsub _ (List.mem_filter.1 hfound).1, ?_, ?_⟩
    · exact htells.geofence.symm.trans hgeofence
    · exact htells.kind.trans (congrArg some hkind)

end Tracker

/-! ## Crossings -/

theorem Transition.event?_classify {isInside wasInside : Bool} {kind : EventKind}
    (h : (classify isInside wasInside).event? = some kind) :
    kind = .enter ∧ isInside = true ∧ wasInside = false ∨
      kind = .exit ∧ isInside = false ∧ wasInside = true := by
  cases isInside <;> cases wasInside <;> cases h
  · exact .inr ⟨rfl, rfl, rfl⟩
  · exact .inl ⟨rfl, rfl, rfl⟩

/-- Crossings of polygons. For every engine and every submission, the engine was asked about the
polygon of each stored event at the new location, and at the last report if there is one. An entry
is stored only if it answered inside for the new location, and not for the last; an exit only if it
answered inside for the last, and not for the new one. -/
theorem Tracker.crossings_answered (env : Surroundings) (w : World) (tenant actor : Uuid)
    (o : Observation) (hindexed : w.store.Indexed) :
    ∀ p ∈ (submit tenant actor o).run.inserted env w, ∀ g geometry,
      w.store.geofence? p.2.geofence = some g → g.shape = .polygon geometry →
      let before := env.answerBefore? w tenant actor g.id
      let now := env.answerNow? w tenant actor o g.id
      now.isSome = true ∧ before.isSome = (w.store.latest tenant actor).isSome ∧
      (p.2.kind = .enter → Geo.AnsweredInside now ∧ ¬Geo.AnsweredInside before) ∧
      (p.2.kind = .exit → Geo.AnsweredInside before ∧ ¬Geo.AnsweredInside now) := by
  intro p hp g geometry hg hshape before now
  obtain ⟨f, hf, hid, hevent⟩ := exists_found_of_mem_inserted hp
  obtain ⟨hanswered, hasked, htransition⟩ := transition_eq hindexed hf (hid ▸ hg) hshape
  refine ⟨hanswered, hasked, ?_⟩
  rw [htransition] at hevent
  rw [Geo.answeredInside_iff, Geo.answeredInside_iff]
  -- The kind of the event says which of the two answers counted as inside.
  obtain ⟨hkind, hnow, hbefore⟩ | ⟨hkind, hnow, hbefore⟩ := Transition.event?_classify hevent
  · rw [hkind]
    exact ⟨fun _ => ⟨hnow, Bool.eq_false_iff.1 hbefore⟩, nofun⟩
  · rw [hkind]
    exact ⟨nofun, fun _ => ⟨hbefore, Bool.eq_false_iff.1 hnow⟩⟩

/-! ### An engine that fails -/

namespace Campus

/-- Surroundings with an engine that knows the equator and fails everywhere else. -/
def patchy : Surroundings :=
  { surroundings with
    engine := fun _ point _ => if point.latitude == 0 then .ok ⟨true, 0⟩ else .error .timeout }

/-- The grounds are known, and the pupil was last observed inside of them. -/
def noon : World :=
  .start ⟨[(grounds.id, grounds)], [⟨.ofNat 1, school, pupil, inside, ⟨50, 0⟩⟩], []⟩

/-- The engine fails where the pupil is observed next, and an exit is stored. -/
theorem inserted_noon : ((Tracker.submit school pupil outside).run.inserted patchy noon).map
    (fun p => (p.2.geofence, p.2.kind)) = [(grounds.id, .exit)] := by
  decide +kernel

/-- The engine fails where the pupil was observed last, and an entry is stored. -/
theorem inserted_morning : ((Tracker.submit school pupil inside).run.inserted patchy morning).map
    (fun p => (p.2.geofence, p.2.kind)) = [(grounds.id, .enter)] := by
  decide +kernel

end Campus

/-- Events are stored although the engine failed: an exit where it failed at the new location, and
an entry where it failed at the last report. -/
theorem Tracker.crossed_undetermined :
    (∃ p ∈ (submit Campus.school Campus.pupil Campus.outside).run.inserted Campus.patchy
        Campus.noon,
      p.2.geofence = Campus.grounds.id ∧ p.2.kind = .exit ∧
      (Campus.patchy.answerNow? Campus.noon Campus.school Campus.pupil Campus.outside
        Campus.grounds.id).map Except.isOk = some false) ∧
    ∃ p ∈ (submit Campus.school Campus.pupil Campus.inside).run.inserted Campus.patchy
        Campus.morning,
      p.2.geofence = Campus.grounds.id ∧ p.2.kind = .enter ∧
      (Campus.patchy.answerBefore? Campus.morning Campus.school Campus.pupil
        Campus.grounds.id).map Except.isOk = some false := by
  obtain ⟨p, hp, hexit⟩ := List.map_eq_singleton_iff.1 Campus.inserted_noon
  obtain ⟨q, hq, henter⟩ := List.map_eq_singleton_iff.1 Campus.inserted_morning
  obtain ⟨hpgeofence, hpkind⟩ := Prod.mk.inj hexit
  obtain ⟨hqgeofence, hqkind⟩ := Prod.mk.inj henter
  exact ⟨⟨p, hp ▸ List.mem_singleton_self p, hpgeofence, hpkind, by decide +kernel⟩,
    q, hq ▸ List.mem_singleton_self q, hqgeofence, hqkind, by decide +kernel⟩

/-- Whoever seems to leave was found inside before. -/
theorem Tracker.crossings_answered_campus :
    ∃ p ∈ (submit Campus.school Campus.pupil Campus.outside).run.inserted Campus.patchy Campus.noon,
      p.2.kind = .exit ∧
      Geo.AnsweredInside (Campus.patchy.answerBefore? Campus.noon Campus.school Campus.pupil
        Campus.grounds.id) ∧
      ¬Geo.AnsweredInside (Campus.patchy.answerNow? Campus.noon Campus.school Campus.pupil
        Campus.outside Campus.grounds.id) := by
  have hindexed : Campus.noon.store.Indexed :=
    ⟨by decide, fun _ h => by rw [List.mem_singleton.1 h]⟩
  obtain ⟨p, hp, hexit⟩ := List.map_eq_singleton_iff.1 Campus.inserted_noon
  obtain ⟨hgeofence, hkind⟩ := Prod.mk.inj hexit
  have hmem := hp ▸ List.mem_singleton_self p
  have hstored : Campus.noon.store.geofence? p.2.geofence = some Campus.grounds := by
    rw [hgeofence]
    rfl
  obtain ⟨-, -, -, hanswered⟩ := crossings_answered Campus.patchy Campus.noon Campus.school
    Campus.pupil Campus.outside hindexed p hmem Campus.grounds _ hstored rfl
  exact ⟨p, hmem, hkind, hanswered hkind⟩

end Geofencing
