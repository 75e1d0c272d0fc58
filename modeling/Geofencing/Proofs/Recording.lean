import Geofencing.Proofs.Run
import Geofencing.Proofs.Tables
import Geofencing.Service.Recorder

/-!
# Evaluating locations and recording events

The two loops of a submission, each with what it does to the world.

* `Surroundings.evaluate` is what evaluating a location finds, with the engine's answers in the
  order in which it is asked. `Membership.evaluate_eq_map` describes it for an engine whose answers
  depend on the question alone.
* `Recorder.Recorded` relates the worlds before and after some findings were recorded to the events
  that were stored for them, and `Recorder.record_cases` says that recording always goes that way
  until an event is refused. What a recording does to each part of the world follows by induction
  over `Recorder.Recorded`.
-/

namespace Geofencing

/-! ## Evaluating a location -/

namespace Surroundings

/-- Ask the engine; the state is how many questions came before. -/
def ask (env : Surroundings) (point : Coordinate) (geometry : Json) :
    StateM Nat (Except Geo.EngineFailure Geo.Membership) :=
  fun n => (env.engine n point geometry, n + 1)

/-- What evaluating a location finds if `n` questions came before, and how many came in the end. -/
def evaluate (env : Surroundings) (n : Nat) (tenant : Uuid) (location : Coordinate)
    (geofences : List Geofence) : List Finding × Nat :=
  Membership.evaluateWith env.ask tenant location geofences n

/-- Asking goes on with the engine's answer, one question later. -/
theorem ask_bind {α : Type} (env : Surroundings) (point : Coordinate) (geometry : Json)
    (f : Except Geo.EngineFailure Geo.Membership → StateM Nat α) (n : Nat) :
    (env.ask point geometry >>= f) n = f (env.engine n point geometry) (n + 1) :=
  rfl

/-- What the attendance hook answers to entries, one after another. -/
def verdicts (env : Surroundings) (earlier : List SchoolEntry) : List SchoolEntry → List Bool
  | [] => []
  | entry :: rest => env.accepts earlier entry :: env.verdicts (earlier ++ [entry]) rest

end Surroundings

namespace Membership

variable {env : Surroundings} {w : World}

/-- Measuring one shape asks the engine at most once. -/
private theorem run_ofShape (location : Coordinate) (shape : Shape) :
    (ofShape Prog.locate location shape).run env w =
      (some (ofShape env.ask location shape w.questions).1,
        { w with questions := (ofShape env.ask location shape w.questions).2 }) := by
  cases shape with
  | circle center radius => rfl
  | polygon geometry =>
    have hasked : (Prog.locate location geometry).run env w =
        (some (env.engine w.questions location geometry),
          { w with questions := w.questions + 1 }) := rfl
    rw [ofShape, ofShape, Prog.run_bind, env.ask_bind, hasked]
    -- An answer is taken as it is, a failure counts as being outside.
    cases env.engine w.questions location geometry <;> rfl

/-- Evaluating a location asks the engine and does nothing else. -/
theorem run_evaluateWith (tenant : Uuid) (location : Coordinate) (geofences : List Geofence) :
    (evaluateWith Prog.locate tenant location geofences).run env w =
      (some (env.evaluate w.questions tenant location geofences).1,
        { w with questions := (env.evaluate w.questions tenant location geofences).2 }) := by
  -- Each geofence may use up a question, so the world is free in the induction.
  induction geofences generalizing w with
  | nil => rfl
  | cons g rest ih =>
    rw [evaluateWith, Surroundings.evaluate, evaluateWith]
    by_cases hg : evaluable tenant g = true
    · rw [if_pos hg, if_pos hg, Prog.run_bind, run_ofShape]
      simp only [Prog.run_bind, ih]
      rfl
    · rw [if_neg hg, if_neg hg]
      exact ih

/-- A location is evaluated against each geofence that can be evaluated, once and in their order. -/
theorem map_subject_evaluate (env : Surroundings) (n : Nat) (tenant : Uuid) (location : Coordinate)
    (geofences : List Geofence) :
    ((env.evaluate n tenant location geofences).1.map fun f => (f.geofence, f.name, f.kind)) =
      (geofences.filter (evaluable tenant)).map fun g => (g.id, g.name, g.kind) := by
  induction geofences generalizing n with
  | nil => rfl
  | cons g rest ih =>
    rw [Surroundings.evaluate, evaluateWith]
    by_cases hg : evaluable tenant g = true
    · rw [if_pos hg, List.filter_cons_of_pos hg, List.map_cons, ← ih]
      rfl
    · rw [if_neg hg, List.filter_cons_of_neg hg]
      exact ih n

theorem map_geofence_evaluate (env : Surroundings) (n : Nat) (tenant : Uuid)
    (location : Coordinate) (geofences : List Geofence) :
    (env.evaluate n tenant location geofences).1.map Finding.geofence =
      (geofences.filter (evaluable tenant)).map Geofence.id := by
  have hsubjects := congrArg (List.map Prod.fst)
    (map_subject_evaluate env n tenant location geofences)
  rw [List.map_map, List.map_map] at hsubjects
  exact hsubjects

/-- Geofences that cannot be evaluated are passed over without a question. -/
theorem evaluate_filter (env : Surroundings) (n : Nat) (tenant : Uuid) (location : Coordinate)
    (geofences : List Geofence) :
    env.evaluate n tenant location (geofences.filter (evaluable tenant)) =
      env.evaluate n tenant location geofences := by
  induction geofences generalizing n with
  | nil => rfl
  | cons g rest ih =>
    by_cases hg : evaluable tenant g = true
    · rw [List.filter_cons_of_pos hg, Surroundings.evaluate, Surroundings.evaluate, evaluateWith,
        evaluateWith, if_pos hg, if_pos hg]
      change (finding g _ :: (env.evaluate _ tenant location _).1, (env.evaluate _ _ _ _).2) = _
      rw [ih]
      rfl
    · rw [List.filter_cons_of_neg hg, ih, Surroundings.evaluate, Surroundings.evaluate,
        evaluateWith, if_neg hg]

/-- Membership of a location in a shape, by an engine whose answers depend on the question alone. -/
def measure (engine : Geo.Engine) (location : Coordinate) (shape : Shape) : Geo.Membership :=
  Id.run (ofShape (fun c g => pure (engine c g)) location shape)

/-- An engine whose answers depend on the question alone finds each geofence by itself. -/
theorem evaluate_eq_map (engine : Geo.Engine) (tenant : Uuid) (location : Coordinate)
    (geofences : List Geofence) :
    evaluate engine tenant location geofences =
      (geofences.filter (evaluable tenant)).map fun g =>
        finding g (measure engine location g.shape) := by
  induction geofences with
  | nil => rfl
  | cons g rest ih =>
    rw [evaluate, evaluateWith]
    by_cases hg : evaluable tenant g = true
    · rw [if_pos hg, List.filter_cons_of_pos hg, List.map_cons, ← ih]
      rfl
    · rw [if_neg hg, List.filter_cons_of_neg hg]
      exact ih

/-- If all answers come from one engine, the order of the questions does not matter. -/
theorem evaluate_of_engine {engine : Geo.Engine} (h : ∀ n, env.engine n = engine) (n : Nat)
    (tenant : Uuid) (location : Coordinate) (geofences : List Geofence) :
    (env.evaluate n tenant location geofences).1 =
      evaluate engine tenant location geofences := by
  have hshape : ∀ n shape,
      (ofShape env.ask location shape n).1 = measure engine location shape := by
    intro n shape
    cases shape with
    | circle center radius => rfl
    | polygon geometry =>
      rw [ofShape, env.ask_bind, h n, measure, ofShape, pure_bind]
      cases engine location geometry <;> rfl
  rw [evaluate_eq_map]
  -- How many questions came before differs from one geofence to the next, and does not matter.
  induction geofences generalizing n with
  | nil => rfl
  | cons g rest ih =>
    rw [Surroundings.evaluate, evaluateWith]
    by_cases hg : evaluable tenant g = true
    · rw [if_pos hg, List.filter_cons_of_pos hg, List.map_cons, ← hshape n g.shape,
        ← ih (ofShape env.ask location g.shape n).2]
      rfl
    · rw [if_neg hg, List.filter_cons_of_neg hg]
      exact ih n

end Membership

/-! ## Recording events -/

/-- Whether attendance is taken for a crossing: the school grounds were entered. -/
def Recorder.attends (f : Finding) (kind : EventKind) : Bool :=
  decide (kind = .enter) && f.kind.takesAttendance

namespace World

/-- The world after an event was stored and counted. -/
def stored (w : World) (e : Event) : World :=
  { w with
    store := w.store.addEvent e
    calls := .insertEvent :: w.calls
    counters := bump (.eventsRecorded e.kind) 1 w.counters
    readings := w.readings + 1
    drawn := w.drawn + 1 }

/-- The world after an event was refused. -/
def turnedAway (w : World) : World :=
  { w with calls := .insertEvent :: w.calls, readings := w.readings + 1, drawn := w.drawn + 1 }

/-- The world after attendance was taken for an event. -/
def attended (env : Surroundings) (w : World) (e : Event) : World :=
  let told := { w with entries := w.entries ++ [e.schoolEntry] }
  if env.accepts w.entries e.schoolEntry then
    ({ told with readings := w.readings + 1 }.callStore env
      (.markProcessed e.tenant e.id (env.clock w.readings))).2
  else told

/-- When attendance was taken for an event, if the hook accepted it and the mark was not refused. -/
def mark? (env : Surroundings) (w : World) (e : Event) : Option Instant :=
  if env.accepts w.entries e.schoolEntry && !env.refuses w.calls .markProcessed then
    some (env.clock w.readings)
  else none

/-- The world after a crossing was recorded. -/
def noted (env : Surroundings) (w : World) (e : Event) (attends : Bool) : World :=
  if attends then (w.stored e).attended env e else w.stored e

/-- The event of a crossing with the mark that it got right after it was stored. -/
def filed (env : Surroundings) (w : World) (e : Event) (attends : Bool) : Event :=
  { e with processedAt := if attends then (w.stored e).mark? env e else none }

variable {env : Surroundings} {w : World} {e : Event} {attends : Bool}

@[simp]
theorem kind_filed : (w.filed env e attends).kind = e.kind := rfl

/-- Taking attendance marks the first event with the identifier, if there is a mark at all. -/
theorem store_attended : (w.attended env e).store =
    { w.store with
      events := ((w.mark? env e).bind fun t =>
        Store.markFirst e.tenant e.id t w.store.events).getD w.store.events } := by
  rw [attended, mark?]
  cases haccepts : env.accepts w.entries e.schoolEntry with
  | false => rfl
  | true =>
    -- The hook accepted, so the event is to be marked. The call may be refused, and it fails if
    -- there is no such event; nobody is told about either.
    simp only [if_true, Bool.true_and]
    let told : World :=
      { w with entries := w.entries ++ [e.schoolEntry], readings := w.readings + 1 }
    cases hrefused : env.refuses w.calls .markProcessed with
    | true =>
      rw [callStore_of_refused (w := told) hrefused]
      rfl
    | false =>
      simp only [Bool.not_false, if_true, Option.bind_some]
      cases hmark : Store.markFirst e.tenant e.id (env.clock w.readings) w.store.events with
      | none =>
        have hperform : w.store.perform (.markProcessed e.tenant e.id (env.clock w.readings)) =
            .error (.notFound ("geofence event " ++ e.id.toText)) := by
          simp only [Store.perform, hmark]
        rw [callStore_of_error (w := told) hrefused hperform]
        rfl
      | some marked =>
        have hperform : w.store.perform (.markProcessed e.tenant e.id (env.clock w.readings)) =
            .ok ((), { w.store with events := marked }) := by
          simp only [Store.perform, hmark]
        rw [callStore_of_ok (w := told) hrefused hperform]
        rfl

@[simp]
theorem entries_attended : (w.attended env e).entries = w.entries ++ [e.schoolEntry] := by
  rw [attended]
  split <;> simp

@[simp]
theorem drawn_attended : (w.attended env e).drawn = w.drawn := by
  rw [attended]
  split <;> simp

/-- Taking attendance calls the store if the hook accepts, and only then. -/
theorem calls_attended : (w.attended env e).calls =
    if env.accepts w.entries e.schoolEntry then .markProcessed :: w.calls else w.calls := by
  rw [attended]
  split <;> simp [StoreCall.method]

@[simp]
theorem entries_noted :
    (w.noted env e attends).entries = w.entries ++ if attends then [e.schoolEntry] else [] := by
  cases attends <;> simp [noted, stored]

@[simp]
theorem drawn_noted : (w.noted env e attends).drawn = w.drawn + 1 := by
  cases attends <;> simp [noted, stored]

@[simp]
theorem geofences_noted : (w.noted env e attends).store.geofences = w.store.geofences := by
  cases attends <;> simp [noted, stored, store_attended, Store.addEvent]

@[simp]
theorem reports_noted : (w.noted env e attends).store.reports = w.store.reports := by
  cases attends <;> simp [noted, stored, store_attended, Store.addEvent]

theorem readings_noted : w.readings ≤ (w.noted env e attends).readings := by
  have hstored : w.readings ≤ (w.stored e).readings := Nat.le_succ _
  cases attends with
  | false => exact hstored
  | true =>
    refine Nat.le_trans hstored ?_
    rw [noted, if_pos rfl, attended]
    split
    · simp
    · exact Nat.le_refl _

theorem calls_noted : w.calls <:+ (w.noted env e attends).calls := by
  have hstored : w.calls <:+ (w.stored e).calls := List.suffix_cons _ _
  cases attends with
  | false => exact hstored
  | true =>
    refine hstored.trans ?_
    rw [noted, if_pos rfl, calls_attended]
    split
    · exact List.suffix_cons _ _
    · exact List.suffix_rfl

/-- But for marks, recording a crossing stores its event after all others. -/
theorem map_unmarked_noted : (w.noted env e attends).store.events.map Event.unmarked =
    w.store.events.map Event.unmarked ++ [e.unmarked] := by
  have hstored : (w.stored e).store.events.map Event.unmarked =
      w.store.events.map Event.unmarked ++ [e.unmarked] := by
    simp [stored, Store.addEvent]
  cases attends with
  | false => exact hstored
  | true =>
    -- The mark may reach any event with the identifier, but it is all that changes.
    rw [← hstored, noted, if_pos rfl, store_attended]
    simp only
    cases hmark : ((w.stored e).mark? env e).bind fun t =>
        Store.markFirst e.tenant e.id t (w.stored e).store.events with
    | none => rfl
    | some marked =>
      obtain ⟨t, -, hmarked⟩ := Option.bind_eq_some_iff.1 hmark
      exact Store.map_unmarked_of_markFirst hmarked

/-- The mark of an event whose identifier is new reaches that event. -/
theorem events_noted (hnone : e.processedAt = none) (hnew : ∀ e' ∈ w.store.events, e'.id ≠ e.id) :
    (w.noted env e attends).store.events = w.store.events ++ [w.filed env e attends] := by
  -- An event that gets no mark is stored as it was made.
  have hplain : { e with processedAt := none } = e := by rw [← hnone]
  cases attends with
  | false => simp [noted, filed, stored, Store.addEvent, hplain]
  | true =>
    rw [noted, if_pos rfl, store_attended, filed, if_pos rfl]
    cases (w.stored e).mark? env e with
    | none => simp [stored, Store.addEvent, hplain]
    | some t =>
      have hmark : Store.markFirst e.tenant e.id t (w.store.events ++ [e]) = some _ :=
        Store.markFirst_append hnew
      simp [stored, Store.addEvent, hmark]

end World

namespace Recorder

variable {env : Surroundings} {w : World}

private theorem run_attend (e : Event) :
    (attend e).run env w = (some (), w.attended env e) := by
  rw [attend, Prog.run_bind]
  change (if env.accepts w.entries e.schoolEntry = true then _ else _ : Prog Unit).run env _ = _
  rw [World.attended]
  split <;> rfl

/-- Recording a crossing stores its event and takes attendance, unless the event is refused. -/
theorem run_recordOne (tenant actor : Uuid) (location : Coordinate) (occurredAt : Instant)
    (f : Finding) (kind : EventKind) :
    let e := event (env.ids w.drawn) tenant actor f kind location occurredAt (env.clock w.readings)
    (recordOne tenant actor location occurredAt f kind).run.run env w =
      if env.refuses w.calls .insertEvent then
        (some (.error (World.refusal .insertEvent)), w.turnedAway)
      else (some (.ok e.id), w.noted env e (attends f kind)) := by
  intro e
  change (recordOne tenant actor location occurredAt f kind).run.Ensures env w
    fun r w' => (r, w') = _
  simp only [recordOne, Prog.ensures_run_bind, Prog.ensures_run_lift, Prog.ensures_fresh,
    Prog.ensures_now, Option.map_some]
  rw [Prog.ensures_run_store]
  cases hrefused : env.refuses w.calls .insertEvent with
  | true =>
    rw [World.callStore_of_refused hrefused]
    rfl
  | false =>
    rw [World.callStore_of_ok hrefused rfl]
    simp only [Prog.ensures_count, Option.map_some]
    -- The event is stored and counted. What is left is to take attendance, if it is due.
    by_cases hattends : kind = .enter ∧ f.kind.takesAttendance = true
    · have hnoted : attends f kind = true := by simpa [attends] using hattends
      rw [if_pos hattends, Prog.ensures_run_bind, Prog.ensures_run_lift, Prog.Ensures, run_attend,
        hnoted]
      rfl
    · have hnoted : attends f kind = false := by simpa [attends] using hattends
      rw [if_neg hattends, hnoted]
      rfl

/-- Some findings are recorded one after another: `log` holds each crossing among them with the
event that was stored for it, as it was right after it got its mark. -/
inductive Recorded (env : Surroundings) (tenant actor : Uuid) (location : Coordinate)
    (occurredAt : Instant) : World → List Finding → List (Finding × Event) → World → Prop
  /-- There are no findings left. -/
  | nil {w : World} : Recorded env tenant actor location occurredAt w [] [] w
  /-- A finding that is no crossing is passed over. -/
  | skip {w w' : World} {f : Finding} {fs : List Finding} {log : List (Finding × Event)}
      (none : f.transition.event? = none)
      (rest : Recorded env tenant actor location occurredAt w fs log w') :
      Recorded env tenant actor location occurredAt w (f :: fs) log w'
  /-- A crossing is recorded, and the hook may be told about it. -/
  | cons {w w' : World} {f : Finding} {kind : EventKind} {e : Event} {fs : List Finding}
      {log : List (Finding × Event)}
      (crossing : f.transition.event? = some kind)
      (granted : env.refuses w.calls .insertEvent = false)
      (made : e = event (env.ids w.drawn) tenant actor f kind location occurredAt
        (env.clock w.readings))
      (rest : Recorded env tenant actor location occurredAt (w.noted env e (attends f kind)) fs
        log w') :
      Recorded env tenant actor location occurredAt w (f :: fs)
        ((f, w.filed env e (attends f kind)) :: log) w'

/-- Recording goes through all findings, unless an event is refused: then the findings before it
have been recorded, and the refusal is the answer. -/
theorem record_cases (env : Surroundings) (w : World) (tenant actor : Uuid) (location : Coordinate)
    (occurredAt : Instant) (findings : List Finding) :
    (∃ log w', Recorded env tenant actor location occurredAt w findings log w' ∧
      (record tenant actor location occurredAt findings).run.run env w =
        (some (.ok (log.map fun p => p.2.id)), w')) ∨
    (∃ before f kind after log w', findings = before ++ f :: after ∧
      f.transition.event? = some kind ∧ env.refuses w'.calls .insertEvent = true ∧
      Recorded env tenant actor location occurredAt w before log w' ∧
      (record tenant actor location occurredAt findings).run.run env w =
        (some (.error (World.refusal .insertEvent)), w'.turnedAway)) := by
  -- By induction on the findings. A finding is passed over, or refused, or recorded before the
  -- rest; whatever becomes of the rest then becomes of all.
  induction findings generalizing w with
  | nil => exact .inl ⟨[], w, .nil, rfl⟩
  | cons f rest ih =>
    cases hevent : f.transition.event? with
    | none =>
      have hrun : record tenant actor location occurredAt (f :: rest) =
          record tenant actor location occurredAt rest := by
        rw [record, hevent]
      rw [hrun]
      obtain ⟨log, w', hrec, hw'⟩ |
          ⟨before, f', kind, after, log, w', rfl, hkind, href, hrec, hw'⟩ := ih w
      · exact .inl ⟨log, w', .skip hevent hrec, hw'⟩
      · exact .inr ⟨f :: before, f', kind, after, log, w', rfl, hkind, href, .skip hevent hrec, hw'⟩
    | some kind =>
      have hrun : record tenant actor location occurredAt (f :: rest) = do
          let id ← recordOne tenant actor location occurredAt f kind
          let ids ← record tenant actor location occurredAt rest
          return id :: ids := by
        rw [record, hevent]
      rw [hrun, Prog.run_run_bind, run_recordOne]
      cases hrefused : env.refuses w.calls .insertEvent with
      | true => exact .inr ⟨[], f, kind, rest, [], w, rfl, hevent, hrefused, .nil, rfl⟩
      | false =>
        simp only [Bool.false_eq_true, if_false, Prog.run_run_bind]
        obtain ⟨log, w', hrec, hw'⟩ |
            ⟨before, f', kind', after, log, w', rfl, hkind, href, hrec, hw'⟩ := ih (w.noted env _ _)
        · rw [hw']
          exact .inl ⟨_, w', .cons hevent hrefused rfl hrec, rfl⟩
        · rw [hw']
          exact .inr ⟨f :: before, f', kind', after, _, w', rfl, hkind, href,
            .cons hevent hrefused rfl hrec, rfl⟩

/-- An event that tells of a crossing: whose it is, where and when it was observed, and which
boundary was crossed in which way. -/
structure TellsOf (tenant actor : Uuid) (location : Coordinate) (occurredAt : Instant)
    (f : Finding) (e : Event) : Prop where
  /-- The way follows from the transition. -/
  kind : f.transition.event? = some e.kind
  /-- The tenant. -/
  tenant : e.tenant = tenant
  /-- The actor. -/
  actor : e.actor = actor
  /-- The geofence. -/
  geofence : e.geofence = f.geofence
  /-- The name of the geofence. -/
  name : e.geofenceName = some f.name
  /-- Where the actor was observed. -/
  location : e.coordinate = location
  /-- When the actor was observed. -/
  occurredAt : e.occurredAt = occurredAt

namespace Recorded

variable {tenant actor : Uuid} {location : Coordinate} {occurredAt : Instant} {w' : World}
  {fs : List Finding} {log : List (Finding × Event)}

/-- Recording leaves geofences alone. -/
theorem geofences (h : Recorded env tenant actor location occurredAt w fs log w') :
    w'.store.geofences = w.store.geofences := by
  induction h with
  | nil => rfl
  | skip _ _ ih => exact ih
  | cons _ _ _ _ ih => rw [ih, World.geofences_noted]

/-- Recording leaves reports alone. -/
theorem reports (h : Recorded env tenant actor location occurredAt w fs log w') :
    w'.store.reports = w.store.reports := by
  induction h with
  | nil => rfl
  | skip _ _ ih => exact ih
  | cons _ _ _ _ ih => rw [ih, World.reports_noted]

/-- Recording adds to the calls. -/
theorem calls (h : Recorded env tenant actor location occurredAt w fs log w') :
    w.calls <:+ w'.calls := by
  induction h with
  | nil => exact List.suffix_rfl
  | skip _ _ ih => exact ih
  | cons _ _ _ _ ih => exact World.calls_noted.trans ih

theorem readings_le (h : Recorded env tenant actor location occurredAt w fs log w') :
    w.readings ≤ w'.readings := by
  induction h with
  | nil => exact Nat.le_refl _
  | skip _ _ ih => exact ih
  | cons _ _ _ _ ih => exact Nat.le_trans World.readings_noted ih

/-- Recording draws one identifier for each event. -/
theorem drawn (h : Recorded env tenant actor location occurredAt w fs log w') :
    w'.drawn = w.drawn + log.length := by
  induction h with
  | nil => rfl
  | skip _ _ ih => exact ih
  | cons _ _ _ _ ih =>
    rw [ih, World.drawn_noted, List.length_cons]
    omega

/-- Each event has the next identifier drawn. -/
theorem map_id (h : Recorded env tenant actor location occurredAt w fs log w') :
    (log.map fun p => p.2.id) = env.drawn w w' := by
  -- Counted from where the recording starts, the events take the identifiers in order.
  rw [Surroundings.drawn, h.drawn, Nat.add_sub_cancel_left]
  induction h with
  | nil => rfl
  | skip _ _ ih => exact ih
  | cons _ _ made _ ih =>
    rw [List.map_cons, ih, World.drawn_noted, List.length_cons, List.range'_succ, List.map_cons,
      made]
    rfl

/-- Exactly the crossings are recorded, in their order. -/
theorem map_fst (h : Recorded env tenant actor location occurredAt w fs log w') :
    log.map Prod.fst = fs.filter fun f => f.transition.event?.isSome := by
  induction h with
  | nil => rfl
  | skip none _ ih => rw [List.filter_cons_of_neg (by simp [none]), ih]
  | cons crossing _ _ _ ih =>
    rw [List.filter_cons_of_pos (by simp [crossing]), List.map_cons, ih]

/-- Each event tells of its crossing. -/
theorem tellsOf (h : Recorded env tenant actor location occurredAt w fs log w') :
    ∀ p ∈ log, TellsOf tenant actor location occurredAt p.1 p.2 := by
  induction h with
  | nil => exact fun p hp => absurd hp List.not_mem_nil
  | skip _ _ ih => exact ih
  | cons crossing _ made _ ih =>
    intro p hp
    rcases List.mem_cons.1 hp with rfl | hp
    · subst made
      exact ⟨crossing, rfl, rfl, rfl, rfl, rfl, rfl⟩
    · exact ih p hp

/-- The hook is told about the crossings for which attendance is taken, and about nothing else. -/
theorem entries (h : Recorded env tenant actor location occurredAt w fs log w') :
    w'.entries = w.entries ++
      ((log.filter fun p => attends p.1 p.2.kind).map fun p => p.2.schoolEntry) := by
  induction h with
  | nil => simp
  | skip _ _ ih => exact ih
  | @cons w w' f kind e fs log _ _ made _ ih =>
    have hkind : e.kind = kind := by
      subst made
      rfl
    rw [ih, World.entries_noted, List.append_assoc, List.filter_cons]
    simp only [World.kind_filed, hkind]
    cases attends f kind <;> rfl

/-- But for marks, the events are stored one after another. -/
theorem map_unmarked (h : Recorded env tenant actor location occurredAt w fs log w') :
    w'.store.events.map Event.unmarked =
      w.store.events.map Event.unmarked ++ log.map fun p => p.2.unmarked := by
  induction h with
  | nil => simp
  | skip _ _ ih => exact ih
  | cons _ _ _ _ ih =>
    rw [ih, World.map_unmarked_noted, List.append_assoc]
    rfl

/-- With new identifiers the events are stored one after another exactly as they are in the log. -/
theorem events (h : Recorded env tenant actor location occurredAt w fs log w')
    (hnodup : (log.map fun p => p.2.id).Nodup)
    (hnew : ∀ e ∈ w.store.events, e.id ∉ log.map fun p => p.2.id) :
    w'.store.events = w.store.events ++ log.map Prod.snd := by
  induction h with
  | nil => simp
  | skip _ _ ih => exact ih hnodup hnew
  | @cons w w' f kind e fs log _ _ made _ ih =>
    -- The event is new among those stored so far, so a mark reaches it and no other. Afterwards it
    -- is one of those stored so far, and the later events are new among them too.
    rw [List.map_cons, List.nodup_cons] at hnodup
    have hnone : e.processedAt = none := by
      subst made
      rfl
    have hhead : ∀ e' ∈ w.store.events, e'.id ≠ e.id :=
      fun e' he' hid => hnew e' he' (hid ▸ List.mem_cons_self)
    have hstored : (w.noted env e (attends f kind)).store.events = _ :=
      World.events_noted hnone hhead
    rw [ih hnodup.2, hstored, List.append_assoc]
    · rfl
    · intro e' he'
      rw [hstored, List.mem_append, List.mem_singleton] at he'
      rcases he' with hold | rfl
      · exact fun hmem => hnew e' hold (List.mem_cons_of_mem _ hmem)
      · exact hnodup.1

/-- Only events for which attendance is taken are ever marked. -/
theorem unattended (h : Recorded env tenant actor location occurredAt w fs log w') :
    ∀ p ∈ log, attends p.1 p.2.kind = false → p.2.processedAt = none := by
  induction h with
  | nil => exact fun p hp => absurd hp List.not_mem_nil
  | skip _ _ ih => exact ih
  | @cons w w' f kind e fs log _ _ made _ ih =>
    intro p hp hattends
    rcases List.mem_cons.1 hp with rfl | hp
    · have hkind : e.kind = kind := by
        subst made
        rfl
      rw [World.kind_filed, hkind] at hattends
      rw [World.filed, hattends]
      rfl
    · exact ih p hp hattends

/-- If no mark is refused, exactly the events that the hook accepts are marked. -/
theorem marks (h : Recorded env tenant actor location occurredAt w fs log w')
    (hgrants : env.Grants (· = .markProcessed) w w') :
    ((log.filter fun p => attends p.1 p.2.kind).map fun p => p.2.processedAt.isSome) =
      env.verdicts w.entries
        ((log.filter fun p => attends p.1 p.2.kind).map fun p => p.2.schoolEntry) := by
  induction h with
  | nil => rfl
  | skip _ _ ih => exact ih hgrants
  | @cons w w' f kind e fs log _ _ made rest ih =>
    have hkind : e.kind = kind := by
      subst made
      rfl
    have hrest := ih (hgrants.mono World.calls_noted List.suffix_rfl)
    -- Only an event for which attendance is taken adds to the entries that the hook remembers.
    cases hattends : attends f kind with
    | false =>
      rw [hattends, World.entries_noted, if_neg Bool.false_ne_true, List.append_nil] at hrest
      rw [List.filter_cons_of_neg (by simp [hkind, hattends])]
      exact hrest
    | true =>
      rw [hattends, World.entries_noted, if_pos rfl] at hrest
      have hmark : (w.filed env e true).processedAt.isSome =
          env.accepts w.entries e.schoolEntry := by
        cases haccepts : env.accepts w.entries e.schoolEntry with
        | false => simp [World.filed, World.mark?, World.stored, haccepts]
        | true =>
          -- The hook accepted, so the mark was the next call, and it was not refused.
          have hcalls : .markProcessed :: .insertEvent :: w.calls <:+ w'.calls := by
            have hnoted := rest.calls
            rw [hattends, World.noted, if_pos rfl, World.calls_attended] at hnoted
            simpa [World.stored, haccepts] using hnoted
          have hgranted := hgrants _ _ rfl (List.suffix_cons _ _) hcalls
          simp [World.filed, World.mark?, World.stored, haccepts, hgranted]
      rw [List.filter_cons_of_pos (by simp [hkind, hattends])]
      rw [List.map_cons, List.map_cons, hrest, Surroundings.verdicts, hmark]
      rfl

end Recorded

end Recorder

end Geofencing
