import Geofencing.Proofs.Scope

/-!
# Worlds in step

The attendance hook may accept an entry or not, and marking the event of an accepted entry may fail.
`World.InStep` relates the worlds of two runs that differ in nothing else: `Store.eraseMarks` takes
away what may be different in the stores. Most actions keep worlds in step (`World.InStep.perform`),
and so does the mark of an entry (`World.inStep_markProcessed`).

Marks are put on events by their identifiers. `Stage.Holds` says that these are new when they are
drawn, so that a mark reaches the entry that it is meant for.
-/

namespace Geofencing

/-! ## What the hook decides -/

/-- The event without its mark, if it is an entry. -/
def Event.eraseMark (e : Event) : Event :=
  if e.kind = .enter then e.unmarked else e

/-- The store without the marks of entries. -/
def Store.eraseMarks (s : Store) : Store :=
  { s with events := s.events.map Event.eraseMark }

/-- Surroundings that differ in the hook, in the refusals of marks and in the clock only. -/
structure Surroundings.SameButHook (env env' : Surroundings) : Prop where
  /-- The engine answers the same. -/
  engine : env.engine = env'.engine
  /-- The same identifiers are drawn. -/
  ids : env.ids = env'.ids
  /-- Calls other than marks are refused alike, whatever marks came before. -/
  refuses : ∀ m calls calls', m ≠ .markProcessed →
    calls.filter (· ≠ .markProcessed) = calls'.filter (· ≠ .markProcessed) →
    env.refuses calls m = env'.refuses calls' m

/-- Worlds that differ only in what the hook decides: in the marks of entries, in the calls that set
them, and in how often the clock was read. -/
structure World.InStep (w w' : World) : Prop where
  /-- The stores are the same but for the marks of entries. -/
  store : w.store.eraseMarks = w'.store.eraseMarks
  /-- The hook was told the same. -/
  entries : w.entries = w'.entries
  /-- The same was counted. -/
  counters : w.counters = w'.counters
  /-- The same calls were made, those for marks aside. -/
  calls : w.calls.filter (· ≠ .markProcessed) = w'.calls.filter (· ≠ .markProcessed)
  /-- The engine was asked the same. -/
  questions : w.questions = w'.questions
  /-- As many identifiers were drawn. -/
  drawn : w.drawn = w'.drawn

namespace Event

@[simp]
theorem id_eraseMark (e : Event) : e.eraseMark.id = e.id := by
  unfold eraseMark
  split <;> rfl

@[simp]
theorem kind_eraseMark (e : Event) : e.eraseMark.kind = e.kind := by
  unfold eraseMark
  split <;> rfl

@[simp]
theorem geofence_eraseMark (e : Event) : e.eraseMark.geofence = e.geofence := by
  unfold eraseMark
  split <;> rfl

@[simp]
theorem eraseMark_eraseMark (e : Event) : e.eraseMark.eraseMark = e.eraseMark := by
  by_cases h : e.kind = .enter <;> simp [eraseMark, h, unmarked]

end Event

/-- Whether a call neither sets nor shows marks. -/
def StoreCall.overlooksMarks : StoreCall → Bool
  | .markProcessed _ _ _ | .listEvents _ _ | .countEvents _ _ => false
  | _ => true

namespace Store

variable {s : Store} {call : StoreCall}

/-- Once erased, all marks are gone. -/
theorem eraseMarks_eraseMarks (s : Store) : s.eraseMarks.eraseMarks = s.eraseMarks := by
  simp [eraseMarks]

/-- Geofences do not depend on marks. -/
@[simp]
theorem geofence?_eraseMarks (s : Store) (id : Uuid) :
    s.eraseMarks.geofence? id = s.geofence? id :=
  rfl

/-- Nor does a tenant find others for them. -/
@[simp]
theorem find_eraseMarks (s : Store) (tenant id : Uuid) :
    s.eraseMarks.find tenant id = s.find tenant id :=
  rfl

/-- A call that overlooks marks is answered the same without them. -/
theorem reply_eraseMarks (h : call.overlooksMarks = true) :
    s.eraseMarks.reply call = s.reply call := by
  cases call with
  | markProcessed | listEvents | countEvents => cases h
  | create g =>
    rw [reply, reply, perform, perform, geofence?_eraseMarks]
    split <;> rfl
  | update g =>
    rw [reply, reply, perform, perform, find_eraseMarks]
    split <;> rfl
  | delete tenant id =>
    rw [reply, reply, perform, perform, find_eraseMarks]
    split <;> rfl
  | findActive | find | list | insertReport | latest | deleteBefore | insertEvent => rfl

/-- A call that overlooks marks does the same without them. -/
theorem after_eraseMarks (h : call.overlooksMarks = true) :
    (s.eraseMarks.after call).eraseMarks = (s.after call).eraseMarks := by
  cases call with
  | markProcessed | listEvents | countEvents => cases h
  | create g =>
    rw [after_create, after_create, geofence?_eraseMarks]
    split <;> simp [eraseMarks, insert]
  | update g =>
    rw [after_update, after_update, find_eraseMarks]
    split <;> simp [eraseMarks, replace]
  | delete tenant id =>
    rw [after_delete, after_delete, find_eraseMarks]
    split
    · -- Which events are removed with the geofence does not depend on marks.
      simp [eraseMarks, remove, List.filter_map, Function.comp_def]
    · exact s.eraseMarks_eraseMarks
  | findActive | find | list | latest => exact s.eraseMarks_eraseMarks
  | insertReport | deleteBefore | insertEvent =>
    simp [after, perform, eraseMarks, addReport, purge, addEvent]

/-- A mark on an entry does not show when the marks of entries are erased. -/
theorem map_eraseMark_of_markFirst {tenant id : Uuid} {t : Instant} {events marked : List Event}
    (hmark : markFirst tenant id t events = some marked)
    (h : ∀ e ∈ events, e.id = id → e.kind = .enter) :
    marked.map Event.eraseMark = events.map Event.eraseMark := by
  -- By induction on the events in front of the one that is marked.
  induction events generalizing marked with
  | nil => cases hmark
  | cons e rest ih =>
    rw [markFirst] at hmark
    split at hmark
    · rename_i hevent
      cases hmark
      have hkind : e.kind = .enter := by
        refine h e List.mem_cons_self ?_
        simp only [isEvent, Bool.and_eq_true, beq_iff_eq] at hevent
        exact hevent.1
      simp [Event.eraseMark, hkind, Event.unmarked]
    · obtain ⟨rest', hrest, rfl⟩ := Option.map_eq_some_iff.1 hmark
      have hsame := ih hrest fun e he => h e (List.mem_cons_of_mem _ he)
      rw [List.map_cons, List.map_cons, hsame]

/-- Marking an entry is erased with its mark. -/
theorem eraseMarks_after_markProcessed {tenant id : Uuid} {t : Instant}
    (h : ∀ e ∈ s.events, e.id = id → e.kind = .enter) :
    (s.after (.markProcessed tenant id t)).eraseMarks = s.eraseMarks := by
  rw [after_markProcessed, eraseMarks, eraseMarks]
  congr 1
  cases hmark : markFirst tenant id t s.events with
  | none => rfl
  | some marked => exact map_eraseMark_of_markFirst hmark h

end Store

/-! ## Worlds in step -/

/-- Whether an action stores no event, neither sets nor shows marks, and asks neither the hook nor
the clock. -/
def Action.plain : Action → Bool
  | .store (.insertEvent _) => false
  | .store call => call.overlooksMarks
  | .attend _ | .readClock => false
  | .locate _ _ | .freshId | .count _ _ | .readCounters => true

namespace World.InStep

variable {env env' : Surroundings} {w w' : World}

theorem refl (w : World) : w.InStep w :=
  ⟨rfl, rfl, rfl, rfl, rfl, rfl⟩

theorem symm (h : w.InStep w') : w'.InStep w :=
  ⟨h.store.symm, h.entries.symm, h.counters.symm, h.calls.symm, h.questions.symm, h.drawn.symm⟩

theorem trans {w'' : World} (h : w.InStep w') (h' : w'.InStep w'') : w.InStep w'' :=
  ⟨h.store.trans h'.store, h.entries.trans h'.entries, h.counters.trans h'.counters,
    h.calls.trans h'.calls, h.questions.trans h'.questions, h.drawn.trans h'.drawn⟩

/-- A call that overlooks marks keeps two worlds in step. -/
theorem callStore (h : w.InStep w') (hsame : env.SameButHook env') {call : StoreCall}
    (hcall : call.overlooksMarks = true) :
    (w.callStore env call).1 = (w'.callStore env' call).1 ∧
      (w.callStore env call).2.InStep (w'.callStore env' call).2 := by
  have hmethod : call.method ≠ .markProcessed := by
    cases call with
    | markProcessed => cases hcall
    | _ => exact nofun
  have hcalls : (call.method :: w.calls).filter (· ≠ .markProcessed) =
      (call.method :: w'.calls).filter (· ≠ .markProcessed) := by
    rw [List.filter_cons, List.filter_cons, h.calls]
  -- But for marks the same calls came before, so both calls are refused or neither is.
  rw [callStore_eq, callStore_eq, hsame.refuses call.method _ _ hmethod h.calls]
  split
  · exact ⟨rfl, { h with calls := hcalls }⟩
  · refine ⟨?_, { h with calls := hcalls, store := ?_ }⟩
    · rw [← Store.reply_eraseMarks hcall, h.store, Store.reply_eraseMarks hcall]
    · rw [← Store.after_eraseMarks hcall, h.store, Store.after_eraseMarks hcall]

/-- Plain actions keep two worlds in step. -/
theorem perform (h : w.InStep w') (hsame : env.SameButHook env') {a : Action}
    (ha : a.plain = true) :
    (w.perform env a).1 = (w'.perform env' a).1 ∧
      (w.perform env a).2.InStep (w'.perform env' a).2 := by
  cases a with
  | store call =>
    have hcall : call.overlooksMarks = true := by
      cases call with
      | insertEvent => rfl
      | _ => exact ha
    exact h.callStore hsame hcall
  | attend | readClock => cases ha
  | locate point geometry =>
    refine ⟨?_, { h with questions := congrArg (· + 1) h.questions }⟩
    rw [World.perform, World.perform, hsame.engine, h.questions]
  | freshId =>
    refine ⟨?_, { h with drawn := congrArg (· + 1) h.drawn }⟩
    rw [World.perform, World.perform, hsame.ids, h.drawn]
  | count series amount =>
    exact ⟨rfl, { h with counters := congrArg (World.bump series amount) h.counters }⟩
  | readCounters => exact ⟨h.counters, h⟩

/-- Two worlds in step have the same events but for marks. -/
theorem exists_of_mem (h : w.InStep w') {e : Event} (he : e ∈ w'.store.events) :
    ∃ e₀ ∈ w.store.events, e₀.id = e.id ∧ e₀.kind = e.kind := by
  have hmem : e.eraseMark ∈ w.store.eraseMarks.events := by
    rw [h.store]
    exact List.mem_map_of_mem he
  obtain ⟨e₀, he₀, hsame⟩ := List.mem_map.1 hmem
  refine ⟨e₀, he₀, ?_, ?_⟩
  · rw [← e₀.id_eraseMark, hsame, e.id_eraseMark]
  · rw [← e₀.kind_eraseMark, hsame, e.kind_eraseMark]

end World.InStep

namespace World

variable {env : Surroundings} {w : World}

/-- Marking an entry keeps a world in step with what it was. -/
theorem inStep_markProcessed {tenant id : Uuid} {t : Instant}
    (hentries : ∀ e ∈ w.store.events, e.id = id → e.kind = .enter) :
    (w.callStore env (.markProcessed tenant id t)).2.InStep w := by
  have hcalls : (StoreMethod.markProcessed :: w.calls).filter (· ≠ .markProcessed) =
      w.calls.filter (· ≠ .markProcessed) := List.filter_cons_of_neg (by decide)
  rw [callStore_eq]
  split
  · exact { InStep.refl w with calls := hcalls }
  · exact { InStep.refl w with
      calls := hcalls
      store := Store.eraseMarks_after_markProcessed hentries }

/-- Plain actions store no events. -/
theorem mem_events_perform {a : Action} (ha : a.plain = true) {e : Event}
    (he : e ∈ (w.perform env a).2.store.events) : e ∈ w.store.events := by
  cases a with
  | store call =>
    rw [perform, callStore_eq] at he
    split at he
    · exact he
    · cases call with
      | create g =>
        dsimp only at he
        rw [Store.after_create] at he
        split at he <;> exact he
      | update g =>
        dsimp only at he
        rw [Store.after_update] at he
        split at he <;> exact he
      -- A deletion only takes events away.
      | delete tenant id =>
        dsimp only at he
        rw [Store.after_delete] at he
        split at he
        · exact (List.mem_filter.1 he).1
        · exact he
      | insertEvent | markProcessed | listEvents | countEvents => cases ha
      | findActive | find | list | insertReport | latest | deleteBefore => exact he
  | attend | readClock => cases ha
  | locate | freshId | count | readCounters => exact he

end World

/-! ## Events with new identifiers -/

/-- How far a program got with an event: an identifier was drawn for it, or it was stored and is an
entry. -/
inductive Stage where
  /-- No identifier is waiting for an event. -/
  | idle
  /-- An identifier was drawn for an event. -/
  | drawn (id : Uuid)
  /-- An entry was stored under the identifier. -/
  | entered (id : Uuid)

namespace Stage

/-- The stage after an event was stored. -/
def after (e : Event) : Stage :=
  if e.kind = .enter then .entered e.id else .idle

/-- The identifiers drawn from a world up to a later one are new, and so is the one that was drawn
for an event. After an entry was stored, entries alone have its identifier. -/
structure Holds (env : Surroundings) (later : World) (st : Stage) (w : World) : Prop where
  /-- The identifiers that are still to be drawn are different. -/
  nodup : (env.drawn w later).Nodup
  /-- No event has one of them. -/
  new : ∀ e ∈ w.store.events, e.id ∉ env.drawn w later
  /-- What is known of the identifier at hand. -/
  event : match st with
    | .idle => True
    | .drawn id => id ∉ env.drawn w later ∧ ∀ e ∈ w.store.events, e.id ≠ id
    | .entered id => ∀ e ∈ w.store.events, e.id = id → e.kind = .enter

namespace Holds

variable {env : Surroundings} {later w w' : World} {st : Stage} {id : Uuid} {e : Event}

/-- An identifier that was drawn need not be used. -/
theorem idle (h : st.Holds env later w) : Stage.idle.Holds env later w :=
  ⟨h.nodup, h.new, trivial⟩

/-- Drawing identifiers and removing or marking events keeps a stage. -/
theorem mono (h : st.Holds env later w) (hdrawn : w.drawn ≤ w'.drawn)
    (hevents : ∀ e ∈ w'.store.events, ∃ e₀ ∈ w.store.events, e₀.id = e.id ∧ e₀.kind = e.kind) :
    st.Holds env later w' := by
  have hsub : (env.drawn w' later).Sublist (env.drawn w later) := Surroundings.drawn_sublist hdrawn
  refine ⟨h.nodup.sublist hsub, fun e he hid => ?_, ?_⟩
  · obtain ⟨e₀, he₀, hsame, -⟩ := hevents e he
    exact h.new e₀ he₀ (hsame ▸ hsub.subset hid)
  · have hevent := h.event
    cases st with
    | idle => trivial
    | drawn id =>
      refine ⟨fun hid => hevent.1 (hsub.subset hid), fun e he hid => ?_⟩
      obtain ⟨e₀, he₀, hsame, -⟩ := hevents e he
      exact hevent.2 e₀ he₀ (hsame.trans hid)
    | entered id =>
      intro e he hid
      obtain ⟨e₀, he₀, hsame, hkind⟩ := hevents e he
      exact hkind ▸ hevent e₀ he₀ (hsame.trans hid)

/-- An identifier that is drawn is new. -/
theorem draw (h : st.Holds env later w) (hlater : w.drawn + 1 ≤ later.drawn) :
    (Stage.drawn (env.ids w.drawn)).Holds env later { w with drawn := w.drawn + 1 } := by
  have hdrawn : env.drawn w later =
      env.ids w.drawn :: env.drawn { w with drawn := w.drawn + 1 } later :=
    Surroundings.drawn_eq_cons rfl hlater
  obtain ⟨hnodup, hnew, -⟩ := h
  rw [hdrawn] at hnodup hnew
  obtain ⟨hfirst, hrest⟩ := List.nodup_cons.1 hnodup
  refine ⟨hrest, fun e he hid => hnew e he (List.mem_cons_of_mem _ hid), hfirst, ?_⟩
  exact fun e he hid => hnew e he (hid ▸ List.mem_cons_self)

/-- An event is stored with the identifier that was drawn for it. -/
theorem insert (h : (Stage.drawn e.id).Holds env later w) {calls : List StoreMethod} :
    (Stage.after e).Holds env later { w with calls, store := w.store.addEvent e } := by
  obtain ⟨hnodup, hnew, hlater, hother⟩ := h
  have hadded : ∀ e' ∈ w.store.events ++ [e], e'.id ∉ env.drawn w later := by
    intro e' he'
    rcases List.mem_append.1 he' with hold | hadded
    · exact hnew e' hold
    · rw [List.mem_singleton.1 hadded]
      exact hlater
  by_cases hkind : e.kind = .enter
  · -- No event had the identifier before, so this entry is the only one that has it.
    rw [after, if_pos hkind]
    refine ⟨hnodup, hadded, fun e' he' hid => ?_⟩
    rcases List.mem_append.1 he' with hold | hadded
    · exact absurd hid (hother e' hold)
    · rw [List.mem_singleton.1 hadded]
      exact hkind
  · rw [after, if_neg hkind]
    exact ⟨hnodup, hadded, trivial⟩

/-- An event that was refused leaves its identifier unused. -/
theorem refuse (h : (Stage.drawn e.id).Holds env later w) {calls : List StoreMethod} :
    (Stage.after e).Holds env later { w with calls } := by
  obtain ⟨hnodup, hnew, -, hother⟩ := h
  by_cases hkind : e.kind = .enter
  · rw [after, if_pos hkind]
    exact ⟨hnodup, hnew, fun e' he' hid => absurd hid (hother e' he')⟩
  · rw [after, if_neg hkind]
    exact ⟨hnodup, hnew, trivial⟩

end Holds

end Stage

end Geofencing
