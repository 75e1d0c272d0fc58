import Geofencing.Proofs.Scope

/-!
# Views of the store

While a call runs, others may change the store between any two of its actions. What matters to it is
only what it sees: the geofences, the events with identifiers of its own, and perhaps the reports of
one actor. A `View` is such a part of the store.

* `Store.Alike v` relates two stores that look the same in a view.
* An action that is `SeenBy` a view is decided by it: it is answered alike in stores that look the
  same, and they still look the same afterwards (`World.Beside.perform`).
* An action that is `HiddenFrom` a view leaves it as it was (`World.alike_perform`).

`Prog.Follows` says which actions a program may take in which of its phases. With it both facts
carry over to whole runs: `Prog.Follows.run_beside` and `Prog.Follows.alike_run`.
-/

namespace Geofencing

/-- Whether an event is about an actor of a tenant. -/
def Event.isAbout (e : Event) (tenant actor : Uuid) : Bool :=
  e.tenant == tenant && e.actor == actor

/-- A part of the store: the geofences, some events and what is known of one actor. -/
structure View where
  /-- The tenant of the actor. -/
  tenant : Uuid
  /-- Whose reports and history may be seen. -/
  actor : Uuid
  /-- The identifiers of the events that are seen with their marks. -/
  mine : Uuid → Bool
  /-- Whether the reports of the actor are seen. -/
  reports : Bool
  /-- Whether the events of the actor are seen, but for their marks. -/
  history : Bool

/-! ## Stores that look the same -/

namespace Store

/-- Two stores look the same in a view. -/
structure Alike (v : View) (s s' : Store) : Prop where
  /-- The geofences are always seen. -/
  geofences : s.geofences = s'.geofences
  /-- Some events are seen with their marks. -/
  events : (s.events.filter fun e => v.mine e.id) = s'.events.filter fun e => v.mine e.id
  /-- The reports of the actor are seen if the view includes them. -/
  reports : v.reports = true →
    (s.reports.filter fun r => r.isAbout v.tenant v.actor) =
      s'.reports.filter fun r => r.isAbout v.tenant v.actor
  /-- The history of the actor is seen, but for its marks, if the view includes it. -/
  history : v.history = true →
    ((s.events.map Event.unmarked).filter fun e => e.isAbout v.tenant v.actor) =
      (s'.events.map Event.unmarked).filter fun e => e.isAbout v.tenant v.actor

variable {v : View} {s s' s'' : Store} {call : StoreCall}

theorem Alike.refl (v : View) (s : Store) : s.Alike v s :=
  ⟨rfl, rfl, fun _ => rfl, fun _ => rfl⟩

theorem Alike.symm (h : s.Alike v s') : s'.Alike v s :=
  ⟨h.geofences.symm, h.events.symm, fun hv => (h.reports hv).symm, fun hv => (h.history hv).symm⟩

theorem Alike.trans (h : s.Alike v s') (h' : s'.Alike v s'') : s.Alike v s'' :=
  ⟨h.geofences.trans h'.geofences, h.events.trans h'.events,
    fun hv => (h.reports hv).trans (h'.reports hv),
    fun hv => (h.history hv).trans (h'.history hv)⟩

/-- Who does not look at the reports sees less. -/
theorem Alike.withoutReports (h : s.Alike v s') : s.Alike { v with reports := false } s' :=
  ⟨h.geofences, h.events, fun hv => absurd hv Bool.false_ne_true, h.history⟩

/-- The last report of an actor is the last one of those about the actor. -/
theorem latest_eq_head? (s : Store) (tenant actor : Uuid) : s.latest tenant actor =
    (s.reports.filter fun r => r.isAbout tenant actor).reverse.head? := by
  rw [latest, ← List.head?_filter, List.filter_reverse]

/-- The last report of the actor is among the reports that are seen. -/
theorem Alike.latest_eq (h : s.Alike v s') (hv : v.reports = true) :
    s.latest v.tenant v.actor = s'.latest v.tenant v.actor := by
  rw [latest_eq_head?, latest_eq_head?, h.reports hv]

/-- Without their marks, the events are the same after one of them was marked. -/
theorem map_unmarked_getD_markFirst (tenant id : Uuid) (t : Instant) (events : List Event) :
    ((markFirst tenant id t events).getD events).map Event.unmarked =
      events.map Event.unmarked := by
  cases hmark : markFirst tenant id t events with
  | none => rfl
  | some marked => exact map_unmarked_of_markFirst hmark

end Store

/-! ## What a view decides and what it does not notice -/

/-- The calls that are decided by a view. -/
def StoreCall.SeenBy (v : View) : StoreCall → Prop
  | .findActive _ | .insertReport _ | .insertEvent _ => True
  | .latest tenant actor => v.reports = true ∧ tenant = v.tenant ∧ actor = v.actor
  | .markProcessed _ id _ => v.mine id = true
  | _ => False

/-- The calls that a view does not notice. -/
def StoreCall.HiddenFrom (v : View) : StoreCall → Prop
  | .findActive _ | .latest _ _ => True
  | .insertReport r => v.reports = true → r.isAbout v.tenant v.actor = false
  | .insertEvent e =>
    v.mine e.id = false ∧ (v.history = true → e.isAbout v.tenant v.actor = false)
  | .markProcessed _ id _ => v.mine id = false
  | _ => False

namespace Store

variable {v : View} {s s' : Store} {call : StoreCall}

/-- An event is seen by the identifier with which it is looked up. -/
private theorem mine_of_isEvent {tenant id : Uuid} {b : Bool} (h : v.mine id = b) :
    ∀ e : Event, isEvent tenant id e = true → v.mine e.id = b := by
  intro e hevent
  simp only [isEvent, Bool.and_eq_true, beq_iff_eq] at hevent
  rw [hevent.1, h]

/-- A call that is decided by a view is answered alike in stores that look the same. -/
theorem Alike.reply_eq (h : s.Alike v s') (hcall : call.SeenBy v) :
    s.reply call = s'.reply call := by
  cases call with
  | findActive tenant =>
    -- The geofences are not filtered: a listing of any tenant is the same.
    have hlist : s.list tenant false = s'.list tenant false := by rw [list, list, h.geofences]
    exact congrArg Except.ok hlist
  | latest tenant actor =>
    obtain ⟨hv, rfl, rfl⟩ := hcall
    exact congrArg Except.ok (h.latest_eq hv)
  | insertReport | insertEvent => rfl
  | markProcessed tenant id t =>
    -- Only an event with this identifier can be meant, and the view has all of these.
    have hmeant : ∀ e, isEvent tenant id e = true → v.mine e.id = true := mine_of_isEvent hcall
    rw [reply_markProcessed, reply_markProcessed,
      ← isSome_markFirst_filter (p := fun e => v.mine e.id) (fun _ _ => rfl) hmeant, h.events,
      isSome_markFirst_filter (fun _ _ => rfl) hmeant]
  | create | find | list | update | delete | deleteBefore | listEvents | countEvents => cases hcall

/-- Stores that look the same still do after a call that is decided by the view. -/
theorem Alike.after (h : s.Alike v s') (hcall : call.SeenBy v) :
    (s.after call).Alike v (s'.after call) := by
  cases call with
  | findActive | latest => exact h
  | insertReport r =>
    refine ⟨h.geofences, h.events, fun hv => ?_, h.history⟩
    change (s.reports ++ [r]).filter _ = (s'.reports ++ [r]).filter _
    rw [List.filter_append, List.filter_append, h.reports hv]
  | insertEvent e =>
    refine ⟨h.geofences, ?_, h.reports, fun hv => ?_⟩
    · change (s.events ++ [e]).filter _ = (s'.events ++ [e]).filter _
      rw [List.filter_append, List.filter_append, h.events]
    · change ((s.events ++ [e]).map _).filter _ = ((s'.events ++ [e]).map _).filter _
      rw [List.map_append, List.map_append, List.filter_append, List.filter_append, h.history hv]
  | markProcessed tenant id t =>
    have hmeant : ∀ e, isEvent tenant id e = true → v.mine e.id = true := mine_of_isEvent hcall
    rw [after_markProcessed, after_markProcessed]
    refine ⟨h.geofences, ?_, h.reports, fun hv => ?_⟩
    · simp only
      rw [filter_getD_markFirst (p := fun e => v.mine e.id) (fun _ _ => rfl) hmeant, h.events,
        ← filter_getD_markFirst (fun _ _ => rfl) hmeant]
    · simp only
      rw [map_unmarked_getD_markFirst, map_unmarked_getD_markFirst, h.history hv]
  -- No view decides these calls.
  | create | find | list | update | delete | deleteBefore | listEvents | countEvents => cases hcall

/-- A call that a view does not notice leaves it as it was. -/
theorem alike_after (hcall : call.HiddenFrom v) : s.Alike v (s.after call) := by
  cases call with
  | findActive | latest => exact .refl v s
  | insertReport r =>
    refine ⟨rfl, rfl, fun hv => ?_, fun _ => rfl⟩
    change _ = (s.reports ++ [r]).filter _
    rw [List.filter_append, List.filter_singleton, hcall hv]
    simp
  | insertEvent e =>
    obtain ⟨hmine, habout⟩ := hcall
    refine ⟨rfl, ?_, fun _ => rfl, fun hv => ?_⟩
    · change _ = (s.events ++ [e]).filter _
      rw [List.filter_append, List.filter_singleton, hmine]
      simp
    · have hunmarked : e.unmarked.isAbout v.tenant v.actor = false := habout hv
      change _ = ((s.events ++ [e]).map _).filter _
      rw [List.map_append, List.filter_append, List.map_singleton, List.filter_singleton, hunmarked]
      simp
  | markProcessed tenant id t =>
    rw [after_markProcessed]
    refine ⟨rfl, ?_, fun _ => rfl, fun _ => ?_⟩
    · exact (filter_getD_markFirst_of_not_meant (fun _ _ => rfl) (mine_of_isEvent hcall)).symm
    · simp only
      rw [map_unmarked_getD_markFirst]
  -- No view overlooks these calls.
  | create | find | list | update | delete | deleteBefore | listEvents | countEvents => cases hcall

end Store

namespace Action

/-- The actions that are decided by a view and what a call knows by itself. -/
def SeenBy (v : View) : Action → Prop
  | .store call => call.SeenBy v
  | _ => True

/-- The actions that a view does not notice. -/
def HiddenFrom (v : View) : Action → Prop
  | .store call => call.HiddenFrom v
  | _ => True

/-- Whether an action is no store call. -/
def aside : Action → Bool
  | .store _ => false
  | _ => true

variable {a : Action} {v : View}

/-- Actions without a store call are decided by every view. -/
theorem seenBy_of_aside (h : a.aside = true) : a.SeenBy v := by
  cases a with
  | store call => cases h
  | attend | locate | readClock | freshId | count | readCounters => trivial

/-- No view notices an action without a store call. -/
theorem hiddenFrom_of_aside (h : a.aside = true) : a.HiddenFrom v := by
  cases a with
  | store call => cases h
  | attend | locate | readClock | freshId | count | readCounters => trivial

end Action

/-! ## Worlds that look the same -/

namespace World

/-- Two worlds differ in their stores only, and these look the same in a view. -/
structure Beside (v : View) (w w' : World) : Prop where
  /-- Nothing but the stores differs. -/
  own : w' = { w with store := w'.store }
  /-- The stores look the same. -/
  store : w.store.Alike v w'.store

variable {v : View} {env : Surroundings} {w w' w'' : World} {a : Action}

theorem Beside.refl (v : View) (w : World) : w.Beside v w := ⟨rfl, .refl v w.store⟩

theorem Beside.trans (h : w.Beside v w') (h' : w'.Beside v w'') : w.Beside v w'' := by
  obtain ⟨hown, hstore⟩ := h
  obtain ⟨hown', hstore'⟩ := h'
  refine ⟨?_, hstore.trans hstore'⟩
  rw [hown', hown]

/-- A view that leaves out the reports sees no more differences. -/
theorem Beside.withoutReports (h : w.Beside v w') : w.Beside { v with reports := false } w' :=
  ⟨h.own, h.store.withoutReports⟩

/-- The same world over two stores that look the same. -/
theorem beside_of_alike {s s' : Store} (h : s.Alike v s') :
    { w with store := s }.Beside v { w with store := s' } :=
  ⟨rfl, h⟩

/-- An action that is decided by a view is answered alike, and what it leaves looks the same. -/
theorem Beside.perform (h : w.Beside v w') (env : Surroundings) (ha : a.SeenBy v) :
    (w.perform env a).1 = (w'.perform env a).1 ∧
      (w.perform env a).2.Beside v (w'.perform env a).2 := by
  obtain ⟨hown, hstore⟩ := h
  -- The second world is the first one over another store, so all but store calls are the same.
  generalize w'.store = s' at hown hstore
  subst hown
  cases a with
  | store call =>
    simp only [World.perform, callStore_eq]
    -- A refusal depends on the calls before it, and these are the call's own.
    split
    · exact ⟨rfl, rfl, hstore⟩
    · exact ⟨hstore.reply_eq ha, rfl, hstore.after ha⟩
  | attend | locate | readClock | freshId | count | readCounters => exact ⟨rfl, rfl, hstore⟩

/-- An action that a view does not notice leaves it as it was. -/
theorem alike_perform (ha : a.HiddenFrom v) : w.store.Alike v (w.perform env a).2.store := by
  cases a with
  | store call =>
    simp only [World.perform, callStore_eq]
    split
    · exact .refl v w.store
    · exact Store.alike_after ha
  | attend | locate | readClock | freshId | count | readCounters => exact .refl v w.store

/-- What is known of an answer is true of the one that is given. -/
theorem fits_perform {mine : Uuid → Prop} (w : World) (a : Action)
    (hid : a = .freshId → mine (env.ids w.drawn)) : a.Fits mine (w.perform env a).1 := by
  cases a with
  | store call =>
    intro value hvalue
    simp only [World.perform, callStore_eq] at hvalue
    split at hvalue
    · cases hvalue
    · exact StoreCall.fits_reply hvalue
  | freshId => exact hid rfl
  | attend | locate | readClock | count | readCounters => trivial

end World

/-! ## Programs that go through phases -/

namespace Prog

variable {α β ε σ : Type}

/-- In each phase a program takes only actions that lead from there to a phase, and `Q` holds of its
value and of the phase in which it ends. -/
def Follows (moves : σ → Action → σ → Prop) (mine : Uuid → Prop) :
    Prog α → σ → (α → σ → Prop) → Prop
  | .done a, p, Q => Q a p
  -- What a program did until it broke down was looked at on the way.
  | .abort, _, _ => True
  -- Any answer that fits may come, since others may have changed the store.
  | .step a next, p, Q => ∃ p', moves p a p' ∧
      ∀ reply, a.Fits mine reply → (next reply).Follows moves mine p' Q

section Rules

variable {moves : σ → Action → σ → Prop} {mine : Uuid → Prop} {p : σ}

theorem Follows.imp {x : Prog α} {Q Q' : α → σ → Prop} (h : x.Follows moves mine p Q)
    (himp : ∀ a p, Q a p → Q' a p) : x.Follows moves mine p Q' := by
  induction x generalizing p with
  | done a => exact himp _ _ h
  | abort => trivial
  | step a next ih =>
    obtain ⟨p', hmove, hnext⟩ := h
    exact ⟨p', hmove, fun reply hreply => ih reply (hnext reply hreply)⟩

@[simp]
theorem follows_pure {a : α} {Q : α → σ → Prop} :
    (pure a : Prog α).Follows moves mine p Q ↔ Q a p :=
  Iff.rfl

/-- The second part of a program starts in the phase in which the first one ended. -/
@[simp]
theorem follows_bind {x : Prog α} {f : α → Prog β} {Q : β → σ → Prop} :
    (x >>= f).Follows moves mine p Q ↔
      x.Follows moves mine p fun a p' => (f a).Follows moves mine p' Q := by
  change (x.bind f).Follows moves mine p Q ↔ _
  induction x generalizing p with
  | done a => exact Iff.rfl
  | abort => exact Iff.rfl
  | step a next ih =>
    refine exists_congr fun p' => and_congr_right fun _ => ?_
    exact forall_congr' fun reply => imp_congr_right fun _ => ih reply

/-- The second part is not reached if the first one fails. -/
@[simp]
theorem follows_run_bind {x : ExceptT ε Prog α} {f : α → ExceptT ε Prog β}
    {Q : Except ε β → σ → Prop} :
    (x >>= f).run.Follows moves mine p Q ↔
      x.run.Follows moves mine p fun r p' =>
        match r with
        | .ok a => (f a).run.Follows moves mine p' Q
        | .error e => Q (.error e) p' := by
  rw [ExceptT.run_bind, follows_bind]
  constructor
  · exact fun h => h.imp fun r t hr => by cases r <;> exact hr
  · exact fun h => h.imp fun r t hr => by cases r <;> exact hr

@[simp]
theorem follows_run_lift {x : Prog α} {Q : Except ε α → σ → Prop} :
    (liftM x : ExceptT ε Prog α).run.Follows moves mine p Q ↔
      x.Follows moves mine p fun a p' => Q (.ok a) p' := by
  change ((ExceptT.lift x).run).Follows moves mine p Q ↔ _
  rw [ExceptT.run_lift, map_eq_pure_bind, follows_bind]
  exact Iff.rfl

@[simp]
theorem follows_run_mk {x : Prog (Except ε α)} {Q : Except ε α → σ → Prop} :
    (ExceptT.mk x).run.Follows moves mine p Q ↔ x.Follows moves mine p Q :=
  Iff.rfl

/-- A single action that leads to a phase. -/
theorem follows_act {a : Action} {p' : σ} {Q : a.Reply → σ → Prop} (hmove : moves p a p')
    (h : ∀ reply, a.Fits mine reply → Q reply p') : (act a).Follows moves mine p Q :=
  ⟨p', hmove, h⟩

/-- A store call that leads to a phase, whatever is answered. -/
theorem follows_run_store {call : StoreCall} {p' : σ}
    {Q : Except DomainError call.Value → σ → Prop} (hmove : moves p (.store call) p')
    (herror : ∀ e, Q (.error e) p') (hok : ∀ value, Q (.ok value) p') :
    (Service.store call).run.Follows moves mine p Q := by
  refine follows_act hmove fun reply _ => ?_
  cases reply with
  | error e => exact herror e
  | ok value => exact hok value

end Rules

/-- How many actions a program takes. -/
def actions (env : Surroundings) : Prog α → World → Nat
  | .done _, _ => 0
  | .abort, _ => 0
  | .step a next, w => (next (w.perform env a).1).actions env (w.perform env a).2 + 1

end Prog

/-! ## Runs -/

/-- Two runs end alike, as far as a view is concerned. -/
structure EndAlike {α : Type} (v : View) (x y : Option α × World) : Prop where
  /-- Both return the same. -/
  value : x.1 = y.1
  /-- Both end in worlds beside each other. -/
  world : x.2.Beside v y.2

namespace EndAlike

variable {α : Type} {v : View} {x y z : Option α × World}

theorem refl (v : View) (x : Option α × World) : EndAlike v x x := ⟨rfl, .refl v x.2⟩

theorem trans (h : EndAlike v x y) (h' : EndAlike v y z) : EndAlike v x z :=
  ⟨h.value.trans h'.value, h.world.trans h'.world⟩

/-- Runs that end alike also do so without a look at the reports. -/
theorem withoutReports (h : EndAlike v x y) : EndAlike { v with reports := false } x y :=
  ⟨h.value, h.world.withoutReports⟩

end EndAlike

namespace View

variable {σ : Type}

/-- Among some phases, which are never left, every action is decided by the view. -/
def Decides (v : View) (moves : σ → Action → σ → Prop) (phases : σ → Prop) : Prop :=
  ∀ p a p', phases p → moves p a p' → a.SeenBy v ∧ phases p'

/-- Among some phases, which are never left, the view notices no action. -/
def Misses (v : View) (moves : σ → Action → σ → Prop) (phases : σ → Prop) : Prop :=
  ∀ p a p', phases p → moves p a p' → a.HiddenFrom v ∧ phases p'

end View

namespace Prog.Follows

variable {α σ : Type} {moves : σ → Action → σ → Prop} {mine : Uuid → Prop} {phases : σ → Prop}
  {p : σ} {Q : α → σ → Prop} {v : View} {env : Surroundings} {w w' : World} {x : Prog α}

/-- A program whose actions are decided by a view runs alike in worlds that look the same. -/
theorem run_beside (hv : v.Decides moves phases) (hids : ∀ n, mine (env.ids n)) (hp : phases p)
    (h : x.Follows moves mine p Q) (hw : w.Beside v w') :
    EndAlike v (x.run env w) (x.run env w') ∧ x.actions env w = x.actions env w' := by
  -- By induction on the program: the first action gets the same answer in both worlds, so both
  -- runs go on with the same program.
  induction x generalizing p w w' with
  | done a => exact ⟨⟨rfl, hw⟩, rfl⟩
  | abort => exact ⟨⟨rfl, hw⟩, rfl⟩
  | step a next ih =>
    obtain ⟨p', hmove, hnext⟩ := h
    obtain ⟨hseen, hp'⟩ := hv p a p' hp hmove
    obtain ⟨hreply, hworld⟩ := hw.perform env hseen
    obtain ⟨hend, hactions⟩ := ih _ hp' (hnext _ (w.fits_perform a fun _ => hids _)) hworld
    simp only [run, actions, ← hreply]
    exact ⟨hend, congrArg (· + 1) hactions⟩

/-- A view does not notice a run if it misses all of its actions. -/
theorem alike_run (hv : v.Misses moves phases) (hids : ∀ n, mine (env.ids n)) (hp : phases p)
    (h : x.Follows moves mine p Q) : w.store.Alike v (x.run env w).2.store := by
  -- Each action leaves the view as it was, in whatever world it is taken.
  induction x generalizing p w with
  | done a => exact .refl v w.store
  | abort => exact .refl v w.store
  | step a next ih =>
    obtain ⟨p', hmove, hnext⟩ := h
    obtain ⟨hhidden, hp'⟩ := hv p a p' hp hmove
    have hfits := w.fits_perform a fun _ => hids _
    exact (World.alike_perform hhidden).trans (ih _ hp' (hnext _ hfits))

end Prog.Follows

end Geofencing
