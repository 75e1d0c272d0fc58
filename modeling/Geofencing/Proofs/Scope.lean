import Geofencing.Proofs.Rows
import Geofencing.Proofs.Run

/-!
# Programs that work for one tenant

* `Surroundings.Agree`: from two worlds on, the outside answers alike.
* `World.Alike`: two worlds of two runs look alike to a tenant.
* `Prog.Scoped`: a program works for one tenant only. The rules take it apart along the program.
* `Prog.Scoped.run_eq`: a scoped program that runs in two worlds with the same rows of its tenant
  gives the same value, leaves the same rows, and leaves the rows of all others alone.
-/

namespace Geofencing

/-! ## Worlds that look alike to a tenant -/

/-- From two worlds on, the outside answers alike. -/
structure Surroundings.Agree (env₁ : Surroundings) (w₁ : World) (env₂ : Surroundings) (w₂ : World) :
    Prop where
  /-- The same store calls are refused. -/
  refuses : ∀ later m, env₁.refuses (later ++ w₁.calls) m = env₂.refuses (later ++ w₂.calls) m
  /-- The attendance hook accepts the same entries. -/
  accepts : ∀ later entry,
    env₁.accepts (w₁.entries ++ later) entry = env₂.accepts (w₂.entries ++ later) entry
  /-- The spatial engine gives the same answers. -/
  engine : ∀ n, env₁.engine (w₁.questions + n) = env₂.engine (w₂.questions + n)
  /-- The clock shows the same instants. -/
  clock : ∀ n, env₁.clock (w₁.readings + n) = env₂.clock (w₂.readings + n)
  /-- The same identifiers are drawn. -/
  ids : ∀ n, env₁.ids (w₁.drawn + n) = env₂.ids (w₂.drawn + n)

/-- Two worlds of two runs that look alike to a tenant. Before anything was written, the stores are
the ones that the runs started with. -/
structure World.Alike (tenant : Uuid) (s₁ s₂ : Store) (touched : Bool) (env₁ : Surroundings)
    (w₁ : World) (env₂ : Surroundings) (w₂ : World) : Prop where
  /-- The outside answers alike. -/
  agree : Surroundings.Agree env₁ w₁ env₂ w₂
  /-- The rows of the tenant are the same. -/
  rows : Store.SameRows (· == tenant) w₁.store w₂.store
  /-- The rows of others are those of the first store. -/
  others₁ : Store.SameRows (· != tenant) s₁ w₁.store
  /-- The rows of others are those of the second store. -/
  others₂ : Store.SameRows (· != tenant) s₂ w₂.store
  /-- Nothing was written yet. -/
  untouched : touched = false → w₁.store = s₁ ∧ w₂.store = s₂

/-- A store call that is not refused is answered by the store. -/
theorem World.callStore_eq (env : Surroundings) (w : World) (call : StoreCall) :
    w.callStore env call =
      if env.refuses w.calls call.method then
        (.error (refusal call.method), { w with calls := call.method :: w.calls })
      else
        (w.store.reply call,
          { w with calls := call.method :: w.calls, store := w.store.after call }) := by
  rw [callStore, Store.reply, Store.after]
  cases w.store.perform call <;> rfl

/-! ## Programs for one tenant -/

/-- What is known of the answer to a store call: a tenant finds its own geofences only. -/
def StoreCall.Fits : (call : StoreCall) → call.Value → Prop
  | .find tenant _, found => ∀ g, found = some g → g.tenant = tenant
  | _, _ => True

/-- A geofence is created under an unused identifier. -/
def StoreCall.Fresh (unused : Uuid → Prop) : StoreCall → Prop
  | .create g => unused g.id
  | _ => True

namespace Action

/-- What a program for a tenant may do. Delicate calls come before anything is written. -/
def Permitted (tenant : Uuid) (unused : Uuid → Prop) (touched : Bool) : Action → Prop
  | .store call => call.tenant? = some tenant ∧ (touched && call.delicate) = false ∧
      call.Fresh unused
  -- The counters are shared by all tenants.
  | .readCounters => False
  | _ => True

/-- What is known of the answer to an action. -/
def Fits (unused : Uuid → Prop) : (a : Action) → a.Reply → Prop
  | .store call, reply => ∀ value, reply = .ok value → call.Fits value
  | .freshId, id => unused id
  | _, _ => True

/-- Whether an action may write to the store. -/
def touches : Action → Bool
  | .store call => call.writes
  | _ => false

end Action

namespace Prog

variable {α β ε : Type}

/-- A program works for one tenant only, and `Q` holds of its value and of whether it wrote
anything. -/
def Scoped (tenant : Uuid) (unused : Uuid → Prop) : Prog α → Bool → (α → Bool → Prop) → Prop
  | .done a, touched, Q => Q a touched
  -- A program that breaks down has no value, and what it did until then was looked at on the way.
  | .abort, _, _ => True
  | .step a next, touched, Q => a.Permitted tenant unused touched ∧
      ∀ reply, a.Fits unused reply → (next reply).Scoped tenant unused (touched || a.touches) Q

section Rules

variable {tenant : Uuid} {unused : Uuid → Prop} {touched : Bool}

theorem Scoped.imp {p : Prog α} {Q Q' : α → Bool → Prop} (h : p.Scoped tenant unused touched Q)
    (himp : ∀ a t, Q a t → Q' a t) : p.Scoped tenant unused touched Q' := by
  induction p generalizing touched with
  | done a => exact himp _ _ h
  | abort => trivial
  | step a next ih => exact ⟨h.1, fun reply hreply => ih reply (h.2 reply hreply)⟩

@[simp]
theorem scoped_pure {a : α} {Q : α → Bool → Prop} :
    (pure a : Prog α).Scoped tenant unused touched Q ↔ Q a touched :=
  Iff.rfl

/-- A program works for one tenant if its first part does and the rest does from there on. -/
@[simp]
theorem scoped_bind {p : Prog α} {f : α → Prog β} {Q : β → Bool → Prop} :
    (p >>= f).Scoped tenant unused touched Q ↔
      p.Scoped tenant unused touched fun a t => (f a).Scoped tenant unused t Q := by
  change (p.bind f).Scoped tenant unused touched Q ↔ _
  induction p generalizing touched with
  | done a => exact Iff.rfl
  | abort => exact Iff.rfl
  | step a next ih =>
    exact and_congr_right fun _ => forall_congr' fun reply => imp_congr_right fun _ => ih reply

@[simp]
theorem scoped_map {p : Prog α} {f : α → β} {Q : β → Bool → Prop} :
    (f <$> p).Scoped tenant unused touched Q ↔
      p.Scoped tenant unused touched fun a t => Q (f a) t := by
  rw [map_eq_pure_bind, scoped_bind]
  exact Iff.rfl

@[simp]
theorem scoped_now {Q : Instant → Bool → Prop} :
    now.Scoped tenant unused touched Q ↔ ∀ t, Q t touched := by
  simp [now, act, Scoped, Action.Permitted, Action.Fits, Action.touches]

/-- A new identifier is an unused one. -/
@[simp]
theorem scoped_fresh {Q : Uuid → Bool → Prop} :
    fresh.Scoped tenant unused touched Q ↔ ∀ id, unused id → Q id touched := by
  simp [fresh, act, Scoped, Action.Permitted, Action.Fits, Action.touches]

@[simp]
theorem scoped_count {series : Series} {amount : Nat} {Q : Unit → Bool → Prop} :
    (count series amount).Scoped tenant unused touched Q ↔ Q () touched := by
  simp only [count, act, Scoped, Action.Permitted, Action.Fits, Action.touches, Bool.or_false]
  exact ⟨fun h => h.2 () trivial, fun h => ⟨trivial, fun _ _ => h⟩⟩

@[simp]
theorem scoped_attend {entry : SchoolEntry} {Q : Bool → Bool → Prop} :
    (attend entry).Scoped tenant unused touched Q ↔ ∀ accepted, Q accepted touched := by
  simp [attend, act, Scoped, Action.Permitted, Action.Fits, Action.touches]

@[simp]
theorem scoped_locate {point : Coordinate} {geometry : Json}
    {Q : Except Geo.EngineFailure Geo.Membership → Bool → Prop} :
    (locate point geometry).Scoped tenant unused touched Q ↔ ∀ answer, Q answer touched := by
  simp [locate, act, Scoped, Action.Permitted, Action.Fits, Action.touches]

/-! ### Programs that may fail -/

/-- A program that may fail is composed of two parts of which the second may not be reached. -/
@[simp]
theorem scoped_run_bind {x : ExceptT ε Prog α} {f : α → ExceptT ε Prog β}
    {Q : Except ε β → Bool → Prop} :
    (x >>= f).run.Scoped tenant unused touched Q ↔
      x.run.Scoped tenant unused touched fun r t =>
        match r with
        | .ok a => (f a).run.Scoped tenant unused t Q
        | .error e => Q (.error e) t := by
  rw [ExceptT.run_bind, scoped_bind]
  constructor
  · exact fun h => h.imp fun r t hr => by cases r <;> exact hr
  · exact fun h => h.imp fun r t hr => by cases r <;> exact hr

@[simp]
theorem scoped_run_mk {p : Prog (Except ε α)} {Q : Except ε α → Bool → Prop} :
    (ExceptT.mk p).run.Scoped tenant unused touched Q ↔ p.Scoped tenant unused touched Q :=
  Iff.rfl

@[simp]
theorem scoped_run_lift {p : Prog α} {Q : Except ε α → Bool → Prop} :
    (liftM p : ExceptT ε Prog α).run.Scoped tenant unused touched Q ↔
      p.Scoped tenant unused touched fun a t => Q (.ok a) t := by
  change ((ExceptT.lift p).run).Scoped tenant unused touched Q ↔ _
  rw [ExceptT.run_lift, scoped_map]

/-- A permitted store call, whatever is answered. -/
theorem scoped_run_store {call : StoreCall} {Q : Except DomainError call.Value → Bool → Prop}
    (hcall : call.tenant? = some tenant) (hphase : (touched && call.delicate) = false)
    (hfresh : call.Fresh unused) (herror : ∀ e, Q (.error e) (touched || call.writes))
    (hok : ∀ value, call.Fits value → Q (.ok value) (touched || call.writes)) :
    (Service.store call).run.Scoped tenant unused touched Q := by
  refine ⟨⟨hcall, hphase, hfresh⟩, fun reply hreply => ?_⟩
  cases reply with
  | error e => exact herror e
  | ok value => exact hok value (hreply value rfl)

end Rules

end Prog

/-! ## Soundness -/

section Soundness

variable {tenant : Uuid} {unused : Uuid → Prop} {s₁ s₂ : Store} {touched : Bool}
  {env₁ env₂ : Surroundings} {w₁ w₂ : World}

/-- The outside goes on to answer alike after an action that both worlds took. -/
theorem Surroundings.Agree.perform (h : Surroundings.Agree env₁ w₁ env₂ w₂) (a : Action) :
    Surroundings.Agree env₁ (w₁.perform env₁ a).2 env₂ (w₂.perform env₂ a).2 := by
  -- Each kind of action uses up one answer of its own kind, so the answers that are left are those
  -- from one further on.
  cases a with
  | store call =>
    have hworld : ∀ (env : Surroundings) (w : World), (w.perform env (.store call)).2 =
        { w with
          calls := call.method :: w.calls
          store := (w.perform env (.store call)).2.store } := by
      intro env w
      rw [World.perform, World.callStore_eq]
      split <;> rfl
    rw [hworld env₁ w₁, hworld env₂ w₂]
    refine ⟨fun later m => ?_, h.accepts, h.engine, h.clock, h.ids⟩
    have hlater := h.refuses (later ++ [call.method]) m
    rw [List.append_assoc, List.append_assoc] at hlater
    exact hlater
  | attend entry =>
    refine ⟨h.refuses, fun later e => ?_, h.engine, h.clock, h.ids⟩
    have hlater := h.accepts (entry :: later) e
    rw [← List.singleton_append, ← List.append_assoc, ← List.append_assoc] at hlater
    exact hlater
  | locate point geometry =>
    refine ⟨h.refuses, h.accepts, fun n => ?_, h.clock, h.ids⟩
    have hnext := h.engine (1 + n)
    rw [← Nat.add_assoc, ← Nat.add_assoc] at hnext
    exact hnext
  | readClock =>
    refine ⟨h.refuses, h.accepts, h.engine, fun n => ?_, h.ids⟩
    have hnext := h.clock (1 + n)
    rw [← Nat.add_assoc, ← Nat.add_assoc] at hnext
    exact hnext
  | freshId =>
    refine ⟨h.refuses, h.accepts, h.engine, h.clock, fun n => ?_⟩
    have hnext := h.ids (1 + n)
    rw [← Nat.add_assoc, ← Nat.add_assoc] at hnext
    exact hnext
  | count series amount => exact ⟨h.refuses, h.accepts, h.engine, h.clock, h.ids⟩
  | readCounters => exact h

/-- What a tenant finds in the store is its own. -/
theorem StoreCall.fits_reply {s : Store} {call : StoreCall} {value : call.Value}
    (h : s.reply call = .ok value) : call.Fits value := by
  cases call with
  | find t id =>
    intro g hg
    have hfound : s.find t id = some g := by
      rw [← hg]
      exact Except.ok.inj h
    exact (Store.find_eq_some_iff.1 hfound).2
  | _ => trivial

/-- Worlds stay alike as long as their stores stay. -/
theorem World.Alike.of_store (h : World.Alike tenant s₁ s₂ touched env₁ w₁ env₂ w₂) {t : Bool}
    {w₁' w₂' : World} (hagree : Surroundings.Agree env₁ w₁' env₂ w₂')
    (h₁ : w₁'.store = w₁.store) (h₂ : w₂'.store = w₂.store) :
    World.Alike tenant s₁ s₂ (touched || t) env₁ w₁' env₂ w₂' := by
  refine ⟨hagree, ?_, ?_, ?_, fun ht => ?_⟩
  · rw [h₁, h₂]
    exact h.rows
  · rw [h₁]
    exact h.others₁
  · rw [h₂]
    exact h.others₂
  · rw [h₁, h₂]
    exact h.untouched (Bool.or_eq_false_iff.1 ht).1

/-- A permitted store call is answered alike, and the worlds stay alike. -/
theorem World.Alike.callStore (horder₁ : s₁.InOrder tenant) (horder₂ : s₂.InOrder tenant)
    (hunused : ∀ id, unused id → s₁.geofence? id = none ∧ s₂.geofence? id = none)
    (h : World.Alike tenant s₁ s₂ touched env₁ w₁ env₂ w₂) {call : StoreCall}
    (hpermitted : (Action.store call).Permitted tenant unused touched) :
    (w₁.callStore env₁ call).1 = (w₂.callStore env₂ call).1 ∧
      (Action.store call).Fits unused (w₁.callStore env₁ call).1 ∧
      World.Alike tenant s₁ s₂ (touched || call.writes) env₁ (w₁.callStore env₁ call).2 env₂
        (w₂.callStore env₂ call).2 := by
  obtain ⟨hcall, hphase, hfresh⟩ := hpermitted
  -- Delicate calls come first, when the stores are still those at the start.
  have hstart : call.delicate = true → w₁.store = s₁ ∧ w₂.store = s₂ := by
    intro hdelicate
    rw [hdelicate, Bool.and_true] at hphase
    exact h.untouched hphase
  have hagree := h.agree.perform (.store call)
  simp only [World.perform] at hagree
  -- The call is refused in both worlds or in none.
  have hrefuses : env₁.refuses w₁.calls call.method = env₂.refuses w₂.calls call.method :=
    h.agree.refuses [] call.method
  rw [World.callStore_eq, World.callStore_eq, ← hrefuses] at hagree ⊢
  generalize env₁.refuses w₁.calls call.method = refused at hagree ⊢
  cases refused with
  | true =>
    refine ⟨rfl, ?_, h.of_store hagree rfl rfl⟩
    -- A refusal is no value that anything would have to be known of.
    intro value hvalue
    cases hvalue
  | false =>
    have hunused' : ∀ g, call = .create g →
        w₁.store.geofence? g.id = none ∧ w₂.store.geofence? g.id = none := by
      rintro g rfl
      obtain ⟨hs₁, hs₂⟩ := hstart rfl
      rw [hs₁, hs₂]
      exact hunused g.id hfresh
    have horder : call.delicate = true → w₁.store.InOrder tenant ∧ w₂.store.InOrder tenant := by
      intro hdelicate
      obtain ⟨hs₁, hs₂⟩ := hstart hdelicate
      rw [hs₁, hs₂]
      exact ⟨horder₁, horder₂⟩
    have hother : (tenant != tenant) = false := bne_self_eq_false tenant
    have hothers₁ : Store.SameRows (· != tenant) w₁.store (w₁.store.after call) :=
      Store.sameRows_after hcall hother fun hdelicate => (horder hdelicate).1.owned
    have hothers₂ : Store.SameRows (· != tenant) w₂.store (w₂.store.after call) :=
      Store.sameRows_after hcall hother fun hdelicate => (horder hdelicate).2.owned
    refine ⟨?_, fun value hvalue => StoreCall.fits_reply hvalue, hagree, ?_, ?_, ?_, ?_⟩
    · exact h.rows.reply_eq hcall (fun hdelicate => ⟨(horder hdelicate).1,
        (horder hdelicate).2.indexed⟩) hunused'
    · exact h.rows.after hcall hunused'
    · exact h.others₁.trans hothers₁
    · exact h.others₂.trans hothers₂
    · intro htouched
      obtain ⟨huntouched, hreads⟩ := Bool.or_eq_false_iff.1 htouched
      simp only [Bool.false_eq_true, if_false]
      rw [Store.after_of_reads hreads, Store.after_of_reads hreads]
      exact h.untouched huntouched

/-- A permitted action is answered alike, and the worlds stay alike. -/
theorem World.Alike.perform (horder₁ : s₁.InOrder tenant) (horder₂ : s₂.InOrder tenant)
    (hunused : ∀ id, unused id → s₁.geofence? id = none ∧ s₂.geofence? id = none)
    (h : World.Alike tenant s₁ s₂ touched env₁ w₁ env₂ w₂) {a : Action}
    (hpermitted : a.Permitted tenant unused touched)
    (hfresh : a = .freshId → unused (env₁.ids w₁.drawn)) :
    (w₁.perform env₁ a).1 = (w₂.perform env₂ a).1 ∧ a.Fits unused (w₁.perform env₁ a).1 ∧
      World.Alike tenant s₁ s₂ (touched || a.touches) env₁ (w₁.perform env₁ a).2 env₂
        (w₂.perform env₂ a).2 := by
  have hagree := h.agree.perform a
  cases a with
  | store call => exact h.callStore horder₁ horder₂ hunused hpermitted
  | attend entry =>
    have hanswer := h.agree.accepts [] entry
    rw [List.append_nil, List.append_nil] at hanswer
    exact ⟨hanswer, trivial, h.of_store hagree rfl rfl⟩
  | locate point geometry =>
    have hanswer := congrFun (congrFun (h.agree.engine 0) point) geometry
    exact ⟨hanswer, trivial, h.of_store hagree rfl rfl⟩
  | readClock => exact ⟨h.agree.clock 0, trivial, h.of_store hagree rfl rfl⟩
  | freshId => exact ⟨h.agree.ids 0, hfresh rfl, h.of_store hagree rfl rfl⟩
  | count series amount => exact ⟨rfl, trivial, h.of_store hagree rfl rfl⟩
  -- A program for one tenant does not look at the counters.
  | readCounters => exact hpermitted.elim

/-- A program for a tenant, run in two worlds that look alike to that tenant, gives the same value
and leaves worlds that look alike. -/
theorem Prog.Scoped.run_eq (horder₁ : s₁.InOrder tenant) (horder₂ : s₂.InOrder tenant)
    (hunused : ∀ id, unused id → s₁.geofence? id = none ∧ s₂.geofence? id = none)
    {α : Type} {p : Prog α} {Q : α → Bool → Prop} (hp : p.Scoped tenant unused touched Q)
    (h : World.Alike tenant s₁ s₂ touched env₁ w₁ env₂ w₂)
    (hdrawn : ∀ id ∈ env₁.drawn w₁ (p.run env₁ w₁).2, unused id) :
    (p.run env₁ w₁).1 = (p.run env₂ w₂).1 ∧
      ∃ t, World.Alike tenant s₁ s₂ t env₁ (p.run env₁ w₁).2 env₂ (p.run env₂ w₂).2 := by
  -- By induction on the program. The action is answered alike in both worlds, so both runs go on
  -- with the same program, in worlds that are alike again.
  induction p generalizing touched w₁ w₂ with
  | done a => exact ⟨rfl, touched, h⟩
  | abort => exact ⟨rfl, touched, h⟩
  | step a next ih =>
    have hdrawn' : ∀ n, w₁.drawn ≤ n → n < ((Prog.step a next).run env₁ w₁).2.drawn →
        unused (env₁.ids n) :=
      fun n hl hr => hdrawn _ (Surroundings.mem_drawn.2 ⟨n, hl, hr, rfl⟩)
    -- An identifier that is drawn now is among those drawn in the run, since the rest of the run
    -- only draws more.
    have hfresh : a = .freshId → unused (env₁.ids w₁.drawn) := by
      rintro rfl
      refine hdrawn' _ (Nat.le_refl _) ?_
      have hgrows := Prog.drawn_run env₁ (next (env₁.ids w₁.drawn))
        { w₁ with drawn := w₁.drawn + 1 }
      exact hgrows
    obtain ⟨hreply, hfits, halike⟩ := h.perform horder₁ horder₂ hunused hp.1 hfresh
    have hrest := ih _ (hp.2 _ hfits) halike fun id hid => by
      obtain ⟨n, hl, hr, rfl⟩ := Surroundings.mem_drawn.1 hid
      exact hdrawn' n (Nat.le_trans (w₁.drawn_perform env₁ a) hl) hr
    rw [Prog.run, Prog.run]
    simp only
    rw [← hreply]
    exact hrest

end Soundness

end Geofencing
