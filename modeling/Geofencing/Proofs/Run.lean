import Geofencing.Service.World

/-!
# Reasoning about runs of programs

A run takes a program and a world to a value, unless the program breaks down, and to the world in
which it ends. `Prog.Ensures env p w Q` says that `Q` holds of both. The rules below take it apart
along the program, one action at a time, also for programs that may fail.

Every store call goes one of three ways (`World.callStore_cases`), and the lemmas after it say what
that means for the calls that change geofences. Between two worlds of one run, `Surroundings.Grants`
says that no store call of certain kinds was refused, and `Surroundings.drawn` lists the identifiers
drawn.
-/

namespace Geofencing

namespace Prog

variable {α β ε : Type}

/-! ## Programs as a monad -/

/-- Running one program after another obeys the laws of a monad. -/
instance : LawfulMonad Prog :=
  LawfulMonad.mk' Prog
    (fun p => by
      -- Only the last step of a program is looked at by what comes after it, so both laws go down
      -- the program to where it is done.
      change p.bind _ = p
      induction p with
      | done a => rfl
      | step a next ih => exact congrArg (Prog.step a) (funext ih)
      | abort => rfl)
    (fun _ _ => rfl)
    (fun p f g => by
      change (p.bind f).bind g = p.bind fun a => (f a).bind g
      induction p with
      | done a => rfl
      | step a next ih => exact congrArg (Prog.step a) (funext ih)
      | abort => rfl)

/-- A program that goes on with the value of another runs where that one ended. -/
theorem run_bind (env : Surroundings) (p : Prog α) (f : α → Prog β) (w : World) :
    (p >>= f).run env w =
      match p.run env w with
      | (some a, w') => (f a).run env w'
      | (none, w') => (none, w') := by
  change (p.bind f).run env w = _
  -- The first action is the same on both sides, and the rest runs in the world that it leaves, so
  -- the world has to be free in the induction.
  induction p generalizing w with
  | done a => rfl
  | step a next ih => exact ih _ _
  | abort => rfl

/-- The same for programs that may fail: a failure ends the run. -/
theorem run_run_bind (env : Surroundings) (x : ExceptT ε Prog α) (f : α → ExceptT ε Prog β)
    (w : World) :
    (x >>= f).run.run env w =
      match x.run.run env w with
      | (some (.ok a), w') => (f a).run.run env w'
      | (some (.error e), w') => (some (.error e), w')
      | (none, w') => (none, w') := by
  rw [ExceptT.run_bind, run_bind]
  rcases x.run.run env w with ⟨_ | _ | _, w'⟩ <;> rfl

/-! ## What a run ensures -/

/-- `Q` holds of the value of a run, if it has one, and of the world in which it ends. -/
def Ensures (env : Surroundings) (p : Prog α) (w : World) (Q : Option α → World → Prop) : Prop :=
  Q (p.run env w).1 (p.run env w).2

section Rules

variable {env : Surroundings} {w : World}

/-- What a run ensures may be weakened. -/
theorem Ensures.imp {p : Prog α} {Q Q' : Option α → World → Prop} (h : p.Ensures env w Q)
    (himp : ∀ r w', Q r w' → Q' r w') : p.Ensures env w Q' :=
  himp _ _ h

@[simp]
theorem ensures_pure {Q : Option α → World → Prop} (a : α) :
    (pure a : Prog α).Ensures env w Q ↔ Q (some a) w :=
  Iff.rfl

/-- The second part runs in the world in which the first one ended. -/
@[simp]
theorem ensures_bind {p : Prog α} {f : α → Prog β} {Q : Option β → World → Prop} :
    (p >>= f).Ensures env w Q ↔
      p.Ensures env w fun r w' =>
        match r with
        | some a => (f a).Ensures env w' Q
        | none => Q none w' := by
  rw [Ensures, Ensures, run_bind]
  rcases p.run env w with ⟨_ | a, w'⟩ <;> rfl

@[simp]
theorem ensures_map {p : Prog α} {f : α → β} {Q : Option β → World → Prop} :
    (f <$> p).Ensures env w Q ↔ p.Ensures env w fun r w' => Q (r.map f) w' := by
  rw [map_eq_pure_bind, ensures_bind, Ensures, Ensures]
  rcases p.run env w with ⟨_ | _, w'⟩ <;> rfl

/-- The clock is read once. -/
@[simp]
theorem ensures_now {Q : Option Instant → World → Prop} :
    now.Ensures env w Q ↔ Q (some (env.clock w.readings)) { w with readings := w.readings + 1 } :=
  Iff.rfl

/-- One identifier is drawn. -/
@[simp]
theorem ensures_fresh {Q : Option Uuid → World → Prop} :
    fresh.Ensures env w Q ↔ Q (some (env.ids w.drawn)) { w with drawn := w.drawn + 1 } :=
  Iff.rfl

/-- One series is counted up. -/
@[simp]
theorem ensures_count {series : Series} {amount : Nat} {Q : Option Unit → World → Prop} :
    (count series amount).Ensures env w Q ↔
      Q (some ()) { w with counters := World.bump series amount w.counters } :=
  Iff.rfl

/-! ### Programs that may fail -/

@[simp]
theorem ensures_run_mk {p : Prog (Except ε α)} {Q : Option (Except ε α) → World → Prop} :
    (ExceptT.mk p).run.Ensures env w Q ↔ p.Ensures env w Q :=
  Iff.rfl

/-- The second part does not run if the first one fails. -/
@[simp]
theorem ensures_run_bind {x : ExceptT ε Prog α} {f : α → ExceptT ε Prog β}
    {Q : Option (Except ε β) → World → Prop} :
    (x >>= f).run.Ensures env w Q ↔
      x.run.Ensures env w fun r w' =>
        match r with
        | some (.ok a) => (f a).run.Ensures env w' Q
        | some (.error e) => Q (some (.error e)) w'
        | none => Q none w' := by
  rw [Ensures, Ensures, run_run_bind]
  rcases x.run.run env w with ⟨_ | _ | _, w'⟩ <;> rfl

@[simp]
theorem ensures_run_lift {p : Prog α} {Q : Option (Except ε α) → World → Prop} :
    (liftM p : ExceptT ε Prog α).run.Ensures env w Q ↔
      p.Ensures env w fun r w' => Q (r.map .ok) w' := by
  change ((ExceptT.lift p).run).Ensures env w Q ↔ _
  rw [ExceptT.run_lift, ensures_map]

/-- A store call is answered and remembered. -/
@[simp]
theorem ensures_run_store {call : StoreCall}
    {Q : Option (Except DomainError call.Value) → World → Prop} :
    (Service.store call).run.Ensures env w Q ↔
      Q (some (w.callStore env call).1) (w.callStore env call).2 :=
  Iff.rfl

end Rules

end Prog

/-! ## Store calls -/

namespace World

variable {env : Surroundings} {w : World} {call : StoreCall}

/-- A refused call has no effect but that it was made. -/
theorem callStore_of_refused (h : env.refuses w.calls call.method = true) :
    w.callStore env call =
      (.error (refusal call.method), { w with calls := call.method :: w.calls }) := by
  simp [callStore, h]

/-- A call that the store carries out changes the store and nothing else. -/
theorem callStore_of_ok {value : call.Value} {s : Store}
    (h : env.refuses w.calls call.method = false) (hs : w.store.perform call = .ok (value, s)) :
    w.callStore env call = (.ok value, { w with calls := call.method :: w.calls, store := s }) := by
  simp [callStore, h, hs]

/-- A call that the store cannot carry out has no effect but that it was made. -/
theorem callStore_of_error {e : DomainError}
    (h : env.refuses w.calls call.method = false) (hs : w.store.perform call = .error e) :
    w.callStore env call = (.error e, { w with calls := call.method :: w.calls }) := by
  simp [callStore, h, hs]

/-- What a store call does: it is refused, it fails in the store, or it is carried out. -/
theorem callStore_cases (env : Surroundings) (w : World) (call : StoreCall) :
    (env.refuses w.calls call.method = true ∧ w.callStore env call =
      (.error (refusal call.method), { w with calls := call.method :: w.calls })) ∨
    (env.refuses w.calls call.method = false ∧ ∃ e, w.store.perform call = .error e ∧
      w.callStore env call = (.error e, { w with calls := call.method :: w.calls })) ∨
    (env.refuses w.calls call.method = false ∧ ∃ value s, w.store.perform call = .ok (value, s) ∧
      w.callStore env call =
        (.ok value, { w with calls := call.method :: w.calls, store := s })) := by
  cases h : env.refuses w.calls call.method with
  | true => exact .inl ⟨rfl, callStore_of_refused h⟩
  | false =>
    cases hs : w.store.perform call with
    | error e => exact .inr (.inl ⟨rfl, e, rfl, callStore_of_error h hs⟩)
    | ok r => exact .inr (.inr ⟨rfl, r.1, r.2, rfl, callStore_of_ok h hs⟩)

/-- Creating a geofence stores it under an unused identifier, or changes nothing. -/
theorem callStore_create (env : Surroundings) (w : World) (g : Geofence) :
    (∃ reply, w.callStore env (.create g) = (reply, { w with calls := .create :: w.calls })) ∨
      w.store.geofence? g.id = none ∧ w.callStore env (.create g) =
        (.ok (), { w with calls := .create :: w.calls, store := w.store.insert g }) := by
  obtain ⟨-, h⟩ | ⟨-, _, -, h⟩ | ⟨-, _, _, hs, h⟩ := callStore_cases env w (.create g)
  · exact .inl ⟨_, h⟩
  · exact .inl ⟨_, h⟩
  · rw [Store.perform] at hs
    split at hs
    · cases hs
    · rename_i hunused
      cases hs
      exact .inr ⟨by simpa using hunused, h⟩

/-- Updating a geofence replaces it if its tenant has it, or changes nothing. -/
theorem callStore_update (env : Surroundings) (w : World) (g : Geofence) :
    (∃ reply, w.callStore env (.update g) = (reply, { w with calls := .update :: w.calls })) ∨
      (w.store.find g.tenant g.id).isSome = true ∧ w.callStore env (.update g) =
        (.ok true, { w with calls := .update :: w.calls, store := w.store.replace g }) := by
  obtain ⟨-, h⟩ | ⟨-, _, -, h⟩ | ⟨-, _, _, hs, h⟩ := callStore_cases env w (.update g)
  · exact .inl ⟨_, h⟩
  · exact .inl ⟨_, h⟩
  · rw [Store.perform] at hs
    split at hs
    · rename_i hfound
      cases hs
      exact .inr ⟨hfound, h⟩
    · -- A tenant without the geofence is told so, which is no failure of the store.
      cases hs
      exact .inl ⟨_, h⟩

/-- Deleting a geofence removes it if the tenant has it, or changes nothing. -/
theorem callStore_delete (env : Surroundings) (w : World) (tenant id : Uuid) :
    (∃ reply, w.callStore env (.delete tenant id) =
        (reply, { w with calls := .delete :: w.calls })) ∨
      (w.store.find tenant id).isSome = true ∧ w.callStore env (.delete tenant id) =
        (.ok true, { w with calls := .delete :: w.calls, store := w.store.remove id }) := by
  obtain ⟨-, h⟩ | ⟨-, _, -, h⟩ | ⟨-, _, _, hs, h⟩ := callStore_cases env w (.delete tenant id)
  · exact .inl ⟨_, h⟩
  · exact .inl ⟨_, h⟩
  · rw [Store.perform] at hs
    split at hs
    · rename_i hfound
      cases hs
      exact .inr ⟨hfound, h⟩
    · cases hs
      exact .inl ⟨_, h⟩

/-- A store call is remembered, whether it is refused or not. -/
@[simp]
theorem calls_callStore : (w.callStore env call).2.calls = call.method :: w.calls := by
  obtain ⟨-, h⟩ | ⟨-, _, -, h⟩ | ⟨-, _, _, -, h⟩ := callStore_cases env w call <;> rw [h]

/-- A store call tells the hook nothing. -/
@[simp]
theorem entries_callStore : (w.callStore env call).2.entries = w.entries := by
  obtain ⟨-, h⟩ | ⟨-, _, -, h⟩ | ⟨-, _, _, -, h⟩ := callStore_cases env w call <;> rw [h]

/-- A store call draws no identifier. -/
@[simp]
theorem drawn_callStore : (w.callStore env call).2.drawn = w.drawn := by
  obtain ⟨-, h⟩ | ⟨-, _, -, h⟩ | ⟨-, _, _, -, h⟩ := callStore_cases env w call <;> rw [h]

/-- A store call does not read the clock. -/
@[simp]
theorem readings_callStore : (w.callStore env call).2.readings = w.readings := by
  obtain ⟨-, h⟩ | ⟨-, _, -, h⟩ | ⟨-, _, _, -, h⟩ := callStore_cases env w call <;> rw [h]

/-! ## Worlds grow -/

/-- An action draws at most one identifier more. -/
theorem drawn_perform (env : Surroundings) (w : World) (a : Action) :
    w.drawn ≤ (w.perform env a).2.drawn := by
  cases a with
  | store call => simp [perform]
  | freshId => exact Nat.le_succ _
  | _ => exact Nat.le_refl _

/-- An action reads the clock at most once. -/
theorem readings_perform (env : Surroundings) (w : World) (a : Action) :
    w.readings ≤ (w.perform env a).2.readings := by
  cases a with
  | store call => simp [perform]
  | readClock => exact Nat.le_succ _
  | _ => exact Nat.le_refl _

end World

namespace Prog

variable {α : Type}

/-- Identifiers drawn stay drawn. -/
theorem drawn_run (env : Surroundings) (p : Prog α) (w : World) :
    w.drawn ≤ (p.run env w).2.drawn := by
  induction p generalizing w with
  | done a => exact Nat.le_refl _
  | abort => exact Nat.le_refl _
  | step a next ih => exact Nat.le_trans (w.drawn_perform env a) (ih _ _)

/-- The number of readings of the clock never goes down. -/
theorem readings_run (env : Surroundings) (p : Prog α) (w : World) :
    w.readings ≤ (p.run env w).2.readings := by
  induction p generalizing w with
  | done a => exact Nat.le_refl _
  | abort => exact Nat.le_refl _
  | step a next ih => exact Nat.le_trans (w.readings_perform env a) (ih _ _)

end Prog

/-! ## Programs that only read -/

namespace Prog

variable {α β ε : Type}

/-- However a program runs, it changes nothing in the store and tells the hook nothing. -/
def Quiet (p : Prog α) : Prop :=
  ∀ env w, p.Ensures env w fun _ w' => w'.store = w.store ∧ w'.entries = w.entries

theorem quiet_pure (a : α) : (pure a : Prog α).Quiet := fun _ _ => ⟨rfl, rfl⟩

theorem quiet_counters : counters.Quiet := fun _ _ => ⟨rfl, rfl⟩

/-- A program of two quiet parts is quiet. -/
theorem Quiet.bind {p : Prog α} {f : α → Prog β} (hp : p.Quiet) (hf : ∀ a, (f a).Quiet) :
    (p >>= f).Quiet := by
  intro env w
  rw [ensures_bind]
  refine (hp env w).imp fun r w' h => ?_
  cases r with
  | none =>
    -- The first program broke down, so the second one does not run.
    exact h
  | some a =>
    refine (hf a env w').imp fun _ w'' h' => ?_
    exact ⟨h'.1.trans h.1, h'.2.trans h.2⟩

theorem Quiet.run_bind {x : ExceptT ε Prog α} {f : α → ExceptT ε Prog β} (hx : x.run.Quiet)
    (hf : ∀ a, (f a).run.Quiet) : (x >>= f).run.Quiet := by
  rw [ExceptT.run_bind]
  refine hx.bind fun r => ?_
  cases r with
  | ok a => exact hf a
  | error e =>
    -- What is left to do after a failure is to hand it on.
    exact quiet_pure _

theorem Quiet.run_lift {p : Prog α} (hp : p.Quiet) : (liftM p : ExceptT ε Prog α).run.Quiet := by
  intro env w
  rw [ensures_run_lift]
  exact hp env w

/-- A lookup in the store is quiet, also if it is refused. -/
theorem quiet_store {call : StoreCall} (h : ∀ s : Store, ∃ value, s.perform call = .ok (value, s)) :
    (Service.store call).run.Quiet := by
  intro env w
  rw [ensures_run_store]
  refine ⟨?_, World.entries_callStore⟩
  obtain ⟨value, hs⟩ := h w.store
  cases hrefused : env.refuses w.calls call.method with
  | true => rw [World.callStore_of_refused hrefused]
  | false => rw [World.callStore_of_ok hrefused hs]

end Prog

/-! ## Between two worlds of a run -/

namespace Surroundings

/-- No store call of certain kinds is refused between two worlds. -/
def Grants (env : Surroundings) (kinds : StoreMethod → Prop) (w w' : World) : Prop :=
  ∀ m earlier, kinds m → w.calls <:+ earlier → (m :: earlier) <:+ w'.calls →
    env.refuses earlier m = false

/-- The identifiers drawn between two worlds. -/
def drawn (env : Surroundings) (w w' : World) : List Uuid :=
  (List.range' w.drawn (w'.drawn - w.drawn)).map env.ids

variable {env : Surroundings} {kinds : StoreMethod → Prop} {w w₁ w₂ w' : World}

/-- What is granted over a longer stretch is granted over a part of it. -/
theorem Grants.mono (h : env.Grants kinds w w') (hl : w.calls <:+ w₁.calls)
    (hr : w₂.calls <:+ w'.calls) : env.Grants kinds w₁ w₂ :=
  fun m earlier hm h₁ h₂ => h m earlier hm (hl.trans h₁) (h₂.trans hr)

/-- The first identifier drawn between two worlds, and those drawn after it. -/
theorem drawn_eq_cons (hnext : w₁.drawn = w.drawn + 1) (hle : w₁.drawn ≤ w'.drawn) :
    env.drawn w w' = env.ids w.drawn :: env.drawn w₁ w' := by
  have hcount : w'.drawn - w.drawn = w'.drawn - w₁.drawn + 1 := by omega
  rw [drawn, drawn, hcount, List.range'_succ, List.map_cons, hnext]

/-- What is drawn from a later world on is drawn from an earlier one on. -/
theorem drawn_sublist (hle : w₁.drawn ≤ w₂.drawn) :
    (env.drawn w₂ w').Sublist (env.drawn w₁ w') := by
  refine List.Sublist.map _ ?_
  obtain hbeyond | hwithin := Nat.le_total w'.drawn w₂.drawn
  · rw [Nat.sub_eq_zero_of_le hbeyond]
    exact List.nil_sublist _
  · have hcount : w'.drawn - w₁.drawn =
        (w₂.drawn - w₁.drawn) + (w'.drawn - w₂.drawn) := by omega
    rw [hcount, ← List.range'_append_1, Nat.add_sub_cancel' hle]
    exact List.sublist_append_right _ _

/-- An identifier is drawn between two worlds if its number lies between them. -/
theorem mem_drawn {id : Uuid} :
    id ∈ env.drawn w w' ↔ ∃ n, w.drawn ≤ n ∧ n < w'.drawn ∧ env.ids n = id := by
  simp only [drawn, List.mem_map, List.mem_range'_1]
  constructor
  · rintro ⟨n, ⟨hl, hr⟩, hid⟩
    exact ⟨n, hl, by omega, hid⟩
  · rintro ⟨n, hl, hr, hid⟩
    exact ⟨n, ⟨hl, by omega⟩, hid⟩

end Surroundings

end Geofencing
