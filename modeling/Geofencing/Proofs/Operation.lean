import Geofencing.Proofs.Submission

/-!
# Operations on the store

The service core changes what is stored by five kinds of operations: submissions, the three changes
of geofences, and purges. `Operation.run` carries one out. The lemmas below say all that it can do
to the store, refused and failing operations included: these leave the store as it was.

An operation also returns something. `Operation.program` is the program that does both, and
`Operation.returned` is what operations return one after another.
-/

namespace Geofencing

/-- A purge removes what its cutoff asks for, unless there is no cutoff or the store refuses. -/
theorem Tracker.purge_cases (env : Surroundings) (w : World) (policy : RetentionPolicy)
    (scope : Option Uuid) :
    (purge policy scope).run.Ensures env w fun result w' =>
      (w'.store = w.store ∧ (policy.cutoff? (env.clock w.readings) = none ∨
        env.refuses w.calls .deleteBefore = true)) ∨
      ∃ cutoff, policy.cutoff? (env.clock w.readings) = some cutoff ∧
        result = some (.ok (w.store.purgeCount scope cutoff)) ∧
        w'.store = w.store.purge scope cutoff := by
  simp only [purge, Prog.ensures_run_bind, Prog.ensures_run_lift, Prog.ensures_now,
    Option.map_some]
  cases hcutoff : policy.cutoff? (env.clock w.readings) with
  | none =>
    -- The cutoff is out of reach, and the program breaks down before it calls the store.
    exact .inl ⟨rfl, .inl rfl⟩
  | some cutoff =>
    simp only [Prog.ensures_run_bind]
    rw [Prog.ensures_run_store]
    cases hrefused : env.refuses w.calls .deleteBefore with
    | true =>
      rw [World.callStore_of_refused hrefused]
      exact .inl ⟨rfl, .inr rfl⟩
    | false =>
      rw [World.callStore_of_ok hrefused rfl]
      exact .inr ⟨cutoff, rfl, rfl, rfl⟩

/-- An operation of the service core that may change what is stored. -/
inductive Operation where
  /-- Submit an observation of an actor. -/
  | submit (tenant actor : Uuid) (o : Observation)
  /-- Store a new geofence. -/
  | create (geofence : Geofence)
  /-- Replace a geofence of the same tenant. -/
  | update (geofence : Geofence)
  /-- Remove a geofence of a tenant and the events about it. -/
  | delete (tenant id : Uuid)
  /-- Remove the reports that are no longer kept, of one tenant or of all. -/
  | purge (policy : RetentionPolicy) (scope : Option Uuid)

namespace Operation

/-- The world after an operation. -/
def run (env : Surroundings) (w : World) : Operation → World
  | .submit tenant actor o => ((Tracker.submit tenant actor o).run.run env w).2
  | .create g => (w.callStore env (.create g)).2
  | .update g => (w.callStore env (.update g)).2
  | .delete tenant id => (w.callStore env (.delete tenant id)).2
  | .purge policy scope => ((Tracker.purge policy scope).run.run env w).2

/-- What an operation returns unless it fails. -/
@[reducible]
def Value : Operation → Type
  | .submit _ _ _ => Tracker.Outcome
  | .create _ => Unit
  | .update _ | .delete _ _ => Bool
  | .purge _ _ => Nat

/-- The program of an operation. -/
def program : (op : Operation) → Service op.Value
  | .submit tenant actor o => Tracker.submit tenant actor o
  | .create g => Service.store (.create g)
  | .update g => Service.store (.update g)
  | .delete tenant id => Service.store (.delete tenant id)
  | .purge policy scope => Tracker.purge policy scope

theorem run_eq_program (env : Surroundings) (w : World) (op : Operation) :
    op.run env w = (op.program.run.run env w).2 := by
  cases op <;> rfl

/-- What operations return that are carried out one after another. -/
def returned (env : Surroundings) :
    World → List Operation → List ((op : Operation) × Option (Except DomainError op.Value))
  | _, [] => []
  | w, op :: rest => ⟨op, (op.program.run.run env w).1⟩ :: returned env (op.run env w) rest

variable {env : Surroundings} {w : World}

/-- Creating a geofence stores it if its identifier is unused. -/
theorem store_create (env : Surroundings) (w : World) (g : Geofence) :
    (run env w (.create g)).store = w.store ∨
      w.store.geofence? g.id = none ∧ (run env w (.create g)).store = w.store.insert g := by
  rw [run]
  obtain ⟨_, h⟩ | ⟨hunused, h⟩ := World.callStore_create env w g
  · rw [h]
    exact .inl rfl
  · rw [h]
    exact .inr ⟨hunused, rfl⟩

/-- Updating a geofence replaces it if its tenant has it. -/
theorem store_update (env : Surroundings) (w : World) (g : Geofence) :
    (run env w (.update g)).store = w.store ∨
      (w.store.find g.tenant g.id).isSome = true ∧
        (run env w (.update g)).store = w.store.replace g := by
  rw [run]
  obtain ⟨_, h⟩ | ⟨hfound, h⟩ := World.callStore_update env w g
  · rw [h]
    exact .inl rfl
  · rw [h]
    exact .inr ⟨hfound, rfl⟩

/-- Deleting a geofence removes it if the tenant has it. -/
theorem store_delete (env : Surroundings) (w : World) (tenant id : Uuid) :
    (run env w (.delete tenant id)).store = w.store ∨
      (w.store.find tenant id).isSome = true ∧
        (run env w (.delete tenant id)).store = w.store.remove id := by
  rw [run]
  obtain ⟨_, h⟩ | ⟨hfound, h⟩ := World.callStore_delete env w tenant id
  · rw [h]
    exact .inl rfl
  · rw [h]
    exact .inr ⟨hfound, rfl⟩

/-- A purge removes the reports before its cutoff, if it gets that far. -/
theorem store_purge (env : Surroundings) (w : World) (policy : RetentionPolicy)
    (scope : Option Uuid) :
    (run env w (.purge policy scope)).store = w.store ∨
      ∃ cutoff, (run env w (.purge policy scope)).store = w.store.purge scope cutoff := by
  obtain ⟨hsame, -⟩ | ⟨cutoff, -, -, hstore⟩ := Tracker.purge_cases env w policy scope
  · exact .inl hsame
  · exact .inr ⟨cutoff, hstore⟩

end Operation

end Geofencing
