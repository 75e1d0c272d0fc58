import Geofencing.Proofs.Entitlement

/-!
# Histories

The service starts with an empty store and then answers requests, one after another. `App.History`
remembers them: each request with the response to it, and with the events that were stored for it.

Events are only ever stored while somebody is tracked. Then nothing else happens to the events but
that some are marked, and nothing at all to the geofences: `Prog.Follows.tracked`.
-/

namespace Geofencing

/-! ## Events that are stored -/

/-- The event that an action stores, with the store to which it is added. -/
def World.inserted (env : Surroundings) (w : World) : Action → List (Store × Event)
  | .store (.insertEvent e) =>
    if env.refuses w.calls .insertEvent then [] else [(w.store, e)]
  | _ => []

/-- The events that a run stores, in order, each with the store to which it is added. -/
def Prog.inserted {α : Type} (env : Surroundings) : Prog α → World → List (Store × Event)
  | .done _, _ => []
  | .abort, _ => []
  | .step a next, w =>
    w.inserted env a ++ (next (w.perform env a).1).inserted env (w.perform env a).2

/-- While somebody is tracked, the geofences stay and events are only added and marked. -/
structure Store.Tracked (s s' : Store) (inserted : List (Store × Event)) : Prop where
  /-- The geofences stay. -/
  geofences : s'.geofences = s.geofences
  /-- Events are added, and none changes but for its mark. -/
  events : s'.events.map Event.unmarked =
    s.events.map Event.unmarked ++ inserted.map fun p => p.2.unmarked
  /-- Every event is added to a store with the same geofences. -/
  stores : ∀ p ∈ inserted, p.1.geofences = s.geofences

section Tracked

variable {env : Surroundings} {w : World} {caller : Caller} {errand : Errand}

/-- Without a new event, the geofences and the events but for their marks are as they were. -/
theorem Store.Tracked.of_same {s s' : Store} (hgeofences : s'.geofences = s.geofences)
    (hevents : s'.events.map Event.unmarked = s.events.map Event.unmarked) : s.Tracked s' [] := by
  refine ⟨hgeofences, ?_, fun p hp => absurd hp List.not_mem_nil⟩
  simpa using hevents

/-- One stretch of tracking after another is tracking again. -/
theorem Store.Tracked.trans {s s' s'' : Store} {inserted inserted' : List (Store × Event)}
    (h : s.Tracked s' inserted) (h' : s'.Tracked s'' inserted') :
    s.Tracked s'' (inserted ++ inserted') := by
  refine ⟨h'.geofences.trans h.geofences, ?_, fun p hp => ?_⟩
  · rw [h'.events, h.events, List.map_append, List.append_assoc]
  · rcases List.mem_append.1 hp with hp | hp
    · exact h.stores p hp
    · exact (h'.stores p hp).trans h.geofences

/-- Every action of tracking adds the events that it stores and nothing else. -/
theorem World.tracked_perform {a : Action} {mine : Uuid → Prop}
    (ha : a.Entitled caller mine .tracking) :
    w.store.Tracked (w.perform env a).2.store (w.inserted env a) := by
  cases a with
  | store call =>
    rw [perform, callStore_eq]
    split
    · rename_i hrefused
      have hnone : w.inserted env (.store call) = [] := by
        cases call with
        | insertEvent e => exact if_pos hrefused
        | _ => rfl
      rw [hnone]
      exact .of_same rfl rfl
    · rename_i hgranted
      cases call with
      | findActive | latest | insertReport => exact .of_same rfl rfl
      | insertEvent e =>
        have hsome : w.inserted env (.store (.insertEvent e)) = [(w.store, e)] := if_neg hgranted
        rw [hsome]
        refine ⟨rfl, ?_, fun p hp => ?_⟩
        · change (w.store.events ++ [e]).map _ = _
          simp
        · rw [List.mem_singleton.1 hp]
      | markProcessed tenant id t =>
        dsimp only
        rw [Store.after_markProcessed]
        exact .of_same rfl (Store.map_unmarked_getD_markFirst _ _ _ _)
      -- None of these calls is made while somebody is tracked.
      | create | find | list | update | delete | deleteBefore | listEvents | countEvents => cases ha
  | attend | locate | readClock | freshId | count | readCounters => exact .of_same rfl rfl

/-- A run while somebody is tracked. -/
theorem Prog.Follows.tracked {α : Type} {x : Prog α} {Q : α → Errand → Prop}
    (h : x.Follows (Errand.Moves caller fun _ => True) (fun _ => True) .tracking Q) :
    w.store.Tracked (x.run env w).2.store (x.inserted env w) := by
  induction x generalizing w with
  | done a => exact .of_same rfl rfl
  | abort => exact .of_same rfl rfl
  | step a next ih =>
    obtain ⟨_, ⟨ha, rfl⟩, hnext⟩ := h
    exact (World.tracked_perform ha).trans (ih _ (hnext _ (w.fits_perform a fun _ => trivial)))

/-- Nobody stores events on other errands. -/
theorem Prog.Follows.inserted_eq_nil {α : Type} {x : Prog α} {Q : α → Errand → Prop}
    (h : x.Follows (Errand.Moves caller fun _ => True) (fun _ => True) errand Q)
    (herrand : errand ≠ .tracking) : x.inserted env w = [] := by
  induction x generalizing w with
  | done a => rfl
  | abort => rfl
  | step a next ih =>
    obtain ⟨errand', ⟨ha, rfl⟩, hnext⟩ := h
    -- Events are stored on the errand of tracking alone, and this is another one.
    have hnone : w.inserted env a = [] := by
      cases a with
      | store call =>
        cases call with
        | insertEvent e =>
          cases errand' with
          | tracking => exact absurd rfl herrand
          | serving | monitoring => cases ha
        | _ => rfl
      | _ => rfl
    rw [inserted, hnone, List.nil_append]
    exact ih _ (hnext _ (w.fits_perform a fun _ => trivial))

end Tracked

/-! ## Requests one after another -/

namespace Http

/-- A request, the response to it unless its handler broke down, and the events that were stored
for it, each with the store to which it was added. -/
structure Exchange where
  request : Request
  response : Option Response
  inserted : List (Store × Event)

namespace App

/-- What comes of a request. -/
def exchange (app : App) (env : Surroundings) (req : Request) (w : World) : Exchange :=
  ⟨req, ((app.handle req).run env w).1, (app.handle req).inserted env w⟩

/-- The worlds that the service reaches from an empty store by requests and cleanups, each with all
requests before it. -/
inductive History (app : App) (env : Surroundings) : List Exchange → World → Prop
  /-- Nobody has asked for anything. -/
  | start : History app env [] (.start .empty)
  /-- A request is answered. -/
  | request {past : List Exchange} {w : World} (h : History app env past w) (req : Request) :
      History app env (past ++ [app.exchange env req w]) ((app.handle req).run env w).2
  /-- The service cleans up, which stores no event. -/
  | cleanup {past : List Exchange} {w : World} (h : History app env past w) :
      History app env past ((Jobs.cleanup app.retention).run env w).2

variable {app : App} {env : Surroundings} {w : World} {past : List Exchange}

/-- Every history leads to a reachable world. -/
theorem History.reachable (h : app.History env past w) : app.Reachable env w := by
  induction h with
  | start => exact .start
  | request _ req ih => exact .request ih req
  | cleanup _ ih => exact .cleanup ih

/-- Every world that is reached has a history. -/
theorem Reachable.exists_history (h : app.Reachable env w) : ∃ past, app.History env past w := by
  induction h with
  | start => exact ⟨[], .start⟩
  | request _ req ih =>
    obtain ⟨past, hpast⟩ := ih
    exact ⟨_, .request hpast req⟩
  | cleanup _ ih =>
    obtain ⟨past, hpast⟩ := ih
    exact ⟨_, .cleanup hpast⟩

end App

end Http

end Geofencing
