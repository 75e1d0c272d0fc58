import Geofencing.Jobs
import Geofencing.Proofs.Deed
import Geofencing.Proofs.Operation

/-!
# Ownership of geofences

Every event is about a geofence that is stored, and of the same tenant. The store does not see to
that by itself, but no request and no job ever breaks it: `Http.App.Reachable.indexed_owned`.
-/

namespace Geofencing

/-! ## Submissions -/

namespace Tracker

variable {env : Surroundings} {w w' : World} {tenant actor : Uuid} {o : Observation}

/-- What a submission finds is about geofences of the tenant. -/
theorem exists_of_mem_found (hindexed : w.store.Indexed) {f : Finding}
    (hf : f ∈ env.found w tenant actor o) :
    ∃ g, w.store.find tenant f.geofence = some g ∧ g.kind = f.kind := by
  -- Comparing with the last report adds a transition to each finding, but not what it is about.
  rw [Surroundings.found, Membership.transitions, List.mem_map] at hf
  obtain ⟨f', hf', rfl⟩ := hf
  have hsubject := List.mem_map_of_mem (f := fun f : Finding => (f.geofence, f.name, f.kind)) hf'
  rw [Surroundings.now, Membership.map_subject_evaluate] at hsubject
  obtain ⟨g, hg, hsame⟩ := List.mem_map.1 hsubject
  simp only [Prod.mk.injEq] at hsame
  obtain ⟨hid, -, hkind⟩ := hsame
  have hlisted := (Store.mem_list_iff hindexed).1 (List.mem_filter.1 hg).1
  rw [hid] at hlisted
  exact ⟨g, hlisted.1, hkind⟩

/-- Recorded events are owned: they are about geofences that the submission found. -/
private theorem owned_of_recorded (hindexed : w.store.Indexed) (howned : w.store.Owned)
    {fs : List Finding} {log : List (Finding × Event)}
    (hsub : ∀ f ∈ fs, f ∈ env.found w tenant actor o)
    (h : Recorder.Recorded env tenant actor o.coordinate o.recordedAt
      (w.reported env tenant actor o) fs log w') : w'.store.Owned := by
  have hfind : ∀ t id, w'.store.find t id = w.store.find t id := by
    intro t id
    rw [Store.find, Store.geofence?, h.geofences]
    rfl
  intro e he
  -- Ownership does not depend on marks.
  have hsame : ∀ x : Event, x.unmarked = e.unmarked →
      x.tenant = e.tenant ∧ x.geofence = e.geofence := by
    intro x hx
    have htenant := congrArg Event.tenant hx
    have hgeofence := congrArg Event.geofence hx
    exact ⟨htenant, hgeofence⟩
  have hmem := List.mem_map_of_mem (f := Event.unmarked) he
  rw [h.map_unmarked, List.mem_append] at hmem
  rw [hfind]
  -- But for its mark, the event is an old one or was recorded just now.
  rcases hmem with hold | hnew
  · obtain ⟨old, hmem, hunmarked⟩ := List.mem_map.1 hold
    rw [← (hsame old hunmarked).1, ← (hsame old hunmarked).2]
    exact howned old hmem
  · obtain ⟨p, hp, hunmarked⟩ := List.mem_map.1 hnew
    have htells := h.tellsOf p hp
    rw [← (hsame p.2 hunmarked).1, ← (hsame p.2 hunmarked).2, htells.tenant, htells.geofence]
    have hfs : p.1 ∈ log.map Prod.fst := List.mem_map_of_mem hp
    rw [h.map_fst] at hfs
    obtain ⟨g, hg, -⟩ := exists_of_mem_found hindexed (hsub _ (List.mem_filter.1 hfs).1)
    exact Option.isSome_iff_exists.2 ⟨g, hg⟩

/-- However a submission ends, ownership is kept. -/
theorem Submitted.owned {result : Option (Except DomainError Outcome)}
    (h : Submitted env tenant actor o w result w') (hindexed : w.store.Indexed)
    (howned : w.store.Owned) : w'.store.Owned := by
  obtain ⟨hstore, -⟩ | ⟨_, _, _, hsub, hrecorded, hstore, -⟩ := h.recorded_cases
  · exact hstore ▸ howned
  · rw [hstore]
    exact owned_of_recorded hindexed howned hsub hrecorded

end Tracker

/-! ## Reachable worlds -/

namespace Http

/-- Every deed keeps the store indexed and owned. -/
theorem Deed.indexed_owned {app : App} {env : Surroundings} {req : Request} {w w' : World}
    {asked : Method} {resource : Option Resource} {result : Option (Except Refusal Response)}
    (h : Deed app env req w asked resource result w') (hindexed : w.store.Indexed)
    (howned : w.store.Owned) : w'.store.Indexed ∧ w'.store.Owned := by
  cases h with
  | nothing store _ => exact store ▸ ⟨hindexed, howned⟩
  | submitted _ _ _ _ submitted =>
    exact ⟨hindexed.of_geofences submitted.geofences, submitted.owned hindexed howned⟩
  | created _ _ _ _ _ _ unused => exact ⟨hindexed.insert unused, howned.insert unused⟩
  | updated _ _ _ _ _ _ _ stored => exact ⟨hindexed.replace _, howned.replace stored⟩
  | deleted => exact ⟨hindexed.remove _, howned.remove _⟩
  | purged => exact ⟨hindexed.of_geofences rfl, howned.of_same rfl rfl⟩

namespace App

/-- The worlds that the service reaches from an empty store by requests and cleanups, one after
another. -/
inductive Reachable (app : App) (env : Surroundings) : World → Prop
  | start : Reachable app env (.start .empty)
  | request {w : World} (h : Reachable app env w) (req : Request) :
      Reachable app env ((app.handle req).run env w).2
  | cleanup {w : World} (h : Reachable app env w) :
      Reachable app env ((Jobs.cleanup app.retention).run env w).2

variable {app : App} {env : Surroundings} {w : World}

/-- A cleanup removes the reports of all tenants before its cutoff, if it gets that far. -/
theorem store_cleanup (env : Surroundings) (w : World) (policy : RetentionPolicy) :
    ((Jobs.cleanup policy).run env w).2.store = w.store ∨
      ∃ cutoff, ((Jobs.cleanup policy).run env w).2.store = w.store.purge none cutoff := by
  have hpurge : ((Jobs.cleanup policy).run env w).2.store =
      (Operation.run env w (.purge policy none)).store := by
    rw [Jobs.cleanup, Prog.run_bind, Operation.run]
    rcases (Tracker.purge policy none).run.run env w with ⟨_ | _ | _, w'⟩ <;> rfl
  rw [hpurge]
  exact Operation.store_purge env w policy none

/-- What every deed and every purge keeps of the store holds in every reachable world. -/
theorem Reachable.store_induction {P : Store → Prop} (h : app.Reachable env w) (hempty : P .empty)
    (hdeed : ∀ {req : Request} {w w' : World} {asked : Method} {resource : Option Resource}
      {result : Option (Except Refusal Response)},
      Deed app env req w asked resource result w' → P w.store → P w'.store)
    (hpurge : ∀ {s : Store} {cutoff : Instant}, P s → P (s.purge none cutoff)) : P w.store := by
  -- By induction on how the world was reached. Each request does one deed, and a cleanup is a purge
  -- for all tenants.
  induction h with
  | start => exact hempty
  | @request w _ req ih =>
    have hhandled := handle_deed app env req w
    rw [Prog.Ensures] at hhandled
    have hnamed : (named env req w).2.store = w.store := (named_same env req w).1
    generalize (app.handle req).run env w = out at hhandled ⊢
    obtain ⟨answer, w'⟩ := out
    cases hhandled with
    | options => exact ih
    | @answered _ w' deed =>
      have hkept : P w'.store := hdeed deed (hnamed ▸ ih)
      exact hkept
    | broken deed => exact hdeed deed (hnamed ▸ ih)
  | @cleanup w _ ih =>
    obtain hsame | ⟨cutoff, hstore⟩ := store_cleanup env w app.retention
    · exact hsame ▸ ih
    · rw [hstore]
      exact hpurge ih

/-- The store is indexed and owned in every reachable world. -/
theorem Reachable.indexed_owned (h : app.Reachable env w) : w.store.Indexed ∧ w.store.Owned :=
  h.store_induction (P := fun s => s.Indexed ∧ s.Owned) ⟨Store.indexed_empty, Store.owned_empty⟩
    (fun deed hkept => deed.indexed_owned hkept.1 hkept.2)
    fun hkept => ⟨hkept.1.of_geofences rfl, hkept.2.of_same rfl rfl⟩

end App

end Http

end Geofencing
