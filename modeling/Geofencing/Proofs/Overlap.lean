import Geofencing.Proofs.Retention
import Geofencing.Proofs.Revision
import Mathlib.Data.List.Induction
import Mathlib.Data.List.Infix

/-!
# Two changes of one geofence

A change of a geofence writes the whole geofence back as it was looked up, with the fields of the
request replaced. Between the two calls, another change can look up the same geofence. Then the one
that writes last puts the fields of the other one back to what they were: `Http.lost_update`.

This is all that can go wrong. `Http.Patches.Course` follows two requests through any interleaving:
first neither has written, then one has, and what the other one has looked up or will look up is
decided: what was written if they do not overlap, and what was there before if they do.
`Http.concurrent_patches` says so of the end.

How the result compares with the two changes in turn is a question about changes alone. It is
settled by `UpdateGeofence.InForce`: a change leaves in force, and keeps out of force, what it does
not mention (`UpdateGeofence.inForce_without_iff`).
-/

namespace Geofencing

/-! ## What a change leaves behind -/

namespace UpdateGeofence

variable {r first last : UpdateGeofence} {now : Instant} {g g' : Geofence}

/-- What a request sends and another one does not. -/
def without (r other : UpdateGeofence) : UpdateGeofence where
  name := if other.name.isNone then r.name else none
  kind := if other.kind.isNone then r.kind else none
  shape := if other.shape.isEmpty then r.shape else ⟨none, none, none, none⟩
  active := if other.active.isNone then r.active else none
  metadata := if other.metadata.isNone then r.metadata else none

/-- Everything that a request sends is so in a geofence. -/
@[mk_iff]
structure InForce (r : UpdateGeofence) (g : Geofence) : Prop where
  name : ∀ name, r.name = some name → g.name = name
  kind : ∀ kind, r.kind = some kind → g.kind = kind
  shape : ∀ shape, r.newShape = .ok (some shape) → g.shape = shape
  active : ∀ active, r.active = some active → g.active = active
  metadata : ∀ metadata, r.metadata = some metadata → g.metadata = some metadata

/-- A change replaces what is sent and keeps everything else. -/
theorem apply_eq_ok_iff : r.apply now g = .ok g' ↔ ∃ shape, r.newShape = .ok shape ∧
    g' = { g with
      shape := shape.getD g.shape
      name := r.name.getD g.name
      kind := r.kind.getD g.kind
      active := r.active.getD g.active
      metadata := r.metadata.orElse fun _ => g.metadata
      updatedAt := now } := by
  rw [apply]
  cases r.newShape with
  | error f => simp
  | ok shape => simp [eq_comm]

theorem newShape_without (r other : UpdateGeofence) :
    (r.without other).newShape = if other.shape.isEmpty then r.newShape else .ok none := by
  by_cases h : other.shape.isEmpty = true
  · simp only [newShape, without, if_pos h]
  · simp only [newShape, without, if_neg h]
    rfl

/-- Whether a shape is sent shows in the shape that replaces the old one. -/
theorem isEmpty_shape_iff {shape : Option Shape} (h : r.newShape = .ok shape) :
    r.shape.isEmpty = shape.isNone := by
  rw [newShape] at h
  split at h
  · rename_i hempty
    cases h
    rw [hempty, Option.isNone_none]
  · rename_i hsent
    cases hcolumns : Shape.ofColumns r.shape with
    | error f =>
      rw [hcolumns] at h
      cases h
    | ok new =>
      rw [hcolumns] at h
      cases h
      simpa using hsent

theorem inForce_apply (h : r.apply now g = .ok g') : r.InForce g' := by
  obtain ⟨shape, hshape, rfl⟩ := apply_eq_ok_iff.1 h
  constructor <;> intro _ hsent
  · simp [hsent]
  · simp [hsent]
  · cases hshape.symm.trans hsent
    simp
  · simp [hsent]
  · simp [hsent]

/-- A change neither brings about nor undoes what it does not mention. -/
theorem inForce_without_iff (h : last.apply now g = .ok g') :
    (r.without last).InForce g' ↔ (r.without last).InForce g := by
  obtain ⟨shape, hshape, rfl⟩ := apply_eq_ok_iff.1 h
  rw [inForce_iff, inForce_iff, newShape_without, isEmpty_shape_iff hshape]
  -- Field by field: one that the change sends is not asked about, and any other is kept.
  refine and_congr ?_ (and_congr ?_ (and_congr ?_ (and_congr ?_ ?_)))
  · cases hsent : last.name <;> simp [without, hsent]
  · cases hsent : last.kind <;> simp [without, hsent]
  · cases shape <;> simp
  · cases hsent : last.active <;> simp [without, hsent]
  · cases hsent : last.metadata <;> simp [without, hsent]

theorem InForce.without (h : r.InForce g) (other : UpdateGeofence) :
    (r.without other).InForce g := by
  have hsent {α : Type} {c : Prop} [Decidable c] {field : Option α} {value : α}
      (h : (if c then field else none) = some value) : field = some value :=
    (Option.ite_none_right_eq_some.1 h).2
  refine ⟨fun _ hv => h.name _ (hsent hv), fun _ hv => h.kind _ (hsent hv), fun shape hv => ?_,
    fun _ hv => h.active _ (hsent hv), fun _ hv => h.metadata _ (hsent hv)⟩
  rw [newShape_without] at hv
  split at hv
  · exact h.shape shape hv
  · cases hv

/-- A change overrides another one that had nothing of its own to change. -/
theorem apply_of_inForce {earlier : Instant} {g₁ : Geofence}
    (hfirst : first.apply earlier g = .ok g₁) (hlast : last.apply now g = .ok g')
    (h : (first.without last).InForce g) : last.apply now g₁ = .ok g' := by
  obtain ⟨shape, hshape, rfl⟩ := apply_eq_ok_iff.1 hlast
  obtain ⟨shape₁, hshape₁, rfl⟩ := apply_eq_ok_iff.1 hfirst
  rw [inForce_iff, newShape_without, isEmpty_shape_iff hshape] at h
  obtain ⟨hname, hkind, hsame, hactive, hmetadata⟩ := h
  refine apply_eq_ok_iff.2 ⟨shape, hshape, ?_⟩
  -- What the later request sends counts; otherwise the earlier one sent what was there already.
  have hkept {α : Type} {sent overridden : Option α} {old : α}
      (h : ∀ value, sent = none → overridden = some value → old = value) :
      sent.getD old = sent.getD (overridden.getD old) := by
    cases sent with
    | some _ => rfl
    | none =>
      cases overridden with
      | none => rfl
      | some value => exact h value rfl rfl
  have hmetadata' : (last.metadata.orElse fun _ => g.metadata) =
      last.metadata.orElse fun _ => first.metadata.orElse fun _ => g.metadata := by
    cases hl : last.metadata with
    | some _ => rfl
    | none =>
      cases hf : first.metadata with
      | none => rfl
      | some value => exact hmetadata value (by simp [UpdateGeofence.without, hl, hf])
  rw [Geofence.mk.injEq]
  exact ⟨rfl, rfl, hkept fun v hl hf => hname v (by simp [UpdateGeofence.without, hl, hf]),
    hkept fun v hl hf => hkind v (by simp [UpdateGeofence.without, hl, hf]),
    hkept fun v hl hf => hsame v (by rw [hl, hshape₁, hf]; rfl),
    hkept fun v hl hf => hactive v (by simp [UpdateGeofence.without, hl, hf]),
    hmetadata', rfl, rfl⟩

end UpdateGeofence

namespace Http

/-! ## Two requests -/

/-- Two requests of one tenant to change the same geofence. -/
structure Patches where
  /-- The application that both requests are sent to. -/
  app : App
  /-- What surrounds each of the two. -/
  env : Bool → Surroundings
  /-- The tenant of the geofence. -/
  tenant : Uuid
  /-- The geofence to change. -/
  id : Uuid
  /-- The two requests. -/
  request : Bool → Request
  /-- How each of them writes the identifier. -/
  segment : Bool → List Char
  /-- What the bodies ask for. -/
  change : Bool → UpdateGeofence
  method : ∀ k, (request k).method = .patch
  resource : ∀ k, Resource.ofSegments? (request k).target.segments = some (.geofence (segment k))
  names : ∀ k, segmentId? (segment k) = some id
  /-- Both callers are of the tenant. -/
  token : ∀ k, Handler.For app.verifier (request k) tenant
  /-- The bodies are read as the changes. -/
  reads : ∀ k, Handler.readBody UpdateGeofence.decoder (request k) = .ok (change k)

namespace Patches

/-- The two after some turns. -/
def after (c : Patches) (s : Store) (schedule : List Bool) : System Bool Response :=
  System.run ⟨fun k => ⟨c.env k, c.app.handle (c.request k), .start s⟩, s⟩ schedule

/-- At some time both had looked up the geofence, and neither had written it back. -/
def Overlap (c : Patches) (s : Store) (schedule : List Bool) : Prop :=
  ∃ before, before <+: schedule ∧ ∀ k, ((c.after s before).threads k).world.calls = [.find]

instance (c : Patches) (s : Store) (schedule : List Bool) : Decidable (c.Overlap s schedule) :=
  decidable_of_iff (∃ before ∈ schedule.inits,
      ∀ k, ((c.after s before).threads k).world.calls = [.find]) <| by
    simp only [List.mem_inits, Overlap]

/-- At some time one of the two had written the geofence back, and the other one had not. -/
def Leads (c : Patches) (s : Store) (schedule : List Bool) (first : Bool) : Prop :=
  ∃ before, before <+: schedule ∧
    .update ∈ ((c.after s before).threads first).world.calls ∧
    .update ∉ ((c.after s before).threads !first).world.calls

/-- What one of the two does to a geofence, whatever the time is. -/
def Changes (c : Patches) (k : Bool) (g g' : Geofence) : Prop :=
  ∃ now, (c.change k).apply now g = .ok g'

/-- What the two do to a geofence one after the other, whatever the times are. -/
def InTurn (c : Patches) (first : Bool) (g final : Geofence) : Prop :=
  ∃ mid, c.Changes first g mid ∧ c.Changes (!first) mid final

variable {c : Patches} {s : Store} {schedule : List Bool} {i k : Bool} {st : Revision}
  {g g₁ : Geofence}

/-- One of the two has come to a stage of its revision after some turns. -/
def At (c : Patches) (s : Store) (schedule : List Bool) (k : Bool) (st : Revision) : Prop :=
  ((c.after s schedule).threads k).Revising c.tenant c.id (c.Changes k)
    (fun r st => r.status = 200 → ∃ g, st = .written g) st

/-- What the request that writes last has looked up: what the other one wrote, or what was there
before both if they overlap. -/
def base (c : Patches) (s : Store) (schedule : List Bool) (g g₁ : Geofence) : Geofence :=
  if c.Overlap s schedule then g else g₁

/-! ### One more turn -/

theorem after_concat (c : Patches) (s : Store) (schedule : List Bool) (i : Bool) :
    c.after s (schedule ++ [i]) = (c.after s schedule).step i :=
  System.run_concat ..

theorem at_start (c : Patches) (s : Store) (k : Bool) : c.At s [] k .asking := by
  refine ⟨App.revises_handle (c.resource k) ?_
    (Api.revises_updateGeofence (c.token k) (c.names k) (c.reads k)), rfl⟩
  rw [App.asked, c.method k]
  rfl

/-- A turn is void for the other one. -/
theorem At.concat_of_ne (h : c.At s schedule k st) (hne : k ≠ i) :
    c.At s (schedule ++ [i]) k st := by
  rw [At, after_concat, System.threads_step_of_ne hne]
  exact h

theorem At.concat (h : c.At s schedule i st) :
    ∃ st', c.At s (schedule ++ [i]) i st' ∧ st.Turn c.tenant c.id (c.Changes i)
      (c.after s schedule).store st' (c.after s (schedule ++ [i])).store := by
  obtain ⟨st', hrevising, hturn⟩ := h.step (c.after s schedule).store
  refine ⟨st', ?_, ?_⟩
  · rw [At, after_concat, System.threads_step_self]
    exact hrevising
  · rw [after_concat, System.store_step]
    exact hturn

theorem overlap_concat : c.Overlap s (schedule ++ [i]) ↔ c.Overlap s schedule ∨
    ∀ k, ((c.after s (schedule ++ [i])).threads k).world.calls = [.find] := by
  constructor
  · rintro ⟨before, hbefore, hcalls⟩
    rcases List.prefix_concat_iff.1 hbefore with rfl | hprefix
    · exact .inr hcalls
    · exact .inl ⟨before, hprefix, hcalls⟩
  · rintro (⟨before, hprefix, hcalls⟩ | hcalls)
    · exact ⟨before, hprefix.trans (List.prefix_append _ _), hcalls⟩
    · exact ⟨_, List.prefix_rfl, hcalls⟩

/-- Two requests do not begin to overlap while one of them has not looked up the geofence. -/
theorem At.apart_concat (h : c.At s (schedule ++ [i]) k .asking) (hapart : ¬c.Overlap s schedule) :
    ¬c.Overlap s (schedule ++ [i]) := by
  rw [overlap_concat, or_iff_right hapart]
  intro hcalls
  have hnone := h.calls
  rw [Revision.Calls, hcalls k] at hnone
  cases hnone

/-- Nor do they begin to after one of them has written it back. -/
theorem At.overlap_concat_of_written (h : c.At s (schedule ++ [i]) k (.written g)) :
    c.Overlap s (schedule ++ [i]) ↔ c.Overlap s schedule := by
  rw [overlap_concat, or_iff_left]
  intro hcalls
  have hboth := h.calls
  rw [Revision.Calls, hcalls k] at hboth
  cases hboth

theorem At.leads (hone : c.At s schedule k (.written g₁))
    (htwo : c.At s schedule (!k) (.loaded g)) : c.Leads s schedule k := by
  have hboth : _ = [StoreMethod.update, .find] := hone.calls
  have hfind : _ = [StoreMethod.find] := htwo.calls
  exact ⟨schedule, List.prefix_rfl, by simp [hboth], by simp [hfind]⟩

theorem Leads.concat (h : c.Leads s schedule k) (i : Bool) : c.Leads s (schedule ++ [i]) k := by
  obtain ⟨before, hprefix, hcalls⟩ := h
  exact ⟨before, hprefix.trans (List.prefix_append _ _), hcalls⟩

/-! ## The course of two requests -/

/-- What two requests have come to after some turns, from a geofence on. -/
inductive Course (c : Patches) (s : Store) (g : Geofence) (schedule : List Bool) : Prop
  /-- One of them has failed. -/
  | failed {k : Bool} (stage : c.At s schedule k .failed)
  /-- Neither has written. -/
  | early (found : (c.after s schedule).store.find c.tenant c.id = some g)
      (stage : ∀ k, c.At s schedule k .asking ∧ ¬c.Overlap s schedule ∨
        c.At s schedule k (.loaded g))
  /-- One of them has written. -/
  | halfway {first : Bool} {g₁ : Geofence} (change : c.Changes first g g₁)
      (found : (c.after s schedule).store.find c.tenant c.id = some g₁)
      (one : c.At s schedule first (.written g₁))
      (two : c.At s schedule (!first) .asking ∧ ¬c.Overlap s schedule ∨
        c.At s schedule (!first) (.loaded (c.base s schedule g g₁)))
  /-- Both have written. -/
  | complete {first : Bool} {g₁ final : Geofence} (leads : c.Leads s schedule first)
      (change : c.Changes first g g₁)
      (change' : c.Changes (!first) (c.base s schedule g g₁) final)
      (found : (c.after s schedule).store.find c.tenant c.id = some final)
      (one : c.At s schedule first (.written g₁))
      (two : c.At s schedule (!first) (.written final))

/-- A geofence of the tenant under the identifier that the requests name. -/
def Own (c : Patches) (g : Geofence) : Prop := g.tenant = c.tenant ∧ g.id = c.id

theorem Changes.own (h : c.Changes k g g₁) (hown : c.Own g) : c.Own g₁ := by
  obtain ⟨now, happlied⟩ := h
  exact ⟨(UpdateGeofence.tenant_apply happlied).trans hown.1,
    (UpdateGeofence.id_apply happlied).trans hown.2⟩

theorem base_own (hown : c.Own g) (hown₁ : c.Own g₁) : c.Own (c.base s schedule g g₁) := by
  rw [base]
  split
  · exact hown
  · exact hown₁

/-- What is written back is found from then on. -/
theorem find_written {b : Store} (hown : c.Own g) (hfound : (b.find g.tenant g.id).isSome = true) :
    (b.replace g).find c.tenant c.id = some g := by
  rw [Store.find_replace hfound]
  exact if_pos hown

/-- A turn in which nothing is written before anything is. -/
private theorem course_of_early (hstore : (c.after s (schedule ++ [i])).store =
      (c.after s schedule).store)
    (found : (c.after s schedule).store.find c.tenant c.id = some g)
    (stage : ∀ k, c.At s schedule k .asking ∧ ¬c.Overlap s schedule ∨
      c.At s schedule k (.loaded g))
    (self : c.At s (schedule ++ [i]) i .asking ∧ ¬c.Overlap s (schedule ++ [i]) ∨
      c.At s (schedule ++ [i]) i (.loaded g)) : c.Course s g (schedule ++ [i]) := by
  refine .early (hstore ▸ found) fun k => ?_
  by_cases hk : k = i
  · rw [hk]
    exact self
  · obtain ⟨hasking, hapart⟩ | hloaded := stage k
    · have hasking' := hasking.concat_of_ne hk
      exact .inl ⟨hasking', hasking'.apart_concat hapart⟩
    · exact .inr (hloaded.concat_of_ne hk)

/-- The first one writes. Either the other one has not looked up the geofence, or they overlap. -/
private theorem course_of_written {b : Store} (hown : c.Own g) (change : c.Changes i g g₁)
    (hfound : (b.find g₁.tenant g₁.id).isSome = true)
    (hstore : (c.after s (schedule ++ [i])).store = b.replace g₁)
    (hloaded : c.At s schedule i (.loaded g)) (hwritten : c.At s (schedule ++ [i]) i (.written g₁))
    (stage : ∀ k, c.At s schedule k .asking ∧ ¬c.Overlap s schedule ∨
      c.At s schedule k (.loaded g)) : c.Course s g (schedule ++ [i]) := by
  have hne : (!i) ≠ i := by simp
  refine .halfway change (hstore ▸ find_written (change.own hown) hfound) hwritten ?_
  obtain ⟨hasking, hapart⟩ | hother := stage !i
  · have hasking' := hasking.concat_of_ne hne
    exact .inl ⟨hasking', hasking'.apart_concat hapart⟩
  · -- Both have loaded the geofence and neither has written, so from here on they overlap.
    have hoverlap : c.Overlap s schedule := by
      refine ⟨schedule, List.prefix_rfl, fun k => ?_⟩
      by_cases hk : k = i
      · rw [hk]
        exact hloaded.calls
      · rw [Bool.eq_not.2 hk]
        exact hother.calls
    rw [base, if_pos (hwritten.overlap_concat_of_written.2 hoverlap)]
    exact .inr (hother.concat_of_ne hne)

/-- A turn after something was written does not change what the last one has looked up. -/
theorem At.base_concat (h : c.At s (schedule ++ [i]) k (.written g₁)) (g g₂ : Geofence) :
    c.base s (schedule ++ [i]) g g₂ = c.base s schedule g g₂ := by
  simp only [base, h.overlap_concat_of_written]

/-- One more turn. -/
theorem Course.concat (hown : c.Own g) (h : c.Course s g schedule) (i : Bool) :
    c.Course s g (schedule ++ [i]) := by
  generalize hstore : (c.after s (schedule ++ [i])).store = s'
  -- A turn of one of the two; `Revision.Turn` lists what it can do.
  have hturn : ∀ {st}, c.At s schedule i st → ∃ st', c.At s (schedule ++ [i]) i st' ∧
      st.Turn c.tenant c.id (c.Changes i) (c.after s schedule).store st' s' := by
    intro st hst
    rw [← hstore]
    exact hst.concat
  cases h with
  | @failed k stage =>
    -- What has failed stays so, whatever the other one does.
    by_cases hk : k = i
    · subst hk
      obtain ⟨st', hst', hturn⟩ := hturn stage
      cases hturn <;> exact .failed hst'
    · exact .failed (stage.concat_of_ne hk)
  | early found stage =>
    obtain ⟨hasking, hapart⟩ | hloaded := stage i
    · obtain ⟨st', hst', hturn⟩ := hturn hasking
      cases hturn with
      | idle => exact course_of_early hstore found stage (.inl ⟨hst', hst'.apart_concat hapart⟩)
      | fail => exact .failed hst'
      | load found' =>
        cases found.symm.trans found'
        exact course_of_early hstore found stage (.inr hst')
    · obtain ⟨st', hst', hturn⟩ := hturn hloaded
      cases hturn with
      | idle => exact course_of_early hstore found stage (.inr hst')
      | fail => exact .failed hst'
      | write change hfound =>
        exact course_of_written hown change hfound hstore hloaded hst' stage
  | @halfway first g₁ change found one two =>
    by_cases hfirst : first = i
    · -- The one that has written is done with the store.
      subst hfirst
      obtain ⟨st', hst', hturn⟩ := hturn one
      cases hturn with
      | fail => exact .failed hst'
      | idle =>
        refine .halfway change (hstore ▸ found) hst' ?_
        rw [hst'.overlap_concat_of_written, hst'.base_concat]
        have hne : (!first) ≠ first := by simp
        exact two.imp (And.imp_left (·.concat_of_ne hne)) (·.concat_of_ne hne)
    · obtain rfl : i = !first := Bool.eq_not.2 (Ne.symm hfirst)
      have hone := one.concat_of_ne hfirst
      obtain ⟨hasking, hapart⟩ | hloaded := two
      · obtain ⟨st', hst', hturn⟩ := hturn hasking
        cases hturn with
        | idle =>
          exact .halfway change (hstore ▸ found) hone (.inl ⟨hst', hst'.apart_concat hapart⟩)
        | fail => exact .failed hst'
        | load found' =>
          -- The first one was done before the second one looked.
          cases found.symm.trans found'
          refine .halfway change (hstore ▸ found) hone (.inr ?_)
          rw [hone.base_concat, base, if_neg hapart]
          exact hst'
      · obtain ⟨st', hst', hturn⟩ := hturn hloaded
        rw [← hone.base_concat] at hturn
        cases hturn with
        | idle => exact .halfway change (hstore ▸ found) hone (.inr hst')
        | fail => exact .failed hst'
        | write change' hfound =>
          have hown' := change'.own (base_own hown (change.own hown))
          exact .complete ((one.leads hloaded).concat _) change change'
            (hstore ▸ find_written hown' hfound) hone hst'
  | @complete first g₁ final leads change change' found one two =>
    -- Nothing is left to do for either of them.
    by_cases hfirst : first = i
    · subst hfirst
      obtain ⟨st', hst', hturn⟩ := hturn one
      cases hturn with
      | fail => exact .failed hst'
      | idle =>
        rw [← hst'.base_concat] at change'
        exact .complete (leads.concat _) change change' (hstore ▸ found) hst'
          (two.concat_of_ne (by simp))
    · obtain rfl : i = !first := Bool.eq_not.2 (Ne.symm hfirst)
      obtain ⟨st', hst', hturn⟩ := hturn two
      cases hturn with
      | fail => exact .failed hst'
      | idle =>
        rw [← hst'.base_concat] at change'
        exact .complete (leads.concat _) change change' (hstore ▸ found)
          (one.concat_of_ne hfirst) hst'

/-- Two requests are always on their course. -/
theorem course (hown : c.Own g) (hfound : s.find c.tenant c.id = some g) (schedule : List Bool) :
    c.Course s g schedule := by
  induction schedule using List.reverseRecOn with
  | nil =>
    refine .early hfound fun k => .inl ⟨c.at_start s k, ?_⟩
    rintro ⟨before, hbefore, hcalls⟩
    rw [List.prefix_nil.1 hbefore] at hcalls
    cases hcalls k
  | append_singleton schedule i ih => exact ih.concat hown i

/-- A request that was answered with success has written. -/
theorem At.exists_written (h : c.At s schedule k st)
    (hok : ((c.after s schedule).returned k).map Response.status = some 200) :
    ∃ g, st = .written g := by
  obtain ⟨r, hreturned, hstatus⟩ := Option.map_eq_some_iff.1 hok
  exact h.of_returned hreturned hstatus

/-- After both changes, what only one of them sends is in force. -/
theorem InTurn.inForce {first : Bool} {final : Geofence} (h : c.InTurn first g final) (k : Bool) :
    ((c.change k).without (c.change !k)).InForce final := by
  obtain ⟨mid, ⟨now, hfirst⟩, ⟨later, hlast⟩⟩ := h
  by_cases hk : k = first
  · -- The second change does not mention it, so it stays as the first one left it.
    subst hk
    exact (UpdateGeofence.inForce_without_iff hlast).2
      ((UpdateGeofence.inForce_apply hfirst).without _)
  · obtain rfl : k = !first := Bool.eq_not.2 hk
    exact (UpdateGeofence.inForce_apply hlast).without _

end Patches

/-- Two requests change the same geofence, their store calls interleaved in any way, and both
succeed. If they do not overlap, the geofence is left as by the two changes in turn, the one that
was written first first, and what only one of them sends is in force. If they overlap, it is left as
by the change of the last one alone. This is a result of the changes in turn, in whichever order,
exactly if everything that only the first one sends was in force before. -/
theorem concurrent_patches (c : Patches) (s : Store) (schedule : List Bool) (g : Geofence)
    (hindexed : s.Indexed) (hfound : s.find c.tenant c.id = some g)
    (hok : ∀ k, ((c.after s schedule).returned k).map Response.status = some 200) :
    ∃ first final, c.Leads s schedule first ∧
      (c.after s schedule).store.find c.tenant c.id = some final ∧
      (¬c.Overlap s schedule → c.InTurn first g final ∧
        ∀ k, ((c.change k).without (c.change !k)).InForce final) ∧
      (c.Overlap s schedule → c.Changes (!first) g final ∧
        ((∃ order, c.InTurn order g final) ↔
          ((c.change first).without (c.change !first)).InForce g)) := by
  obtain ⟨hstored, htenant⟩ := Store.find_eq_some_iff.1 hfound
  have hown : c.Own g := ⟨htenant, hindexed.id_eq hstored⟩
  cases Patches.course hown hfound schedule with
  | failed stage => obtain ⟨_, ⟨⟩⟩ := stage.exists_written (hok _)
  | early _ stage =>
    obtain ⟨hasking, -⟩ | hloaded := stage true
    · obtain ⟨_, ⟨⟩⟩ := hasking.exists_written (hok _)
    · obtain ⟨_, ⟨⟩⟩ := hloaded.exists_written (hok _)
  | halfway _ _ _ two =>
    obtain ⟨hasking, -⟩ | hloaded := two
    · obtain ⟨_, ⟨⟩⟩ := hasking.exists_written (hok _)
    · obtain ⟨_, ⟨⟩⟩ := hloaded.exists_written (hok _)
  | @complete first g₁ final leads change change' found =>
    refine ⟨first, final, leads, found, fun hapart => ?_, fun hoverlap => ?_⟩
    · rw [Patches.base, if_neg hapart] at change'
      have hinTurn : c.InTurn first g final := ⟨g₁, change, change'⟩
      exact ⟨hinTurn, hinTurn.inForce⟩
    · rw [Patches.base, if_pos hoverlap] at change'
      obtain ⟨earlier, hfirst⟩ := change
      obtain ⟨now, hlast⟩ := change'
      refine ⟨⟨now, hlast⟩, fun ⟨_, hinTurn⟩ => ?_, fun hinForce => ?_⟩
      · -- In either order, what only the first one sends ends up in force, and the last one alone
        -- does not bring it about.
        exact (UpdateGeofence.inForce_without_iff hlast).1 (hinTurn.inForce first)
      · have hoverridden := UpdateGeofence.apply_of_inForce hfirst hlast hinForce
        exact ⟨first, g₁, ⟨earlier, hfirst⟩, now, hoverridden⟩

end Http

/-! ### The museum renovates -/

namespace Campus

/-- The hall of the museum. -/
def hall : Geofence :=
  { id := .ofNat 101, tenant := museum, name := "Hall", kind := .custom
    shape := .circle ⟨1, 1⟩ 5, active := true, metadata := none
    createdAt := ⟨0, 0⟩, updatedAt := ⟨0, 0⟩ }

/-- A store with the hall. -/
def site : Store := ⟨[(hall.id, hall)], [], []⟩

/-- How the hall is named in a path. -/
def hallSegment : List Char := hall.id.toText.toList

/-- The museum asks for a change of its hall. -/
def altering (body : String) : Http.Request :=
  { opening with
    method := .patch
    target := ⟨["".toList, "api".toList, "v1".toList, "geofences".toList, hallSegment], []⟩
    body := Utf8.encode body.toList }

/-- What a body asks for, if it can be read. -/
def wanted (req : Http.Request) : UpdateGeofence :=
  (Http.Handler.readBody UpdateGeofence.decoder req).toOption.getD
    ⟨none, none, ⟨none, none, none, none⟩, none, none⟩

theorem readBody_eq_wanted {req : Http.Request}
    (h : (Http.Handler.readBody UpdateGeofence.decoder req).toOption.isSome = true) :
    Http.Handler.readBody UpdateGeofence.decoder req = .ok (wanted req) := by
  unfold wanted
  cases hread : Http.Handler.readBody UpdateGeofence.decoder req with
  | error refusal =>
    rw [hread] at h
    cases h
  | ok r => rfl

/-- One request renames the hall, the other one takes it out of use. -/
def alteration (k : Bool) : Http.Request :=
  altering (if k then "\x7b\"name\":\"Lobby\"\x7d" else "\x7b\"active\":false\x7d")

/-- The hall is renamed and taken out of use by two requests. -/
def renovation : Http.Patches where
  app := app
  env _ := standing 2
  tenant := museum
  id := hall.id
  request := alteration
  segment _ := hallSegment
  change k := wanted (alteration k)
  method _ := rfl
  resource := by decide +kernel
  names := by decide +kernel
  token _ := Http.Handler.for_of_identify (Caller.identify_eq_ok_iff.2 proven_overview)
  reads k := readBody_eq_wanted (by revert k; decide +kernel)

/-- The two requests take turns. -/
def alternating : List Bool := (List.replicate 6 [true, false]).flatten

/-- Both requests succeed, and the hall keeps its name. -/
theorem renovated :
    (∀ k, ((renovation.after site alternating).returned k).map Http.Response.status = some 200) ∧
      ((renovation.after site alternating).store.find museum hall.id).map Geofence.name =
        some "Hall" := by
  have hafter : renovation.after site alternating = System.run
      ⟨fun k => ⟨standing 2, app.handle (alteration k), .start site⟩, site⟩ alternating := rfl
  have hhandle : ∀ k, app.handle (alteration k) = app.around (alteration k) (.geofence hallSegment)
      (Http.Api.updateGeofence app.verifier hallSegment (alteration k)) :=
    fun k => Http.App.handle_eq_around (renovation.resource k) rfl
  have hcaller : ∀ k, Http.Handler.caller app.verifier (alteration k) = _ :=
    fun k => caller_opening rfl
  simp only [hafter, hhandle, Http.Api.updateGeofence, hcaller]
  decide +kernel

/-- What only the request for a new name sends is not in force at the end. -/
theorem not_renamed {final : Geofence}
    (h : (renovation.after site alternating).store.find museum hall.id = some final) :
    ¬((renovation.change true).without (renovation.change false)).InForce final := by
  intro hinForce
  have hkept : final.name = "Hall" := by
    simpa [h] using renovated.2
  have hlobby : final.name = "Lobby" := hinForce.name "Lobby" (by decide +kernel)
  rw [hlobby] at hkept
  exact absurd hkept (by decide)

end Campus

/-- Both requests succeed, but what one of them has changed is lost. -/
theorem Http.lost_update :
    let c := Campus.renovation
    let sys := c.after Campus.site Campus.alternating
    Campus.site.find c.tenant c.id = some Campus.hall ∧
      (∀ k, (sys.returned k).map Response.status = some 200) ∧
      ∃ final, sys.store.find c.tenant c.id = some final ∧
        ∀ first, ¬c.InTurn first Campus.hall final := by
  obtain ⟨hok, hname⟩ := Campus.renovated
  obtain ⟨final, hfinal, -⟩ := Option.map_eq_some_iff.1 hname
  exact ⟨rfl, hok, final, hfinal, fun _ hinTurn =>
    Campus.not_renamed hfinal (hinTurn.inForce true)⟩

/-- The two requests overlap, and the hall is left as the last one of them wanted it alone. -/
theorem Http.concurrent_patches_campus :
    let c := Campus.renovation
    c.Overlap Campus.site Campus.alternating ∧
      ∃ first final, c.Leads Campus.site Campus.alternating first ∧
        (c.after Campus.site Campus.alternating).store.find c.tenant c.id = some final ∧
        c.Changes (!first) Campus.hall final := by
  obtain ⟨first, final, hleads, hfinal, hapart, hoverlap⟩ := concurrent_patches Campus.renovation
    Campus.site Campus.alternating Campus.hall
    ⟨by decide, fun _ h => by rw [List.mem_singleton.1 h]⟩ rfl Campus.renovated.1
  have hraced : Campus.renovation.Overlap Campus.site Campus.alternating := by
    by_contra hnot
    exact Campus.not_renamed hfinal ((hapart hnot).2 true)
  exact ⟨hraced, first, final, hleads, hfinal, (hoverlap hraced).1⟩

end Geofencing
