import Geofencing.Proofs.Columns
import Geofencing.Proofs.Overlap

/-!
# Changing a geofence in part

A request for a change names the fields that it replaces, and the four fields of a shape count as
one. The geofence is changed in place, one field after the other, but a shape that is none is found
out before anything is replaced: `UpdateGeofence.run_amend` says that the change is made as a whole
or not at all. Changes can then be looked at as functions.

* `UpdateGeofence.Amends`: what a change keeps and what it replaces.
* `UpdateGeofence.apply_followedBy`: two changes in turn are one change.
* `UpdateGeofence.partial_update`: all of it.
-/

namespace Geofencing

namespace UpdateGeofence

variable {r s : UpdateGeofence} {now later : Instant} {g g' g'' : Geofence}

/-- Change a geofence in place, field by field. -/
def amend (r : UpdateGeofence) (now : Instant) : ExceptT ShapeFault (StateM Geofence) Unit := do
  if let some shape ← ExceptT.mk (pure r.newShape) then
    modify fun g => { g with shape }
  if let some name := r.name then
    modify fun g => { g with name }
  if let some kind := r.kind then
    modify fun g => { g with kind }
  if let some active := r.active then
    modify fun g => { g with active }
  if let some metadata := r.metadata then
    modify fun g => { g with metadata := some metadata }
  modify fun g => { g with updatedAt := now }

/-- What two requests ask for in turn: of each field what the second one sends, or else what the
first one does. The fields of a shape go together. -/
def followedBy (r s : UpdateGeofence) : UpdateGeofence where
  name := s.name.orElse fun _ => r.name
  kind := s.kind.orElse fun _ => r.kind
  shape := if s.shape.isEmpty then r.shape else s.shape
  active := s.active.orElse fun _ => r.active
  metadata := s.metadata.orElse fun _ => r.metadata

/-- A change from one geofence to another is what a request asks for and nothing else, the time of
the change aside. -/
structure Amends (r : UpdateGeofence) (g g' : Geofence) : Prop where
  id : g'.id = g.id
  tenant : g'.tenant = g.tenant
  createdAt : g'.createdAt = g.createdAt
  /-- What the request leaves out stays, field by field. -/
  name : r.name = none → g'.name = g.name
  kind : r.kind = none → g'.kind = g.kind
  active : r.active = none → g'.active = g.active
  metadata : r.metadata = none → g'.metadata = g.metadata
  shape : r.shape.isEmpty = true → g'.shape = g.shape
  /-- A shape is replaced as a whole, by one that can be evaluated. -/
  reshaped : r.shape.isEmpty = false → g'.shape.columns = r.shape ∧ g'.shape.check = .ok ()
  /-- What the request asks for is there. -/
  inForce : r.InForce g'

/-- In place, a change that is refused has touched nothing, and any other one has made all
replacements. -/
theorem run_amend : (r.amend now).run.run g = match r.apply now g with
    | .error f => (.error f, g)
    | .ok g' => (.ok (), g') := by
  obtain ⟨name, kind, shape, active, metadata⟩ := r
  unfold amend apply
  generalize newShape _ = found
  rcases found with f | _ | new
  · rfl
  -- Once the shape is known, nothing can fail, and each field is written or left alone.
  all_goals
    cases name <;> cases kind <;> cases active <;> cases metadata <;> rfl

theorem newShape_eq_ok_iff {shape : Option Shape} : r.newShape = .ok shape ↔
    r.shape.isEmpty = true ∧ shape = none ∨
      r.shape.isEmpty = false ∧ ∃ new, Shape.ofColumns r.shape = .ok new ∧ shape = some new := by
  rw [newShape]
  cases r.shape.isEmpty with
  | true => simp [eq_comm]
  | false => cases Shape.ofColumns r.shape <;> simp [Except.map, eq_comm]

theorem amends_apply (h : r.apply now g = .ok g') : r.Amends g g' := by
  have hinForce := inForce_apply h
  obtain ⟨shape, hshape, rfl⟩ := apply_eq_ok_iff.1 h
  -- What is not mentioned falls back on the old value, field by field.
  refine {
    id := rfl
    tenant := rfl
    createdAt := rfl
    name := fun hname => by simp [hname]
    kind := fun hkind => by simp [hkind]
    active := fun hactive => by simp [hactive]
    metadata := fun hmetadata => by simp [hmetadata]
    shape := fun hempty => ?_
    reshaped := fun hsent => ?_
    inForce := hinForce }
  · rcases newShape_eq_ok_iff.1 hshape with ⟨-, rfl⟩ | ⟨hsent, -⟩
    · rfl
    · simp [hempty] at hsent
  · rcases newShape_eq_ok_iff.1 hshape with ⟨hempty, -⟩ | ⟨-, new, hnew, rfl⟩
    · simp [hsent] at hempty
    · obtain ⟨hcolumns, -, hcheck⟩ := Shape.ofColumns_eq_ok_iff.1 hnew
      exact ⟨hcolumns, hcheck⟩

/-- What was replaced once is replaced by the same. -/
theorem apply_apply (h : r.apply now g = .ok g') (again : Instant) :
    r.apply again g' = .ok { g' with updatedAt := again } := by
  obtain ⟨shape, hshape, rfl⟩ := apply_eq_ok_iff.1 h
  refine apply_eq_ok_iff.2 ⟨shape, hshape, ?_⟩
  have hsame {α : Type} (sent : Option α) (old : α) :
      sent.getD old = sent.getD (sent.getD old) := by
    cases sent <;> rfl
  rw [Geofence.mk.injEq]
  refine ⟨rfl, rfl, hsame _ _, hsame _ _, hsame _ _, hsame _ _, ?_, rfl, rfl⟩
  cases r.metadata <;> rfl

theorem newShape_followedBy (r s : UpdateGeofence) :
    (r.followedBy s).newShape = if s.shape.isEmpty then r.newShape else s.newShape := by
  by_cases h : s.shape.isEmpty = true
  · simp only [newShape, followedBy, if_pos h]
  · simp only [newShape, followedBy, if_neg h]

/-- Two changes in turn are the change that asks for both. -/
theorem apply_followedBy (hr : r.apply now g = .ok g') (hs : s.apply later g' = .ok g'')
    (t : Instant) : (r.followedBy s).apply t g = .ok { g'' with updatedAt := t } := by
  obtain ⟨shape, hshape, rfl⟩ := apply_eq_ok_iff.1 hr
  obtain ⟨shape', hshape', rfl⟩ := apply_eq_ok_iff.1 hs
  -- Whether the second request sends a shape shows in what it replaces the old one by.
  have hboth : (r.followedBy s).newShape = .ok (shape'.orElse fun _ => shape) := by
    rw [newShape_followedBy, isEmpty_shape_iff hshape', hshape, hshape']
    cases shape' <;> rfl
  refine apply_eq_ok_iff.2 ⟨_, hboth, ?_⟩
  have hlast {α : Type} (first last : Option α) (old : α) :
      last.getD (first.getD old) = (last.orElse fun _ => first).getD old := by
    cases last <;> rfl
  rw [Geofence.mk.injEq]
  refine ⟨rfl, rfl, hlast _ _ _, hlast _ _ _, hlast _ _ _, hlast _ _ _, ?_, rfl, rfl⟩
  simp only [followedBy]
  cases s.metadata <;> rfl

/-- A change that is refused leaves a geofence as it is. A change that is made keeps what it does
not mention, makes no difference when it is repeated, and goes together with a second one: the
request that asks for both succeeds as well and comes to the same. -/
theorem partial_update (r s : UpdateGeofence) (g : Geofence) (now : Instant) :
    (∀ f, r.apply now g = .error f → (r.amend now).run.run g = (.error f, g)) ∧
    ∀ g', r.apply now g = .ok g' →
      (r.amend now).run.run g = (.ok (), g') ∧ r.Amends g g' ∧
      (∀ again, r.apply again g' = .ok { g' with updatedAt := again }) ∧
      ∀ later g'', s.apply later g' = .ok g'' →
        ∀ t, (r.followedBy s).apply t g = .ok { g'' with updatedAt := t } := by
  refine ⟨fun f hf => ?_, fun g' hg' => ⟨?_, amends_apply hg', apply_apply hg', ?_⟩⟩
  · rw [run_amend, hf]
  · rw [run_amend, hg']
  · exact fun later g'' hg'' => apply_followedBy hg' hg''

end UpdateGeofence

/-! ### In the garden -/

namespace Campus

/-- Turn an area into a circle around the fountain. -/
def rounding : UpdateGeofence :=
  { name := none, kind := none, shape := ⟨some 24.7136, some 46.6753, some 200.0, none⟩
    active := none, metadata := some (.str "fountain") }

/-- Close an area under another name. -/
def closing : UpdateGeofence :=
  { name := some "Old garden", kind := none, shape := ⟨none, none, none, none⟩
    active := some false, metadata := none }

/-- Move an area, without saying how far it reaches. -/
def moving : UpdateGeofence :=
  { closing with shape := ⟨some 24.7136, some 46.6753, none, none⟩ }

end Campus

open Campus in
/-- Rounding the grounds and then closing them is one change. Moving them is refused, and they keep
their name. -/
theorem UpdateGeofence.partial_update_campus :
    (moving.amend ⟨1, 0⟩).run.run grounds = (.error .mixed, grounds) ∧
    ∃ g' g'', rounding.apply ⟨1, 0⟩ grounds = .ok g' ∧ rounding.Amends grounds g' ∧
      rounding.apply ⟨4, 0⟩ g' = .ok { g' with updatedAt := ⟨4, 0⟩ } ∧
      closing.apply ⟨2, 0⟩ g' = .ok g'' ∧
      (rounding.followedBy closing).apply ⟨3, 0⟩ grounds =
        .ok { g'' with updatedAt := ⟨3, 0⟩ } := by
  have hcentered : (Shape.circle ⟨24.7136, 46.6753⟩ 200.0).Centered := by
    unfold Shape.Centered Coordinate.InRange
    decide +kernel
  have hcheck : (Shape.circle ⟨24.7136, 46.6753⟩ 200.0).check = .ok () := by decide +kernel
  have hshape : rounding.newShape = .ok (some (.circle ⟨24.7136, 46.6753⟩ 200.0)) :=
    newShape_eq_ok_iff.2 (.inr ⟨rfl, _, Shape.ofColumns_columns hcentered hcheck, rfl⟩)
  have hrounded := apply_eq_ok_iff.2 ⟨_, hshape, (rfl : _ = { grounds with
    shape := .circle ⟨24.7136, 46.6753⟩ 200.0, metadata := some (.str "fountain")
    updatedAt := ⟨1, 0⟩ })⟩
  obtain ⟨-, hamends, hagain, hthen⟩ :=
    (partial_update rounding closing grounds ⟨1, 0⟩).2 _ hrounded
  refine ⟨(partial_update moving closing grounds ⟨1, 0⟩).1 .mixed rfl, _, _, hrounded, hamends,
    hagain ⟨4, 0⟩, rfl, hthen _ _ rfl ⟨3, 0⟩⟩

end Geofencing
