import Geofencing.Proofs.Tables
import Mathlib.Data.List.Nodup

/-!
# Rows of a tenant

`Store.SameRows` says that two stores hold the same rows of certain tenants. A call for one tenant

* is answered alike by stores that hold the same rows of that tenant (`Store.SameRows.reply_eq`),
* makes the same changes to these rows (`Store.SameRows.after`),
* and leaves the rows of all other tenants alone (`Store.sameRows_after`).

Some calls look beyond the tenant: listings depend on how geofences are stored, the names of events
are looked up by identifier alone, and deleting a geofence removes the events about it whatever
their tenant. For these `StoreCall.delicate` calls the store has to be in order.
-/

namespace Geofencing

namespace StoreCall

/-- The tenant that a call is for. -/
def tenant? : StoreCall → Option Uuid
  | .findActive tenant | .find tenant _ | .list tenant _ | .delete tenant _ | .latest tenant _
  | .markProcessed tenant _ _ | .listEvents tenant _ | .countEvents tenant _ => some tenant
  | .create g | .update g => some g.tenant
  | .insertReport r => some r.tenant
  | .insertEvent e => some e.tenant
  | .deleteBefore scope _ => scope

/-- Whether a call may change the store. -/
def writes : StoreCall → Bool
  | .create _ | .update _ | .delete _ _ | .insertReport _ | .deleteBefore _ _ | .insertEvent _
  | .markProcessed _ _ _ => true
  | .findActive _ | .find _ _ | .list _ _ | .latest _ _ | .listEvents _ _
  | .countEvents _ _ => false

/-- Whether a call depends on more than the rows of its tenant, unless the store is in order. -/
def delicate : StoreCall → Bool
  | .findActive _ | .list _ _ | .create _ | .delete _ _ | .listEvents _ _ => true
  | .find _ _ | .update _ | .latest _ _ | .insertReport _ | .deleteBefore _ _ | .insertEvent _
  | .markProcessed _ _ _ | .countEvents _ _ => false

end StoreCall

namespace Store

variable {s s' s₁ s₂ s₃ : Store} {call : StoreCall} {tenant : Uuid} {of : Uuid → Bool}

/-! ## What a call does -/

/-- What the store answers to a call. -/
def reply (s : Store) (call : StoreCall) : Except DomainError call.Value :=
  (s.perform call).map Prod.fst

/-- The store after a call. -/
def after (s : Store) (call : StoreCall) : Store :=
  match s.perform call with
  | .ok (_, s') => s'
  | .error _ => s

/-- A geofence is added unless its identifier is taken. -/
theorem after_create (s : Store) (g : Geofence) :
    s.after (.create g) = if (s.geofence? g.id).isSome then s else s.insert g := by
  rw [after, perform]
  cases (s.geofence? g.id).isSome <;> rfl

/-- A geofence is replaced if its tenant finds it. -/
theorem after_update (s : Store) (g : Geofence) :
    s.after (.update g) = if (s.find g.tenant g.id).isSome then s.replace g else s := by
  rw [after, perform]
  cases (s.find g.tenant g.id).isSome <;> rfl

/-- A geofence is removed if its tenant finds it. -/
theorem after_delete (s : Store) (tenant id : Uuid) :
    s.after (.delete tenant id) = if (s.find tenant id).isSome then s.remove id else s := by
  rw [after, perform]
  cases (s.find tenant id).isSome <;> rfl

/-- The first event of the tenant with the identifier is marked, if there is one. -/
theorem after_markProcessed (s : Store) (tenant id : Uuid) (t : Instant) :
    s.after (.markProcessed tenant id t) =
      { s with events := (markFirst tenant id t s.events).getD s.events } := by
  rw [after, perform]
  cases markFirst tenant id t s.events <;> rfl

/-- A mark without an event fails, and the error tells which event is missing. -/
theorem reply_markProcessed (s : Store) (tenant id : Uuid) (t : Instant) :
    s.reply (.markProcessed tenant id t) =
      if (markFirst tenant id t s.events).isSome then .ok ()
      else .error (.notFound ("geofence event " ++ id.toText)) := by
  rw [reply, perform]
  cases markFirst tenant id t s.events <;> rfl

/-- An event that is looked up by its tenant is of that tenant. -/
private theorem tenant_of_isEvent {id : Uuid} {e : Event} (h : isEvent tenant id e = true) :
    e.tenant = tenant := by
  simp only [isEvent, Bool.and_eq_true, beq_iff_eq] at h
  exact h.2

/-- A call that only reads leaves the store as it is. -/
theorem after_of_reads (h : call.writes = false) : s.after call = s := by
  cases call with
  | findActive | find | list | latest | listEvents | countEvents => rfl
  | create | update | delete | insertReport | deleteBefore | insertEvent | markProcessed => cases h

/-! ## Rows of certain tenants -/

/-- Two stores hold the same rows of certain tenants. -/
structure SameRows (of : Uuid → Bool) (s s' : Store) : Prop where
  /-- The same geofences, under the same identifiers. -/
  geofences : ∀ id, (s.geofence? id).filter (fun g => of g.tenant) =
    (s'.geofence? id).filter fun g => of g.tenant
  /-- The same reports, in the same order. -/
  reports : (s.reports.filter fun r => of r.tenant) = s'.reports.filter fun r => of r.tenant
  /-- The same events, in the same order. -/
  events : (s.events.filter fun e => of e.tenant) = s'.events.filter fun e => of e.tenant

namespace SameRows

theorem refl (of : Uuid → Bool) (s : Store) : SameRows of s s :=
  ⟨fun _ => rfl, rfl, rfl⟩

theorem trans (h : SameRows of s₁ s₂) (h' : SameRows of s₂ s₃) : SameRows of s₁ s₃ :=
  ⟨fun id => (h.geofences id).trans (h'.geofences id), h.reports.trans h'.reports,
    h.events.trans h'.events⟩

/-- A tenant finds the same geofences. -/
theorem find_eq (h : SameRows (· == tenant) s s') (id : Uuid) :
    s.find tenant id = s'.find tenant id :=
  h.geofences id

end SameRows

/-! ### Other tenants -/

/-- A geofence of another tenant is not among the rows. -/
private theorem filter_other {g : Geofence} (htenant : g.tenant = tenant)
    (hof : of tenant = false) : (some g).filter (fun g => of g.tenant) = none :=
  Option.filter_some_neg (htenant ▸ hof)

/-- A call for one tenant leaves the rows of other tenants alone. -/
theorem sameRows_after (hcall : call.tenant? = some tenant) (hof : of tenant = false)
    (howned : call.delicate = true → s.Owned) : SameRows of s (s.after call) := by
  cases call with
  | findActive | find | list | latest | listEvents | countEvents => exact .refl of s
  | create g =>
    cases hcall
    rw [after_create]
    split
    · exact .refl of s
    · -- Nothing was stored under the identifier, and what is stored there now is the tenant's.
      rename_i hunused
      have hnew : s.geofence? g.id = none := by simpa using hunused
      refine ⟨fun id => ?_, rfl, rfl⟩
      rw [geofence?_insert hnew]
      split
      · rename_i hid
        rw [hid, hnew, filter_other rfl hof]
        rfl
      · rfl
  | update g =>
    cases hcall
    rw [after_update]
    split
    · -- The geofence that goes and the one that comes are both of the tenant.
      rename_i hfound
      obtain ⟨old, hold⟩ := Option.isSome_iff_exists.1 hfound
      obtain ⟨hstored, htenant⟩ := find_eq_some_iff.1 hold
      refine ⟨fun id => ?_, rfl, rfl⟩
      rw [geofence?_replace]
      split
      · rename_i hid
        rw [hid, hstored, Option.map_some, filter_other htenant hof, filter_other rfl hof]
      · rfl
    · exact .refl of s
  | delete t id =>
    cases hcall
    rw [after_delete]
    split
    · rename_i hfound
      obtain ⟨old, hold⟩ := Option.isSome_iff_exists.1 hfound
      obtain ⟨hstored, htenant⟩ := find_eq_some_iff.1 hold
      refine ⟨fun id' => ?_, rfl, ?_⟩
      · rw [geofence?_remove]
        split
        · rename_i hid
          rw [hid, hstored, filter_other htenant hof]
          rfl
        · rfl
      · -- Events about the geofence are its tenant's own.
        change _ = (s.events.filter _).filter _
        rw [List.filter_filter]
        refine List.filter_congr fun e he => ?_
        by_cases hid : e.geofence = id
        · obtain ⟨g, hg, howner⟩ := (howned rfl).exists_geofence he
          rw [hid, hstored, Option.some_inj] at hg
          subst hg
          simp [← howner, htenant, hof]
        · simp [hid]
    · exact .refl of s
  | insertReport r =>
    cases hcall
    refine ⟨fun _ => rfl, ?_, rfl⟩
    change _ = (s.reports ++ [r]).filter _
    simp [hof]
  | insertEvent e =>
    cases hcall
    refine ⟨fun _ => rfl, rfl, ?_⟩
    change _ = (s.events ++ [e]).filter _
    simp [hof]
  | deleteBefore scope cutoff =>
    cases hcall
    refine ⟨fun _ => rfl, ?_, rfl⟩
    change _ = (s.reports.filter _).filter _
    rw [List.filter_filter]
    refine List.filter_congr fun r _ => ?_
    -- A report of another tenant does not expire in a purge for this one.
    by_cases htenant : r.tenant = tenant
    · simp [htenant, hof]
    · simp [expired, htenant]
  | markProcessed t id processedAt =>
    cases hcall
    rw [after_markProcessed]
    refine ⟨fun _ => rfl, rfl, ?_⟩
    refine (filter_getD_markFirst_of_not_meant (fun _ _ => rfl) fun e hevent => ?_).symm
    rw [tenant_of_isEvent hevent, hof]

/-! ### The tenant itself -/

/-- No two geofences of a tenant have the same name and the same age. -/
def NoTies (s : Store) (tenant : Uuid) : Prop :=
  ∀ g g', s.find tenant g.id = some g → s.find tenant g'.id = some g' → g.name = g'.name →
    g.createdAt = g'.createdAt → g = g'

/-- A store is in order as far as a tenant is concerned. -/
structure InOrder (s : Store) (tenant : Uuid) : Prop where
  /-- Every geofence is stored once, under its own identifier. -/
  indexed : s.Indexed
  /-- Every event is about a geofence of its own tenant. -/
  owned : s.Owned
  /-- The listing order of the tenant's geofences is fixed. -/
  ties : s.NoTies tenant

/-- Without ties, geofences are listed alike for a tenant that finds the same ones. -/
theorem list_eq_of_find_eq (hfind : ∀ id, s₁.find tenant id = s₂.find tenant id)
    (hindexed₁ : s₁.Indexed) (hindexed₂ : s₂.Indexed) (hties : s₁.NoTies tenant) (all : Bool) :
    s₁.list tenant all = s₂.list tenant all := by
  -- Two sorted lists with the same elements are equal if no two elements are tied.
  refine List.Perm.eq_of_pairwise ?_ (s₁.list_sorted tenant all) (s₂.list_sorted tenant all) ?_
  · intro a b ha hb hab hba
    obtain ⟨hname, hage⟩ := eq_of_listedBefore hab hba
    have hb' : s₁.find tenant b.id = some b :=
      (hfind b.id).trans ((mem_list_iff hindexed₂).1 hb).1
    exact hties a b ((mem_list_iff hindexed₁).1 ha).1 hb' hname hage
  · have hnodup₁ : (s₁.list tenant all).Nodup := .of_map _ (nodup_list hindexed₁ all)
    have hnodup₂ : (s₂.list tenant all).Nodup := .of_map _ (nodup_list hindexed₂ all)
    rw [List.perm_ext_iff_of_nodup hnodup₁ hnodup₂]
    intro g
    rw [mem_list_iff hindexed₁, mem_list_iff hindexed₂, hfind g.id]

/-- The name of an event is looked up by the identifier of its geofence alone. The geofence under it
is the tenant's, so it is the same in stores in which the tenant finds the same ones. -/
theorem named_eq_of_find_eq (hfind : ∀ id, s₁.find tenant id = s₂.find tenant id)
    (howned : s₁.Owned) {e : Event} (he : e ∈ s₁.events) (htenant : e.tenant = tenant) :
    s₁.named e = s₂.named e := by
  obtain ⟨g, hg, howner⟩ := howned.exists_geofence he
  have hfound : s₂.find tenant e.geofence = some g := by
    rw [← hfind, find_eq_some_iff]
    exact ⟨hg, howner.trans htenant⟩
  rw [named, named, hg, (find_eq_some_iff.1 hfound).1]

/-- A query of a tenant selects events of that tenant only. -/
theorem tenant_of_selects {q : EventQuery} {e : Event} (h : q.selects tenant e = true) :
    e.tenant = tenant := by
  simp only [EventQuery.selects, Bool.and_eq_true, beq_iff_eq] at h
  exact h.1.1

variable (h : SameRows (· == tenant) s₁ s₂)

include h

/-- The tenant's geofences are the same, so there are no ties in either of two stores. -/
theorem SameRows.noTies (hties : s₁.NoTies tenant) : s₂.NoTies tenant := by
  intro g g' hg hg'
  exact hties g g' ((h.find_eq _).trans hg) ((h.find_eq _).trans hg')

/-- A call for a tenant makes the same changes to the rows of that tenant. -/
theorem SameRows.after (hcall : call.tenant? = some tenant)
    (hunused : ∀ g, call = .create g → s₁.geofence? g.id = none ∧ s₂.geofence? g.id = none) :
    SameRows (· == tenant) (s₁.after call) (s₂.after call) := by
  cases call with
  | findActive | find | list | latest | listEvents | countEvents => exact h
  | create g =>
    -- An identifier that is used by another tenant would be refused, and tell of that tenant.
    obtain ⟨hnew₁, hnew₂⟩ := hunused g rfl
    rw [after_create, after_create, hnew₁, hnew₂]
    refine ⟨fun id => ?_, h.reports, h.events⟩
    change ((s₁.insert g).geofence? id).filter _ = ((s₂.insert g).geofence? id).filter _
    rw [geofence?_insert hnew₁, geofence?_insert hnew₂]
    split
    · rfl
    · exact h.geofences id
  | update g =>
    cases hcall
    rw [after_update, after_update, ← h.find_eq g.id]
    split
    · rename_i hfound
      refine ⟨fun id => ?_, h.reports, h.events⟩
      rw [geofence?_replace, geofence?_replace]
      split
      · rename_i hid
        have hsome : ∀ {s : Store}, (s.find g.tenant g.id).isSome = true →
            (s.geofence? g.id).map (fun _ => g) = some g := by
          intro s hs
          obtain ⟨old, hold⟩ := Option.isSome_iff_exists.1 hs
          rw [(find_eq_some_iff.1 hold).1]
          rfl
        rw [hid, hsome hfound, hsome (h.find_eq g.id ▸ hfound)]
      · exact h.geofences id
    · exact h
  | delete t id =>
    cases hcall
    rw [after_delete, after_delete, ← h.find_eq id]
    split
    · refine ⟨fun id' => ?_, h.reports, ?_⟩
      · rw [geofence?_remove, geofence?_remove]
        split
        · rfl
        · exact h.geofences id'
      · -- Which events go depends on their geofence alone, so the tenant's own are the same again.
        change (s₁.events.filter _).filter _ = (s₂.events.filter _).filter _
        rw [List.filter_comm, h.events, List.filter_comm]
    · exact h
  | insertReport r =>
    refine ⟨h.geofences, ?_, h.events⟩
    change (s₁.reports ++ [r]).filter _ = (s₂.reports ++ [r]).filter _
    rw [List.filter_append, List.filter_append, h.reports]
  | insertEvent e =>
    refine ⟨h.geofences, h.reports, ?_⟩
    change (s₁.events ++ [e]).filter _ = (s₂.events ++ [e]).filter _
    rw [List.filter_append, List.filter_append, h.events]
  | deleteBefore scope cutoff =>
    refine ⟨h.geofences, ?_, h.events⟩
    change (s₁.reports.filter _).filter _ = (s₂.reports.filter _).filter _
    rw [List.filter_comm, h.reports, List.filter_comm]
  | markProcessed t id processedAt =>
    cases hcall
    rw [after_markProcessed, after_markProcessed]
    refine ⟨h.geofences, h.reports, ?_⟩
    have hmeant : ∀ e, isEvent tenant id e = true → (e.tenant == tenant) = true :=
      fun e hevent => by simpa using tenant_of_isEvent hevent
    simp only
    rw [filter_getD_markFirst (fun _ _ => rfl) hmeant, h.events,
      ← filter_getD_markFirst (fun _ _ => rfl) hmeant]

/-- The same report about an actor arrived last. -/
theorem SameRows.latest_eq (actor : Uuid) : s₁.latest tenant actor = s₂.latest tenant actor := by
  have hown : ∀ s : Store, s.latest tenant actor =
      ((s.reports.filter fun r => r.tenant == tenant).reverse.find? fun r =>
        r.isAbout tenant actor) := by
    intro s
    rw [latest, ← List.filter_reverse, List.find?_filter]
    congr 1
    funext r
    rw [Bool.eq_iff_iff]
    simp [Report.isAbout]
  rw [hown, hown, h.reports]

/-- The same events are selected. -/
theorem SameRows.selected_eq (q : EventQuery) : s₁.selected tenant q = s₂.selected tenant q := by
  have hown : ∀ s : Store, s.selected tenant q =
      (s.events.filter fun e => e.tenant == tenant).filter (q.selects tenant) := by
    intro s
    rw [selected, List.filter_filter]
    refine List.filter_congr fun e _ => ?_
    cases htenant : e.tenant == tenant <;> simp [EventQuery.selects, htenant]
  rw [hown, hown, h.events]

/-- The same events are shown, with the same names: the geofences that they are about are the
tenant's own. -/
theorem SameRows.page_eq (howned : s₁.Owned) (q : EventQuery) :
    s₁.page tenant q = s₂.page tenant q := by
  have hnamed : (s₁.selected tenant q).map s₁.named = (s₁.selected tenant q).map s₂.named := by
    refine List.map_congr_left fun e he => ?_
    obtain ⟨hmem, hselects⟩ := List.mem_filter.1 he
    exact named_eq_of_find_eq h.find_eq howned hmem (tenant_of_selects hselects)
  rw [page, page, hnamed, h.selected_eq]

/-- As many reports are removed. -/
theorem SameRows.purgeCount_eq (cutoff : Instant) :
    s₁.purgeCount (some tenant) cutoff = s₂.purgeCount (some tenant) cutoff := by
  have hown : ∀ s : Store, s.reports.filter (expired (some tenant) cutoff) =
      (s.reports.filter fun r => r.tenant == tenant).filter (expired (some tenant) cutoff) := by
    intro s
    rw [List.filter_filter]
    refine List.filter_congr fun r _ => ?_
    cases htenant : r.tenant == tenant <;> simp [expired, htenant]
  rw [purgeCount, purgeCount, hown, hown, h.reports]

/-- A call for a tenant is answered alike. -/
theorem SameRows.reply_eq (hcall : call.tenant? = some tenant)
    (horder : call.delicate = true → s₁.InOrder tenant ∧ s₂.Indexed)
    (hunused : ∀ g, call = .create g → s₁.geofence? g.id = none ∧ s₂.geofence? g.id = none) :
    s₁.reply call = s₂.reply call := by
  cases call with
  | findActive t =>
    cases hcall
    obtain ⟨horder₁, hindexed₂⟩ := horder rfl
    change Except.ok (s₁.list tenant false) = Except.ok (s₂.list tenant false)
    rw [list_eq_of_find_eq h.find_eq horder₁.indexed hindexed₂ horder₁.ties]
  | list t all =>
    cases hcall
    obtain ⟨horder₁, hindexed₂⟩ := horder rfl
    change Except.ok (s₁.list tenant all) = Except.ok (s₂.list tenant all)
    rw [list_eq_of_find_eq h.find_eq horder₁.indexed hindexed₂ horder₁.ties]
  | create g =>
    obtain ⟨hnew₁, hnew₂⟩ := hunused g rfl
    rw [reply, reply, perform, perform, hnew₁, hnew₂]
    rfl
  | find t id =>
    cases hcall
    change Except.ok (s₁.find tenant id) = Except.ok (s₂.find tenant id)
    rw [h.find_eq]
  | update g =>
    cases hcall
    rw [reply, reply, perform, perform, h.find_eq]
    cases (s₂.find g.tenant g.id).isSome <;> rfl
  | delete t id =>
    cases hcall
    rw [reply, reply, perform, perform, h.find_eq]
    cases (s₂.find tenant id).isSome <;> rfl
  | insertReport | insertEvent => rfl
  | latest t actor =>
    cases hcall
    change Except.ok (s₁.latest tenant actor) = Except.ok (s₂.latest tenant actor)
    rw [h.latest_eq]
  | deleteBefore scope cutoff =>
    cases hcall
    change Except.ok (s₁.purgeCount _ cutoff) = Except.ok (s₂.purgeCount _ cutoff)
    rw [h.purgeCount_eq]
  | markProcessed t id processedAt =>
    cases hcall
    -- Whether there is an event to mark is seen among the events of the tenant.
    have hmeant : ∀ e, isEvent tenant id e = true → (e.tenant == tenant) = true :=
      fun e hevent => by simpa using tenant_of_isEvent hevent
    rw [reply_markProcessed, reply_markProcessed, ← isSome_markFirst_filter (fun _ _ => rfl) hmeant,
      h.events, isSome_markFirst_filter (fun _ _ => rfl) hmeant]
  | listEvents t q =>
    cases hcall
    change Except.ok (s₁.page tenant q) = Except.ok (s₂.page tenant q)
    rw [h.page_eq (horder rfl).1.owned]
  | countEvents t q =>
    cases hcall
    change Except.ok (s₁.selected tenant q).length = Except.ok (s₂.selected tenant q).length
    rw [h.selected_eq]

end Store

end Geofencing
