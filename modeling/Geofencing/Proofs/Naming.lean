import Geofencing.Proofs.Administration
import Geofencing.Proofs.Soundness
import Mathlib.Data.List.TakeWhile

/-!
# Names of geofences

A name has one to a hundred characters, and requests with any other name are refused. A geofence
that is created is stored without the blanks around its name, though, and the rule looks at the name
before they are taken off. So a name of blanks alone passes the rule and is stored as an empty one.

`Http.App.naming` says that this is all that can go wrong: every stored name obeys the rule, or it
is empty and goes back to a request that created the geofence with a name of blanks.
-/

namespace Geofencing

/-! ## Taking off blanks -/

namespace Text

/-- Nothing is left of a text without its blanks exactly if it has nothing but blanks. -/
theorem trimChars_eq_nil_iff {cs : List Char} :
    trimChars cs = [] ↔ ∀ c ∈ cs, isBlank c = true := by
  rw [trimChars, List.reverse_eq_nil_iff, trimFront, trimFront, List.dropWhile_eq_nil_iff]
  simp only [List.mem_reverse]
  constructor
  · intro hrest
    -- What is left behind the first blanks would start with another character.
    have hnil : cs.dropWhile isBlank = [] := by
      by_contra hne
      have hhead := List.head_dropWhile_not isBlank hne
      rw [hrest _ (List.head_mem hne)] at hhead
      cases hhead
    exact List.dropWhile_eq_nil_iff.1 hnil
  · intro hall c hc
    exact hall c (List.dropWhile_sublist isBlank |>.subset hc)

/-- A text does not grow when it is trimmed. -/
theorem length_trimChars_le (cs : List Char) : (trimChars cs).length ≤ cs.length := by
  rw [trimChars, List.length_reverse, trimFront, trimFront]
  calc ((cs.dropWhile isBlank).reverse.dropWhile isBlank).length
      ≤ (cs.dropWhile isBlank).reverse.length := (List.dropWhile_sublist isBlank).length_le
    _ = (cs.dropWhile isBlank).length := List.length_reverse
    _ ≤ cs.length := (List.dropWhile_sublist isBlank).length_le

theorem length_trim (s : String) : (trim s).length = (trimChars s.toList).length :=
  String.length_ofList

end Text

/-- The rule for names. -/
def Geofence.WellNamed (g : Geofence) : Prop :=
  1 ≤ g.name.length ∧ g.name.length ≤ 100

/-- A name keeps the rule just when it has one to a hundred characters. -/
theorem Validation.name_eq_none_iff {s : String} :
    name s = none ↔ 1 ≤ s.length ∧ s.length ≤ 100 := by
  simp [name, expect]

/-- A name that passes the rule is at most a hundred characters long without the blanks around it,
and empty only if it has nothing but blanks. -/
theorem Text.length_trim_of_name {s : String} (h : Validation.name s = none) :
    (trim s).length ≤ 100 ∧ ((trim s).length = 0 ↔ ∀ c ∈ s.toList, isBlank c = true) := by
  have hle := length_trimChars_le s.toList
  have hlong := (Validation.name_eq_none_iff.1 h).2
  rw [length_trim]
  refine ⟨?_, ?_⟩
  · rw [String.length_toList] at hle
    omega
  · rw [List.length_eq_zero_iff]
    exact trimChars_eq_nil_iff

/-- A store with one more geofence is another one. -/
theorem Store.insert_ne {s : Store} {g : Geofence} : s.insert g ≠ s := by
  intro h
  have hlength := congrArg (fun s => s.geofences.length) h
  simp [insert] at hlength

/-- A change names a geofence anew or keeps its name. -/
theorem UpdateGeofence.name_apply {r : UpdateGeofence} {now : Instant} {old g : Geofence}
    (h : r.apply now old = .ok g) : g.name = r.name.getD old.name := by
  rw [apply] at h
  split at h
  · cases h
  · cases h
    rfl

namespace Http

variable {app : App} {env : Surroundings} {req : Request} {w w' : World}

/-! ## Where names come from -/

/-- A request creates a geofence and names it with blanks alone. -/
def Exchange.CreatesBlank (x : Exchange) (id : Uuid) : Prop :=
  x.request.method = .post ∧
  Resource.ofSegments? x.request.target.segments = some .geofences ∧
  (∃ r, x.response = some r ∧ r.status = 201 ∧ r.shownId? = some id.toText) ∧
  ∃ c, Handler.readBody CreateGeofence.decoder x.request = .ok c ∧
    ∀ char ∈ c.name.toList, Text.isBlank char = true

/-- After a deed each geofence is well named, or it has the name that it had before, or it was just
created with a name of blanks. -/
theorem Deed.name_cases {asked : Method} {resource : Option Resource}
    {result : Option (Except Refusal Response)} (h : Deed app env req w asked resource result w')
    (hindexed : w.store.Indexed) {entry : Uuid × Geofence} (hentry : entry ∈ w'.store.geofences) :
    entry.2.WellNamed ∨
    (∃ old ∈ w.store.geofences, old.1 = entry.1 ∧ old.2.name = entry.2.name) ∨
    (entry.2.name.length = 0 ∧ asked = .post ∧ resource = some .geofences ∧
      entry.1 = entry.2.id ∧ result = some (.ok (.json 201 entry.2.response)) ∧
      ∃ c, Handler.readBody CreateGeofence.decoder req = .ok c ∧
        ∀ char ∈ c.name.toList, Text.isBlank char = true) := by
  have hkept : ∀ entry ∈ w.store.geofences,
      ∃ old ∈ w.store.geofences, old.1 = entry.1 ∧ old.2.name = entry.2.name :=
    fun entry hentry => ⟨entry, hentry, rfl, rfl⟩
  cases h with
  | nothing store => exact .inr (.inl (hkept _ (store ▸ hentry)))
  | submitted _ _ _ _ submitted => exact .inr (.inl (hkept _ (submitted.geofences ▸ hentry)))
  | purged => exact .inr (.inl (hkept _ hentry))
  | deleted => exact .inr (.inl (hkept _ (List.mem_filter.1 hentry).1))
  | @created _ c _ g _ _ body_eq valid _ made _ =>
    rcases List.mem_append.1 hentry with hold | hnew
    · exact .inr (.inl (hkept _ hold))
    · -- The rule was checked before the blanks were taken off.
      rw [List.mem_singleton] at hnew
      subst hnew
      have hname := (List.append_eq_nil_iff.1 (List.isEmpty_iff.1 valid)).1
      rw [Violations.field_eq_nil_iff] at hname
      obtain ⟨hlong, hblank⟩ := Text.length_trim_of_name hname
      have hstored : g.name = Text.trim c.name := by rw [made, CreateGeofence.geofence]
      by_cases hzero : g.name.length = 0
      · exact .inr (.inr ⟨hzero, rfl, rfl, rfl, rfl, c, body_eq, hblank.1 (hstored ▸ hzero)⟩)
      · exact .inl ⟨Nat.one_le_iff_ne_zero.2 hzero, hstored ▸ hlong⟩
  | @updated _ _ _ r old g _ _ _ _ valid found applied _ =>
    obtain ⟨⟨key, value⟩, hmem, rfl⟩ := List.mem_map.1 hentry
    dsimp only at hentry ⊢
    split
    · rename_i hkey
      -- A new name is stored as it was checked, and without one the old name stays.
      have hname := (List.append_eq_nil_iff.1 (List.isEmpty_iff.1 valid)).1
      rw [Violations.optionalField_eq_nil_iff] at hname
      have happlied := UpdateGeofence.name_apply applied
      cases hnew : r.name with
      | some name =>
        rw [hnew, Option.getD_some] at happlied
        rw [Geofence.WellNamed, happlied]
        exact .inl (Validation.name_eq_none_iff.1 (hname name hnew))
      | none =>
        rw [hnew, Option.getD_none] at happlied
        have hid : old.id = key := by rw [← UpdateGeofence.id_apply applied, hkey]
        have hstored := hindexed.id_eq (Store.find_eq_some_iff.1 found).1
        refine .inr (.inl ⟨_, Store.mem_of_find found, ?_, happlied.symm⟩)
        rw [← hstored, hid]
    · exact .inr (.inl (hkept _ hmem))

/-- A geofence that is created is named as the request says, without the blanks around it. -/
theorem Deed.name_of_insert {result : Option (Except Refusal Response)} {g : Geofence}
    {c : CreateGeofence} (h : Deed app env req w .post (some .geofences) result w')
    (hinsert : w'.store = w.store.insert g)
    (hbody : Handler.readBody CreateGeofence.decoder req = .ok c) : g.name = Text.trim c.name := by
  cases h with
  | nothing store => exact absurd (hinsert.symm.trans store) Store.insert_ne
  | @created _ c' _ g' _ _ body_eq _ _ made _ =>
    have hsame := List.append_cancel_left (congrArg Store.geofences hinsert)
    have hg : g' = g := (Prod.mk.inj (List.singleton_inj.1 hsame)).2
    rw [hbody] at body_eq
    cases body_eq
    rw [← hg, made, CreateGeofence.geofence]

namespace App

variable {past : List Exchange}

theorem method_of_asked (h : asked req = .post) : req.method = .post := by
  unfold asked at h
  split at h
  · cases h
  · exact h

/-- The response to a creation shows the identifier of the geofence also when it is delivered. -/
theorem shownId?_delivered (hmethod : req.method = .post) (status : Nat) (g : Geofence) :
    (app.delivered env req w (.ok (.json status g.response))).shownId? = some g.id.toText := by
  have hhead : req.method ≠ .head := by rw [hmethod]; decide
  rw [← Response.shownId?_json status, Response.shownId?, json?_delivered hhead]
  rfl

/-- What a request does to names, with the response to it. -/
theorem name_handle (hindexed : w.store.Indexed) {entry : Uuid × Geofence}
    (hentry : entry ∈ ((app.handle req).run env w).2.store.geofences) :
    entry.2.WellNamed ∨
    (∃ old ∈ w.store.geofences, old.1 = entry.1 ∧ old.2.name = entry.2.name) ∨
    (entry.2.name.length = 0 ∧ (app.exchange env req w).CreatesBlank entry.1) := by
  have hhandled := handle_deed app env req w
  have hstore : (named env req w).2.store = w.store := (named_same env req w).1
  rw [Prog.Ensures] at hhandled
  unfold Exchange.CreatesBlank exchange
  dsimp only
  -- How handling ends decides where a name comes from.
  generalize (app.handle req).run env w = out at hhandled hentry ⊢
  obtain ⟨answer, w'⟩ := out
  cases hhandled with
  | options => exact .inr (.inl ⟨entry, hentry, rfl, rfl⟩)
  | @answered result w' deed =>
    obtain hwell | hkept | ⟨hzero, hasked, hresource, hid, hresult, hblank⟩ :=
      deed.name_cases (hstore ▸ hindexed) hentry
    · exact .inl hwell
    · exact .inr (.inl (hstore ▸ hkept))
    · -- The geofence was created, and the response shows its identifier.
      cases hresult
      have hmethod := method_of_asked hasked
      have hshown : (app.delivered env req w (.ok (.json 201 entry.2.response))).shownId? =
          some entry.1.toText := hid ▸ shownId?_delivered hmethod 201 entry.2
      exact .inr (.inr ⟨hzero, hmethod, hresource, ⟨_, rfl, status_delivered _, hshown⟩, hblank⟩)
  | broken deed =>
    obtain hwell | hkept | ⟨-, -, -, -, hresult, -⟩ :=
      deed.name_cases (hstore ▸ hindexed) hentry
    · exact .inl hwell
    · exact .inr (.inl (hstore ▸ hkept))
    · cases hresult

/-- A request that creates a geofence with a name of blanks stores it without a name. -/
theorem exists_nameless (hindexed : w.store.Indexed) {id : Uuid}
    (h : (app.exchange env req w).CreatesBlank id) :
    ∃ g, ((app.handle req).run env w).2.store.geofence? id = some g ∧ g.name.length = 0 := by
  obtain ⟨hmethod, hresource, ⟨r, hr, hstatus, hshown⟩, c, hbody, hblank⟩ := h
  change req.method = .post at hmethod
  change Resource.ofSegments? req.target.segments = some .geofences at hresource
  have hstore : (named env req w).2.store = w.store := (named_same env req w).1
  obtain ⟨-, hfailed⟩ | ⟨caller, r', -, hr', hedited⟩ :=
    handle_edits app env hindexed hresource (by rw [hmethod]; rfl)
  · have hbad := hfailed r hr
    omega
  · rw [hmethod] at hedited
    generalize hs : ((app.handle req).run env w).2.store = s at hedited ⊢
    cases hedited with
    | @created g _ hunused =>
      have hid : id = g.id := by
        rw [Option.some_inj.1 (hr.symm.trans hr'), shownId?_delivered hmethod] at hshown
        exact Uuid.toText_inj.1 (Option.some_inj.1 hshown).symm
      -- The deed was a creation as well, and it says where the name comes from.
      obtain hsame | ⟨result, w', deed, hw', -⟩ := handle_cases app env req w
      · exact absurd (hs.symm.trans (congrArg World.store hsame)) Store.insert_ne
      · have hasked : asked req = .post := by rw [asked, hmethod]; rfl
        rw [hasked, hresource] at deed
        have hname := deed.name_of_insert (by rw [hstore, ← hs, hw']) hbody
        refine ⟨g, by rw [Store.geofence?_insert hunused, if_pos hid], ?_⟩
        rw [hname, Text.length_trim, List.length_eq_zero_iff]
        exact Text.trimChars_eq_nil_iff.2 hblank

/-- Naming. In every world that is reached, each stored name obeys the rule, or it is empty and a
request before created the geofence with a name of blanks. Each such request does store a geofence
without a name. -/
theorem naming (h : app.History env past w) :
    (∀ entry ∈ w.store.geofences, entry.2.WellNamed ∨
      entry.2.name.length = 0 ∧ ∃ x ∈ past, x.CreatesBlank entry.1) ∧
    ∀ req id, (app.exchange env req w).CreatesBlank id →
      ∃ g, ((app.handle req).run env w).2.store.geofence? id = some g ∧ g.name.length = 0 := by
  refine ⟨?_, fun _ _ => exists_nameless h.reachable.indexed_owned.1⟩
  -- Requests and cleanups keep this one by one, and what was asked before stays in the history.
  induction h with
  | start => exact fun _ hentry => absurd hentry List.not_mem_nil
  | @request past w hw req ih =>
    intro entry hentry
    obtain hwell | ⟨old, hold, hid, hname⟩ | ⟨hzero, hblank⟩ :=
      name_handle hw.reachable.indexed_owned.1 hentry
    · exact .inl hwell
    · rw [Geofence.WellNamed, ← hname, ← hid]
      refine (ih old hold).imp_right fun ⟨hzero, x, hx, hblank⟩ => ?_
      exact ⟨hzero, x, List.mem_append_left _ hx, hblank⟩
    · exact .inr ⟨hzero, _, List.mem_append_right _ List.mem_cons_self, hblank⟩
  | @cleanup past w hw ih =>
    obtain hsame | ⟨cutoff, hstore⟩ := store_cleanup env w app.retention
    · rw [hsame]
      exact ih
    · rw [hstore]
      exact ih

end App

end Http

/-! ### A hall without a name -/

theorem Campus.exists_unnamed : ∃ w, app.Reachable surroundings w ∧
    ∃ entry ∈ w.store.geofences, entry.2.name.length = 0 := by
  obtain ⟨w, hreachable, hfurnished⟩ := exists_furnished
  simp only [Prod.mk.injEq] at hfurnished
  obtain ⟨entry, hlast, hzero⟩ := Option.map_eq_some_iff.1 hfurnished.2.1
  exact ⟨w, hreachable, entry, List.mem_of_getLast? hlast, hzero⟩

/-- The name of the round hall is stored against the rule. -/
theorem Http.App.stored_nameless : ∃ w, Campus.app.Reachable Campus.surroundings w ∧
    ∃ entry ∈ w.store.geofences, ¬entry.2.WellNamed := by
  obtain ⟨w, hreachable, entry, hmem, hzero⟩ := Campus.exists_unnamed
  refine ⟨w, hreachable, entry, hmem, fun hnamed => ?_⟩
  have hone := hnamed.1
  omega

/-- It goes back to the request with the blank. -/
theorem Http.App.naming_campus : ∃ past w, Campus.app.History Campus.surroundings past w ∧
    ∃ entry ∈ w.store.geofences, entry.2.name.length = 0 ∧
      ∃ x ∈ past, x.CreatesBlank entry.1 := by
  obtain ⟨w, hreachable, entry, hmem, hzero⟩ := Campus.exists_unnamed
  obtain ⟨past, hhistory⟩ := hreachable.exists_history
  refine ⟨past, w, hhistory, entry, hmem, hzero, ?_⟩
  obtain hnamed | ⟨-, hblank⟩ := (naming hhistory).1 entry hmem
  · have hone := hnamed.1
    omega
  · exact hblank

end Geofencing
