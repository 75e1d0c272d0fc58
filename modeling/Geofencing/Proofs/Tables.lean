import Geofencing.Store.Call

/-!
# The tables of the store

What each operation of the store does to what is found in it afterwards.

* `Store.Indexed`: every geofence is stored once and under its own identifier. Inserting, replacing
  and removing geofences keeps it, and with it a lookup is membership in the table.
* `Store.list_sorted` and `Store.list_perm`: a listing is sorted by name and age and holds exactly
  the geofences asked for.
* `Store.latest_addReport` and `Store.latest_purge`: which report of an actor arrived last.
* `Event.unmarked`: marking an event as processed changes nothing else about the events.
* `Store.Owned`: every event is about a stored geofence of its own tenant.
-/

namespace Geofencing

namespace Store

variable {s : Store} {g : Geofence} {tenant id : Uuid}

/-! ## Geofences by identifier -/

/-- Every geofence is stored once, and under its own identifier. -/
structure Indexed (s : Store) : Prop where
  /-- No identifier occurs twice. -/
  distinct : (s.geofences.map Prod.fst).Nodup
  /-- Each geofence is stored under its own identifier. -/
  own : ∀ entry ∈ s.geofences, entry.1 = entry.2.id

/-- The empty store is indexed. -/
theorem indexed_empty : Store.empty.Indexed :=
  ⟨List.nodup_nil, fun _ h => absurd h List.not_mem_nil⟩

/-- In a table without repeated keys, a lookup finds exactly what is stored under its key. -/
theorem lookup_eq_some_iff_mem {β : Type} {l : List (Uuid × β)} {b : β}
    (h : (l.map Prod.fst).Nodup) : l.lookup id = some b ↔ (id, b) ∈ l := by
  induction l with
  | nil => simp
  | cons entry rest ih =>
    rw [List.map_cons, List.nodup_cons] at h
    obtain ⟨key, value⟩ := entry
    by_cases hkey : id = key
    · -- The lookup stops here, and no later entry has the key.
      subst hkey
      have hrest : (id, b) ∉ rest := fun hmem => h.1 (List.mem_map.2 ⟨(id, b), hmem, rfl⟩)
      simp [hrest, eq_comm]
    · have hbeq : (id == key) = false := by simpa using hkey
      simp [List.lookup_cons, hbeq, ih h.2, hkey]

/-- A geofence is found under an identifier exactly if it is stored and has that identifier. -/
theorem geofence?_eq_some_iff (h : s.Indexed) :
    s.geofence? id = some g ↔ g.id = id ∧ (g.id, g) ∈ s.geofences := by
  rw [geofence?, lookup_eq_some_iff_mem h.distinct]
  constructor
  · intro hmem
    have hid : id = g.id := h.own _ hmem
    exact ⟨hid.symm, hid ▸ hmem⟩
  · rintro ⟨rfl, hmem⟩
    exact hmem

/-- A geofence that is found has the identifier that it is found under. -/
theorem Indexed.id_eq (h : s.Indexed) (hg : s.geofence? id = some g) : g.id = id :=
  ((geofence?_eq_some_iff h).1 hg).1

/-- A tenant finds the geofences that are its own. -/
theorem find_eq_some_iff :
    s.find tenant id = some g ↔ s.geofence? id = some g ∧ g.tenant = tenant := by
  simp [find, Option.filter_eq_some_iff]

theorem find_of_geofences {s' : Store} (hsame : s'.geofences = s.geofences) :
    s'.find tenant id = s.find tenant id := by
  unfold find geofence?
  rw [hsame]

/-! ### Listings -/

/-- A listing holds the geofences of the tenant, the inactive ones only if asked for. -/
theorem mem_list_iff (h : s.Indexed) {all : Bool} :
    g ∈ s.list tenant all ↔ s.find tenant g.id = some g ∧ (all = true ∨ g.active = true) := by
  -- The listing forgets the keys, but each of them is the identifier of its geofence.
  have hstored : g ∈ s.geofences.map Prod.snd ↔ (g.id, g) ∈ s.geofences := by
    constructor
    · intro hmem
      obtain ⟨⟨key, value⟩, hentry, rfl⟩ := List.mem_map.1 hmem
      have hkey : key = value.id := h.own _ hentry
      exact hkey ▸ hentry
    · intro hmem
      exact List.mem_map_of_mem hmem
  rw [list, List.mem_mergeSort, List.mem_filter, hstored, find_eq_some_iff,
    geofence?_eq_some_iff h]
  simp [and_assoc]

/-- A listing is a rearrangement of the geofences asked for. -/
theorem list_perm (s : Store) (tenant : Uuid) (all : Bool) :
    (s.list tenant all).Perm
      ((s.geofences.map Prod.snd).filter fun g => g.tenant == tenant && (all || g.active)) :=
  List.mergeSort_perm _ _

/-- No two geofences in a listing have the same identifier. -/
theorem nodup_list (h : s.Indexed) (all : Bool) :
    ((s.list tenant all).map Geofence.id).Nodup := by
  have hids : (s.geofences.map Prod.snd).map Geofence.id = s.geofences.map Prod.fst := by
    rw [List.map_map]
    exact List.map_congr_left fun entry hentry => (h.own entry hentry).symm
  have hall : ((s.geofences.map Prod.snd).map Geofence.id).Nodup := hids ▸ h.distinct
  -- Selecting geofences only drops identifiers, and sorting them only moves identifiers around.
  rw [((s.list_perm tenant all).map Geofence.id).nodup_iff]
  exact hall.sublist (List.filter_sublist.map Geofence.id)

/-- One instant is not before another if it comes later, or in the same second and not earlier. -/
private theorem before_eq_false_iff {t u : Instant} :
    t.before u = false ↔
      u.seconds < t.seconds ∨ u.seconds = t.seconds ∧ u.nanos ≤ t.nanos := by
  simp only [Instant.before, Bool.or_eq_false_iff, Bool.and_eq_false_iff, decide_eq_false_iff_not,
    beq_eq_false_iff_ne]
  omega

/-- Listing order: by name and, for equal names, by age. -/
theorem listedBefore_iff {a b : Geofence} :
    listedBefore a b = true ↔
      a.name < b.name ∨ a.name = b.name ∧ b.createdAt.before a.createdAt = false := by
  simp [listedBefore, Instant.notAfter]

/-- Listing order is transitive. -/
private theorem listedBefore_trans (a b c : Geofence) (hab : listedBefore a b = true)
    (hbc : listedBefore b c = true) : listedBefore a c = true := by
  rw [listedBefore_iff, before_eq_false_iff] at hab hbc ⊢
  rcases hab with hab | ⟨hab, hab'⟩
  · rcases hbc with hbc | ⟨hbc, -⟩
    · exact .inl (String.lt_trans hab hbc)
    · exact .inl (hbc ▸ hab)
  · rcases hbc with hbc | ⟨hbc, hbc'⟩
    · exact .inl (hab ▸ hbc)
    · exact .inr ⟨hab.trans hbc, by omega⟩

/-- Of two geofences one is listed before the other. -/
private theorem listedBefore_total (a b : Geofence) :
    (listedBefore a b || listedBefore b a) = true := by
  rw [Bool.or_eq_true, listedBefore_iff, listedBefore_iff, before_eq_false_iff,
    before_eq_false_iff]
  by_cases hab : a.name < b.name
  · exact .inl (.inl hab)
  · by_cases hba : b.name < a.name
    · exact .inr (.inl hba)
    · -- Neither name comes first, so the names are equal and the age decides.
      have hname : a.name = b.name :=
        String.le_antisymm (String.not_lt.1 hba) (String.not_lt.1 hab)
      rcases Int.lt_trichotomy a.createdAt.seconds b.createdAt.seconds with h | h | h
      · exact .inl (.inr ⟨hname, by omega⟩)
      · rcases Nat.le_total a.createdAt.nanos b.createdAt.nanos with h' | h'
        · exact .inl (.inr ⟨hname, by omega⟩)
        · exact .inr (.inr ⟨hname.symm, by omega⟩)
      · exact .inr (.inr ⟨hname.symm, by omega⟩)

/-- Geofences that are listed before each other have the same name and age. -/
theorem eq_of_listedBefore {a b : Geofence} (hab : listedBefore a b = true)
    (hba : listedBefore b a = true) : a.name = b.name ∧ a.createdAt = b.createdAt := by
  rw [listedBefore_iff, before_eq_false_iff] at hab hba
  -- As soon as one of the two is decided by the names, the names would be before themselves.
  rcases hab with hab | ⟨hname, hab⟩
  · rcases hba with hba | ⟨hname, -⟩
    · exact absurd (String.lt_trans hab hba) (String.lt_irrefl _)
    · exact absurd (hname ▸ hab) (String.lt_irrefl _)
  · rcases hba with hba | ⟨-, hba⟩
    · exact absurd (hname ▸ hba) (String.lt_irrefl _)
    · refine ⟨hname, ?_⟩
      have hseconds : a.createdAt.seconds = b.createdAt.seconds := by omega
      have hnanos : a.createdAt.nanos = b.createdAt.nanos := by omega
      rw [Instant.mk.injEq]
      exact ⟨hseconds, hnanos⟩

/-- A listing is sorted by name, and by age among equal names. -/
theorem list_sorted (s : Store) (tenant : Uuid) (all : Bool) :
    (s.list tenant all).Pairwise fun a b => listedBefore a b = true :=
  List.pairwise_mergeSort listedBefore_trans listedBefore_total _

/-! ### Changes -/

/-- A new geofence is found under its identifier, and all others as before. -/
theorem geofence?_insert (hnew : s.geofence? g.id = none) (id : Uuid) :
    (s.insert g).geofence? id = if id = g.id then some g else s.geofence? id := by
  rw [geofence?, insert, List.lookup_append]
  -- What was stored before comes first, so the new entry shows only where nothing was.
  change (s.geofence? id).or _ = _
  split
  · subst id
    simp [hnew]
  · rename_i hne
    simp [List.lookup_cons, beq_eq_false_iff_ne.2 hne]

/-- Replacing a geofence changes what is stored under its identifier only. -/
theorem geofences_replace (s : Store) (g : Geofence) :
    (s.replace g).geofences =
      s.geofences.map fun entry => (entry.1, if entry.1 = g.id then g else entry.2) := by
  refine List.map_congr_left fun entry _ => ?_
  by_cases hkey : entry.1 = g.id <;> simp [hkey]

/-- A replaced geofence is found under its identifier, and all others as before. -/
theorem geofence?_replace (s : Store) (g : Geofence) (id : Uuid) :
    (s.replace g).geofence? id =
      if id = g.id then (s.geofence? id).map fun _ => g else s.geofence? id := by
  rw [geofence?, geofence?, geofences_replace]
  induction s.geofences with
  | nil => simp
  | cons entry rest ih =>
    rw [List.map_cons, List.lookup_cons, List.lookup_cons]
    by_cases hkey : id = entry.1
    · subst hkey
      by_cases hown : entry.1 = g.id <;> simp [hown]
    · rw [beq_eq_false_iff_ne.2 hkey]
      exact ih

/-- A removed geofence is not found any more, and all others as before. -/
theorem geofence?_remove (s : Store) (removed id : Uuid) :
    (s.remove removed).geofence? id = if id = removed then none else s.geofence? id := by
  obtain ⟨geofences, reports, events⟩ := s
  simp only [geofence?, remove]
  induction geofences with
  | nil => simp
  | cons entry rest ih =>
    obtain ⟨key, value⟩ := entry
    by_cases hkey : key = removed
    · -- The entry goes, and any other identifier passes it by in the old table as well.
      subst hkey
      rw [List.filter_cons_of_neg (by simp), ih]
      split
      · rfl
      · rename_i hne
        rw [List.lookup_cons, beq_eq_false_iff_ne.2 hne]
    · rw [List.filter_cons_of_pos (by simpa using hkey), List.lookup_cons, List.lookup_cons, ih]
      by_cases hid : id = key
      · subst hid
        simp [hkey]
      · rw [beq_eq_false_iff_ne.2 hid]

/-- Reports and events do not matter for the index. -/
theorem Indexed.of_geofences {s' : Store} (h : s.Indexed) (hsame : s'.geofences = s.geofences) :
    s'.Indexed :=
  ⟨hsame ▸ h.distinct, hsame ▸ h.own⟩

/-- Inserting a geofence under an unused identifier keeps the store indexed. -/
theorem Indexed.insert (h : s.Indexed) (hnew : s.geofence? g.id = none) :
    (s.insert g).Indexed := by
  constructor
  · -- If the identifier were a key, the geofence under it would have been found.
    have hkey : g.id ∉ s.geofences.map Prod.fst := by
      intro hmem
      obtain ⟨⟨key, value⟩, hentry, hid : key = g.id⟩ := List.mem_map.1 hmem
      have hown : key = value.id := h.own _ hentry
      have hfound : s.geofence? key = some value :=
        (geofence?_eq_some_iff h).2 ⟨hown.symm, hown ▸ hentry⟩
      rw [hid, hnew] at hfound
      cases hfound
    rw [Store.insert, List.map_append, List.nodup_append]
    refine ⟨h.distinct, by simp, ?_⟩
    intro a ha b hb hab
    -- The new key is the last one, and it is not among the old ones.
    have hb : b = g.id := List.mem_singleton.1 hb
    rw [hab, hb] at ha
    exact hkey ha
  · intro entry hentry
    rcases List.mem_append.1 hentry with hold | hnew
    · exact h.own entry hold
    · rw [List.mem_singleton.1 hnew]

/-- Replacing a geofence keeps the store indexed. -/
theorem Indexed.replace (h : s.Indexed) (g : Geofence) : (s.replace g).Indexed := by
  constructor
  · rw [geofences_replace, List.map_map]
    exact h.distinct
  · intro entry hentry
    rw [geofences_replace] at hentry
    obtain ⟨old, hold, rfl⟩ := List.mem_map.1 hentry
    by_cases hkey : old.1 = g.id
    · simp only [hkey, if_true]
    · simp only [hkey, if_false]
      exact h.own old hold

/-- Removing a geofence keeps the store indexed. -/
theorem Indexed.remove (h : s.Indexed) (id : Uuid) : (s.remove id).Indexed :=
  ⟨h.distinct.sublist (List.filter_sublist.map Prod.fst),
    fun entry hentry => h.own entry (List.mem_filter.1 hentry).1⟩

/-! ## Reports -/

variable {actor : Uuid} {r : Report}

/-- A new report about an actor is the one that arrived last, and others do not count. -/
theorem latest_addReport (s : Store) (r : Report) (tenant actor : Uuid) :
    (s.addReport r).latest tenant actor =
      if r.isAbout tenant actor then some r else s.latest tenant actor := by
  rw [latest, addReport, List.reverse_append]
  simp only [List.reverse_singleton, List.singleton_append, List.find?_cons]
  split <;> simp_all [latest]

/-- There is a last report exactly if there is one at all. -/
theorem latest_eq_none_iff :
    s.latest tenant actor = none ↔ ∀ r ∈ s.reports, r.isAbout tenant actor = false := by
  simp [latest, List.find?_eq_none]

/-- A purge that keeps the report that arrived last leaves it the last one. -/
theorem latest_purge {scope : Option Uuid} {cutoff : Instant}
    (h : ∀ r, s.latest tenant actor = some r → r ∈ (s.purge scope cutoff).reports) :
    (s.purge scope cutoff).latest tenant actor = s.latest tenant actor := by
  cases hlast : s.latest tenant actor with
  | none =>
    -- Where there is no report about the actor, a purge leaves none.
    rw [latest_eq_none_iff] at hlast ⊢
    exact fun r hr => hlast r (List.mem_filter.1 hr).1
  | some r =>
    have hkept : expired scope cutoff r = false := by
      simpa using (List.mem_filter.1 (h r hlast)).2
    -- Everything that arrived after the last report about the actor is about others.
    obtain ⟨habout, later, earlier, hsplit, hlater⟩ := List.find?_eq_some_iff_append.1 hlast
    rw [latest, purge, ← List.filter_reverse, hsplit, List.filter_append, List.find?_append,
      List.find?_eq_none.2, List.filter_cons_of_pos (by simp [hkept])]
    · simp [habout]
    · intro r' hr'
      simpa using hlater r' (List.mem_filter.1 hr').1

end Store

/-! ## Events -/

/-- An event as it was before attendance was taken for it. -/
def Event.unmarked (e : Event) : Event := { e with processedAt := none }

namespace Store

variable {tenant id : Uuid} {processedAt : Instant} {events marked : List Event} {e : Event}

/-- Marking an event changes nothing else about the events. -/
theorem map_unmarked_of_markFirst (h : markFirst tenant id processedAt events = some marked) :
    marked.map Event.unmarked = events.map Event.unmarked := by
  induction events generalizing marked with
  | nil => cases h
  | cons e rest ih =>
    rw [markFirst] at h
    split at h
    · -- The event is the one that is marked: without its mark it is what it was.
      cases h
      rfl
    · obtain ⟨rest', hrest, rfl⟩ := Option.map_eq_some_iff.1 h
      rw [List.map_cons, List.map_cons, ih hrest]

/-- The mark reaches an event that was stored last if no event before it has its identifier. -/
theorem markFirst_append (hid : ∀ e' ∈ events, e'.id ≠ e.id) :
    markFirst e.tenant e.id processedAt (events ++ [e]) =
      some (events ++ [{ e with processedAt := some processedAt }]) := by
  induction events with
  | nil => simp [markFirst, isEvent]
  | cons first rest ih =>
    have hfirst : isEvent e.tenant e.id first = false := by
      simp [isEvent, hid first List.mem_cons_self]
    rw [List.cons_append, markFirst, hfirst, ih fun e' he' => hid e' (List.mem_cons_of_mem _ he')]
    rfl

/-! ### Some of the events -/

section Filter

variable {p : Event → Bool} (hp : ∀ e t, p { e with processedAt := t } = p e)

include hp

/-- Which event is marked is decided among those that might be meant. -/
theorem markFirst_filter (hmeant : ∀ e, isEvent tenant id e = true → p e = true) :
    markFirst tenant id processedAt (events.filter p) =
      (markFirst tenant id processedAt events).map (List.filter p) := by
  induction events with
  | nil => rfl
  | cons e rest ih =>
    -- An event that is not meant is passed over in the whole list and missing in the other one.
    by_cases hkept : p e = true
    · rw [List.filter_cons_of_pos hkept, markFirst, markFirst, ih]
      split
      · simp [hp, hkept]
      · rw [Option.map_map, Option.map_map]
        congr 1
        funext marked
        simp [hkept]
    · have hother : isEvent tenant id e = false :=
        Bool.eq_false_iff.2 fun hevent => hkept (hmeant e hevent)
      rw [List.filter_cons_of_neg hkept, markFirst, ih, hother]
      simp only [Bool.false_eq_true, if_false, Option.map_map]
      congr 1
      funext marked
      simp [hkept]

/-- The same if there is no event to mark. -/
theorem filter_getD_markFirst (hmeant : ∀ e, isEvent tenant id e = true → p e = true) :
    ((markFirst tenant id processedAt events).getD events).filter p =
      (markFirst tenant id processedAt (events.filter p)).getD (events.filter p) := by
  rw [markFirst_filter hp hmeant]
  cases markFirst tenant id processedAt events <;> rfl

/-- Whether there is an event to mark is decided among those that might be meant. -/
theorem isSome_markFirst_filter (hmeant : ∀ e, isEvent tenant id e = true → p e = true) :
    (markFirst tenant id processedAt (events.filter p)).isSome =
      (markFirst tenant id processedAt events).isSome := by
  rw [markFirst_filter hp hmeant, Option.isSome_map]

/-- Marking an event leaves those alone that are not meant. -/
theorem filter_getD_markFirst_of_not_meant
    (hspared : ∀ e, isEvent tenant id e = true → p e = false) :
    ((markFirst tenant id processedAt events).getD events).filter p = events.filter p := by
  cases hmark : markFirst tenant id processedAt events with
  | none => rfl
  | some marked =>
    rw [Option.getD_some]
    induction events generalizing marked with
    | nil => cases hmark
    | cons e rest ih =>
      rw [markFirst] at hmark
      split at hmark
      · -- The event that is marked is left out before and after.
        rename_i hevent
        have hout := hspared e hevent
        cases hmark
        rw [List.filter_cons_of_neg (by simp [hp, hout]),
          List.filter_cons_of_neg (by simp [hout])]
      · obtain ⟨rest', hrest, rfl⟩ := Option.map_eq_some_iff.1 hmark
        rw [List.filter_cons, List.filter_cons, ih _ hrest]

end Filter

/-! ### Events and their geofences -/

variable {s s' : Store} {g : Geofence}

/-- Every event is about a stored geofence of its own tenant. -/
def Owned (s : Store) : Prop :=
  ∀ e ∈ s.events, (s.find e.tenant e.geofence).isSome = true

theorem owned_empty : Store.empty.Owned := fun _ h => absurd h List.not_mem_nil

/-- Every event refers to a geofence of its own tenant. -/
theorem Owned.exists_geofence (h : s.Owned) {e : Event} (he : e ∈ s.events) :
    ∃ g, s.geofence? e.geofence = some g ∧ g.tenant = e.tenant := by
  obtain ⟨g, hg⟩ := Option.isSome_iff_exists.1 (h e he)
  exact ⟨g, find_eq_some_iff.1 hg⟩

/-- Changes of geofences that keep what events refer to keep ownership. -/
theorem Owned.of_find (h : s.Owned) (hevents : ∀ e ∈ s'.events, e ∈ s.events)
    (hfind : ∀ e ∈ s'.events, (s.find e.tenant e.geofence).isSome = true →
      (s'.find e.tenant e.geofence).isSome = true) : s'.Owned :=
  fun e he => hfind e he (h e (hevents e he))

/-- A new geofence leaves the others where events refer to them. -/
theorem Owned.insert (h : s.Owned) (hnew : s.geofence? g.id = none) : (s.insert g).Owned := by
  refine h.of_find (fun _ he => he) fun e he hsome => ?_
  obtain ⟨old, hold, -⟩ := h.exists_geofence he
  have hne : e.geofence ≠ g.id := by
    intro hid
    rw [hid, hnew] at hold
    cases hold
  rw [find, geofence?_insert hnew, if_neg hne]
  exact hsome

/-- A geofence that is replaced by one of the same tenant stays where events refer to it. -/
theorem Owned.replace (h : s.Owned) (hfound : (s.find g.tenant g.id).isSome = true) :
    (s.replace g).Owned := by
  refine h.of_find (fun _ he => he) fun e he hsome => ?_
  rw [find, geofence?_replace]
  split
  · -- The event is about the geofence that is replaced. The event and the new geofence have the
    -- tenant of the old one.
    rename_i hid
    obtain ⟨old, hold⟩ := Option.isSome_iff_exists.1 hfound
    obtain ⟨hstored, htenant⟩ := find_eq_some_iff.1 hold
    obtain ⟨found, hfound, howner⟩ := h.exists_geofence he
    rw [hid, hstored, Option.some_inj] at hfound
    subst hfound
    rw [hid, hstored, Option.map_some, ← howner, htenant]
    simp
  · exact hsome

/-- With a geofence all events about it are removed. -/
theorem Owned.remove (h : s.Owned) (id : Uuid) : (s.remove id).Owned := by
  refine h.of_find (fun _ he => (List.mem_filter.1 he).1) fun e he hsome => ?_
  -- An event that is still there is about another geofence.
  have hne : e.geofence ≠ id := by simpa using (List.mem_filter.1 he).2
  rw [find, geofence?_remove, if_neg hne]
  exact hsome

/-- Reports do not matter for ownership. -/
theorem Owned.of_same (h : s.Owned) (hgeofences : s'.geofences = s.geofences)
    (hevents : s'.events = s.events) : s'.Owned := by
  intro e he
  rw [hevents] at he
  rw [find, geofence?, hgeofences]
  exact h e he

end Store

end Geofencing
