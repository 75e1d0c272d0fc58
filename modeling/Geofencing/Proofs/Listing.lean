import Geofencing.Proofs.Interruption
import Geofencing.Proofs.Rows

/-!
# Listings do not depend on how geofences are kept

Geofences are kept by identifier and in no particular order, and a listing sorts them. Submissions
evaluate geofences in the order of a listing, so what they find, record and tell is in that order
too. It has to be the same whatever calls led to the store and however the store keeps what they
left: `Store.listing_canonical`.

The reason is that a store that is the work of calls has each geofence once and under its own
identifier (`Store.indexed_foldl_after`), so what can be looked up determines what is listed, and
that the order of a listing leaves no choice (`Geofence.Precedes`).
-/

namespace Geofencing

/-- The listing order: by name, character by character in the order of Unicode scalar values, and
then by age. -/
def Geofence.Precedes (a b : Geofence) : Prop :=
  List.Lex (fun c d : Char => c.toNat < d.toNat) a.name.toList b.name.toList ∨
    a.name = b.name ∧ a.createdAt.before b.createdAt = true

namespace Store

variable {s : Store} {tenant : Uuid} {calls : List StoreCall}

/-! ## Stores that are the work of calls -/

/-- No call stores a geofence twice or under a foreign identifier. -/
theorem Indexed.after (h : s.Indexed) (call : StoreCall) : (s.after call).Indexed := by
  -- Only three calls change the table of geofences.
  cases call with
  | create g =>
    rw [after_create]
    split
    · exact h
    · rename_i hnew
      exact h.insert (by simpa using hnew)
  | update g =>
    rw [after_update]
    split
    · exact h.replace g
    · exact h
  | delete tenant id =>
    rw [after_delete]
    split
    · exact h.remove id
    · exact h
  | markProcessed tenant id t =>
    rw [after_markProcessed]
    exact h.of_geofences rfl
  | insertReport | deleteBefore | insertEvent => exact h.of_geofences rfl
  | findActive | find | list | latest | listEvents | countEvents => exact h

theorem indexed_foldl_after (h : s.Indexed) (calls : List StoreCall) :
    (calls.foldl Store.after s).Indexed := by
  induction calls generalizing s with
  | nil => exact h
  | cons call rest ih => exact ih (h.after call)

/-- A store keeps, in any order, the geofences that calls leave in a store that was empty. -/
def LeftBy (calls : List StoreCall) (s : Store) : Prop :=
  s.geofences.Perm (calls.foldl Store.after .empty).geofences

theorem LeftBy.indexed (h : s.LeftBy calls) : s.Indexed := by
  obtain ⟨hdistinct, hown⟩ := indexed_foldl_after indexed_empty calls
  constructor
  · exact (h.map Prod.fst).nodup_iff.2 hdistinct
  · intro entry hentry
    exact hown entry (h.mem_iff.1 hentry)

/-! ## The order of a listing -/

/-- What comes earlier in a listing comes strictly earlier in the listing order, unless there are
ties. -/
theorem list_precedes (hindexed : s.Indexed) (hties : s.NoTies tenant) (all : Bool) :
    (s.list tenant all).Pairwise Geofence.Precedes := by
  have hdistinct : (s.list tenant all).Nodup := .of_map _ (nodup_list hindexed all)
  refine ((s.list_sorted tenant all).and hdistinct).imp_of_mem ?_
  intro a b ha hb hab
  obtain ⟨hsorted, hne⟩ := hab
  rcases listedBefore_iff.1 hsorted with hname | ⟨hname, hage⟩
  · exact .inl (String.lt_iff.1 hname)
  · -- Equal names and the same age would make it one geofence, and none is listed twice.
    refine .inr ⟨hname, ?_⟩
    by_contra hnot
    have hback : listedBefore b a = true := by
      rw [listedBefore_iff]
      exact .inr ⟨hname.symm, by simpa using hnot⟩
    obtain ⟨-, hsame⟩ := eq_of_listedBefore hsorted hback
    exact hne (hties a b ((mem_list_iff hindexed).1 ha).1 ((mem_list_iff hindexed).1 hb).1 hname
      hsame)

/-- Let two stores keep what two sequences of calls left, each in its own order, and let the same
geofence be found in both under every identifier. If no two geofences of a tenant have the same name
and age, its listings are the same in both stores. They are sorted by name and then by age, and hold
each geofence of the tenant once, the inactive ones only if they are asked for. -/
theorem listing_canonical (calls₁ calls₂ : List StoreCall) (s₁ s₂ : Store) (tenant : Uuid)
    (all : Bool) (h₁ : s₁.LeftBy calls₁) (h₂ : s₂.LeftBy calls₂)
    (hsame : ∀ id, s₁.geofence? id = s₂.geofence? id) (hties : s₁.NoTies tenant) :
    ∃ listing, s₁.perform (.list tenant all) = .ok (listing, s₁) ∧
      s₂.perform (.list tenant all) = .ok (listing, s₂) ∧
      (all = false → s₁.perform (.findActive tenant) = .ok (listing, s₁) ∧
        s₂.perform (.findActive tenant) = .ok (listing, s₂)) ∧
      listing.Pairwise Geofence.Precedes ∧ listing.Nodup ∧
      ∀ g, g ∈ listing ↔ (∃ id, s₁.geofence? id = some g) ∧ g.tenant = tenant ∧
        (all = true ∨ g.active = true) := by
  have hfind : ∀ id, s₁.find tenant id = s₂.find tenant id := by
    intro id
    rw [find, find, hsame id]
  have hlist : s₁.list tenant all = s₂.list tenant all :=
    list_eq_of_find_eq hfind h₁.indexed h₂.indexed hties all
  refine ⟨s₁.list tenant all, rfl, ?_, ?_, list_precedes h₁.indexed hties all,
    .of_map _ (nodup_list h₁.indexed all), fun g => ?_⟩
  · rw [hlist]
    rfl
  · rintro rfl
    refine ⟨rfl, ?_⟩
    rw [hlist]
    rfl
  · rw [mem_list_iff h₁.indexed, find_eq_some_iff, and_assoc]
    refine and_congr_left fun _ => ⟨fun hg => ⟨_, hg⟩, ?_⟩
    -- What is found under any identifier is found under its own.
    rintro ⟨id, hg⟩
    rwa [h₁.indexed.id_eq hg]

end Store

/-! ### Two ways to a campus -/

namespace Campus

/-- First the grounds and then the library are created. -/
def planned : List StoreCall := [.create grounds, .create library]

/-- The library comes first and under another name, and the grounds are created twice. -/
def improvised : List StoreCall :=
  [.create { library with name := "Annex" }, .create grounds, .update library, .create grounds]

end Campus

/-- However the campus came about, the grounds are listed before the library. -/
theorem Store.listing_canonical_campus :
    let s₁ := Campus.planned.foldl Store.after .empty
    let s₂ := Campus.improvised.foldl Store.after .empty
    (∀ id, s₁.geofence? id = s₂.geofence? id) ∧ s₁.NoTies Campus.school ∧
      ∃ listing, s₁.perform (.list Campus.school false) = .ok (listing, s₁) ∧
        s₂.perform (.findActive Campus.school) = .ok (listing, s₂) ∧
        listing.map Geofence.name = ["Grounds", "Library"] := by
  intro s₁ s₂
  have hgeofences₁ : s₁.geofences =
      [(Campus.grounds.id, Campus.grounds), (Campus.library.id, Campus.library)] := rfl
  have hgeofences₂ : s₂.geofences =
      [(Campus.library.id, Campus.library), (Campus.grounds.id, Campus.grounds)] := rfl
  have hids : Campus.grounds.id ≠ Campus.library.id := by decide
  have hsame : ∀ id, s₁.geofence? id = s₂.geofence? id := by
    intro id
    rw [geofence?, geofence?, hgeofences₁, hgeofences₂]
    simp only [List.lookup_cons, List.lookup_nil]
    -- No identifier is that of both.
    split <;> split <;> simp_all
  have hfound : ∀ g, s₁.find Campus.school g.id = some g →
      g = Campus.grounds ∨ g = Campus.library := by
    intro g hg
    have hindexed : s₁.Indexed := indexed_foldl_after indexed_empty Campus.planned
    obtain ⟨-, hmem⟩ := (geofence?_eq_some_iff hindexed).1 (find_eq_some_iff.1 hg).1
    rw [hgeofences₁] at hmem
    rcases List.mem_pair.1 hmem with h | h
    · exact .inl (Prod.mk.inj h).2
    · exact .inr (Prod.mk.inj h).2
  have hties : s₁.NoTies Campus.school := by
    intro g g' hg hg' hname
    rcases hfound g hg with rfl | rfl <;> rcases hfound g' hg' with rfl | rfl
    · exact fun _ => rfl
    · exact absurd hname (by decide)
    · exact absurd hname (by decide)
    · exact fun _ => rfl
  refine ⟨hsame, hties, ?_⟩
  obtain ⟨listing, hlist, -, hactive, -⟩ := listing_canonical Campus.planned Campus.improvised s₁ s₂
    Campus.school false (.refl _) (.refl _) hsame hties
  refine ⟨listing, hlist, (hactive rfl).2, ?_⟩
  have hopened : s₁.perform (.list Campus.school false) =
      .ok ([Campus.grounds, Campus.library], s₁) :=
    congrArg (fun l => Except.ok (l, s₁)) Campus.list_opened
  rw [hopened] at hlist
  cases hlist
  rfl

end Geofencing
