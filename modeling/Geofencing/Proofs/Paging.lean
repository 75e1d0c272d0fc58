import Geofencing.Proofs.Purge
import Mathlib.Data.List.Sort

/-!
# Pages of the event history

A query selects events of a tenant, and a page of them is shown, the latest first. Clients may
report late, so the order in which events are recorded is not the order in which they occurred. A
page is therefore described against the one list that `NewestFirst` allows: sorted from the latest
to the earliest event, with events at the same instant in the order in which they were recorded.

* `NewestFirst.unique`: there is at most one such list.
* `Store.newestFirst_mergeSort`: sorting gives it.
* `Store.event_paging`: a page is the beginning of it, and all that follows from that.
-/

namespace Geofencing

/-! ## The latest events first -/

/-- A list holds the given events, the latest first, and those at one instant as they were given. -/
structure NewestFirst (events sorted : List Event) : Prop where
  /-- No event is later than one before it. -/
  descending : sorted.Pairwise fun a b => a.occurredAt.before b.occurredAt = false
  /-- The events at each instant are the given ones, in the given order. -/
  stable : ∀ t, (sorted.filter fun e => e.occurredAt = t) = events.filter fun e => e.occurredAt = t

namespace Instant

/-- Instants of which neither is before the other are the same. -/
theorem eq_of_not_before {a b : Instant} (hab : a.before b = false) (hba : b.before a = false) :
    a = b := by
  rw [← Bool.not_eq_true, before_iff] at hab hba
  have hseconds : a.seconds = b.seconds := by omega
  have hnanos : a.nanos = b.nanos := by omega
  rw [Instant.mk.injEq]
  exact ⟨hseconds, hnanos⟩

end Instant

namespace NewestFirst

variable {events sorted sorted' : List Event}

theorem mem_iff (h : NewestFirst events sorted) {e : Event} : e ∈ sorted ↔ e ∈ events := by
  have hmem := congrArg (e ∈ ·) (h.stable e.occurredAt)
  simpa using hmem

/-- Nothing is lost and nothing is added. -/
theorem perm (h : NewestFirst events sorted) : sorted.Perm events := by
  rw [List.perm_iff_count]
  intro e
  -- Copies of one event all occurred at the same instant.
  have hcount := congrArg (List.count e) (h.stable e.occurredAt)
  rwa [List.count_filter (by simp), List.count_filter (by simp)] at hcount

/-- What follows the first event is what is left of the given events without it. -/
theorem tail {e : Event} (h : NewestFirst events (e :: sorted)) :
    NewestFirst (events.erase e) sorted := by
  refine ⟨h.descending.of_cons, fun t => ?_⟩
  rw [← List.erase_filter, ← h.stable t]
  by_cases ht : e.occurredAt = t
  · simp [ht]
  · have hnot : e ∉ sorted.filter fun e' => e'.occurredAt = t := by simp [ht]
    rw [List.filter_cons_of_neg (by simpa using ht), List.erase_of_not_mem hnot]

/-- The order is determined by the events. -/
theorem unique (h : NewestFirst events sorted) (h' : NewestFirst events sorted') :
    sorted = sorted' := by
  induction sorted generalizing events sorted' with
  | nil =>
    -- No events are left, so there are none in the other list either.
    have hnil : sorted'.Perm [] := h'.perm.trans h.perm.symm
    exact hnil.eq_nil.symm
  | cons e rest ih =>
    cases sorted' with
    | nil => exact absurd (h'.mem_iff.2 (h.mem_iff.1 List.mem_cons_self)) List.not_mem_nil
    | cons e' rest' =>
      -- Each list has the head of the other one somewhere, so neither head is the later one.
      have hsame : e.occurredAt = e'.occurredAt := by
        apply Instant.eq_of_not_before
        · rcases List.mem_cons.1 (h.mem_iff.2 (h'.mem_iff.1 List.mem_cons_self)) with rfl | hmem
          · simp [Instant.before]
          · exact (List.pairwise_cons.1 h.descending).1 e' hmem
        · rcases List.mem_cons.1 (h'.mem_iff.2 (h.mem_iff.1 List.mem_cons_self)) with rfl | hmem
          · simp [Instant.before]
          · exact (List.pairwise_cons.1 h'.descending).1 e hmem
      -- Among the events at that instant both come first.
      have hheads := (h.stable e.occurredAt).trans (h'.stable e.occurredAt).symm
      rw [List.filter_cons_of_pos (by simp), List.filter_cons_of_pos (by simp [hsame])] at hheads
      obtain rfl : e = e' := (List.cons.inj hheads).1
      rw [ih h.tail h'.tail]

end NewestFirst

namespace Store

variable {s : Store} {tenant : Uuid} {q q' : EventQuery}

theorem newerFirst_iff {a b : Event} :
    newerFirst a b = true ↔ a.occurredAt.before b.occurredAt = false := by
  simp [newerFirst, Instant.notAfter]

/-- Sorting puts the latest events first and leaves events at one instant in their order. -/
theorem newestFirst_mergeSort (events : List Event) :
    NewestFirst events (events.mergeSort newerFirst) := by
  have htrans : ∀ a b c, newerFirst a b = true → newerFirst b c = true → newerFirst a c = true := by
    intro a b c
    simp only [newerFirst_iff, ← Bool.not_eq_true, Instant.before_iff]
    omega
  have htotal : ∀ a b, (newerFirst a b || newerFirst b a) = true := by
    intro a b
    simp only [Bool.or_eq_true, newerFirst_iff, ← Bool.not_eq_true, Instant.before_iff]
    omega
  refine ⟨(List.pairwise_mergeSort htrans htotal events).imp newerFirst_iff.1, fun t => ?_⟩
  -- The events at one instant are in order already, so sorting keeps them as a sublist. It has no
  -- others at that instant, so the sublist is all there is.
  have htied : (events.filter fun e => e.occurredAt = t).Pairwise
      fun a b => newerFirst a b = true := by
    apply List.pairwise_of_forall_mem_list
    intro a ha b hb
    simp only [List.mem_filter, decide_eq_true_eq] at ha hb
    simp [newerFirst_iff, ha.2, hb.2, Instant.before]
  have hkept : (events.filter fun e => e.occurredAt = t).Sublist
      ((events.mergeSort newerFirst).filter fun e => e.occurredAt = t) := by
    have hsub := (List.sublist_mergeSort htrans htotal htied List.filter_sublist).filter
      fun e => e.occurredAt = t
    simpa only [List.filter_filter, Bool.and_self] using hsub
  refine (hkept.eq_of_length_le ?_).symm
  exact ((List.mergeSort_perm events newerFirst).filter _).length_eq.le

/-- The events that a query selects for a tenant: the tenant's own, of the given actor and at the
given geofence if there are any. -/
theorem selected_eq (s : Store) (tenant : Uuid) (q : EventQuery) :
    s.selected tenant q = s.events.filter fun e => e.tenant = tenant ∧
      (∀ actor ∈ q.actor, e.actor = actor) ∧ ∀ geofence ∈ q.geofence, e.geofence = geofence := by
  refine List.filter_congr fun e _ => ?_
  rw [Bool.eq_iff_iff]
  simp [EventQuery.selects, Option.all_eq_true, and_assoc]

/-- An event is shown with the name that its geofence has now, if that is still stored. -/
theorem named_eq (s : Store) (e : Event) : s.named e =
    { e with geofenceName := ((s.geofence? e.geofence).map Geofence.name).or e.geofenceName } := by
  rw [named]
  cases s.geofence? e.geofence <;> rfl

/-- A page is the beginning of the selected events, the latest first, under their present names. -/
theorem page_eq (s : Store) (tenant : Uuid) (q : EventQuery) :
    s.page tenant q =
      (((s.selected tenant q).mergeSort newerFirst).take q.effectiveLimit).map s.named := by
  -- Names do not matter for the order.
  have hnames : ∀ a b, newerFirst a b = newerFirst (s.named a) (s.named b) := by
    intro a b
    simp [newerFirst, named_eq]
  rw [page, ← List.map_mergeSort fun a _ b _ => hnames a b, List.map_take]

theorem selected_of_same (hactor : q'.actor = q.actor) (hgeofence : q'.geofence = q.geofence) :
    s.selected tenant q' = s.selected tenant q := by
  rw [selected_eq, selected_eq, hactor, hgeofence]

end Store

/-- A larger limit allows no fewer events. -/
theorem EventQuery.effectiveLimit_mono {q q' : EventQuery}
    (h : q.limit.getD defaultLimit ≤ q'.limit.getD defaultLimit) :
    q.effectiveLimit ≤ q'.effectiveLimit := by
  unfold effectiveLimit maxLimit
  omega

/-- A page has room for 50 events unless asked otherwise, for at least one and at most 200. -/
theorem EventQuery.effectiveLimit_eq (q : EventQuery) :
    q.effectiveLimit = (max 1 (min 200 (q.limit.getD 50))).toNat := by
  rw [effectiveLimit, maxLimit, defaultLimit, min_comm]

/-- There is exactly one list of the events that a query selects, the latest first and those at one
instant in the order in which they were recorded. A page shows the beginning of it, each event with
the present name of its geofence: 50 events unless a limit is given, at least one and at most 200.
So no event that is left out is later than one that is shown, a smaller limit shows the beginning of
what a larger one shows, and how many events there are does not depend on the limit. -/
theorem Store.event_paging (s : Store) (tenant : Uuid) (q : EventQuery) :
    let matching := s.events.filter fun e => e.tenant = tenant ∧
      (∀ actor ∈ q.actor, e.actor = actor) ∧ ∀ geofence ∈ q.geofence, e.geofence = geofence
    let size := (max 1 (min 200 (q.limit.getD 50))).toNat
    ∃ sorted page, (∀ l, NewestFirst matching l ↔ l = sorted) ∧
      s.perform (.listEvents tenant q) = .ok (page, s) ∧
      page = (sorted.take (min size matching.length)).map (fun e =>
        { e with geofenceName :=
            ((s.geofence? e.geofence).map Geofence.name).or e.geofenceName }) ∧
      page.length = min size matching.length ∧ page.length ≤ 200 ∧
      (∀ shown ∈ page, ∀ e ∈ sorted.drop page.length,
        shown.occurredAt.before e.occurredAt = false) ∧
      (∀ q' larger, q'.actor = q.actor → q'.geofence = q.geofence →
        q.limit.getD 50 ≤ q'.limit.getD 50 →
        s.perform (.listEvents tenant q') = .ok (larger, s) → page <+: larger) ∧
      ∀ limit, s.perform (.countEvents tenant { q with limit }) = .ok (matching.length, s) := by
  intro matching size
  have hsize : q.effectiveLimit = size := q.effectiveLimit_eq
  have hselected : s.selected tenant q = matching := s.selected_eq tenant q
  have hsorted := newestFirst_mergeSort matching
  have hlength : (matching.mergeSort newerFirst).length = matching.length :=
    List.length_mergeSort matching
  have hpage : s.page tenant q = ((matching.mergeSort newerFirst).take
      (min size matching.length)).map s.named := by
    rw [page_eq, hselected, hsize, ← hlength, ← List.take_eq_take_min]
  have hpage_length : (s.page tenant q).length = min size matching.length := by
    rw [hpage, List.length_map, List.length_take, hlength]
    omega
  refine ⟨matching.mergeSort newerFirst, s.page tenant q, fun l => ?_, rfl, ?_, hpage_length,
    by omega, ?_, ?_, fun limit => ?_⟩
  · constructor
    · exact fun h => h.unique hsorted
    · rintro rfl
      exact hsorted
  · rw [hpage]
    exact congrArg (List.map · _) (funext s.named_eq)
  · intro shown hshown e he
    rw [hpage_length] at he
    rw [hpage] at hshown
    obtain ⟨e', he', rfl⟩ := List.mem_map.1 hshown
    rw [named_eq]
    -- The sorted list is what is shown, followed by what is left out.
    have hsplit := hsorted.descending
    rw [← List.take_append_drop (min size matching.length)
      (matching.mergeSort newerFirst), List.pairwise_append] at hsplit
    exact hsplit.2.2 e' he' e he
  · rintro q' _ hactor hgeofence hle ⟨⟩
    rw [page_eq, page_eq, selected_of_same hactor hgeofence]
    exact (List.take_prefix_take_left (EventQuery.effectiveLimit_mono hle)).map s.named
  · rw [← hselected]
    exact congrArg (fun l : List Event => Except.ok (l.length, s)) (selected_of_same rfl rfl)

/-! ### A rush at the gate -/

namespace Campus

/-- The pupil comes onto the grounds. -/
def entrance (n : Nat) (seconds : Int) : Event :=
  { id := .ofNat n, tenant := school, actor := pupil, geofence := grounds.id, geofenceName := none
    kind := .enter, coordinate := ⟨0, 0⟩, occurredAt := ⟨seconds, 0⟩, processedAt := none
    createdAt := ⟨100, 0⟩ }

/-- Entrances at one instant. -/
def ties (count : Nat) : List Event :=
  (List.range count).map fun n => entrance n 10

/-- After 250 entrances at one instant a later one is recorded, and then one that occurred before
all of them. -/
def rush : Store :=
  ⟨[(grounds.id, grounds)], [], ties 250 ++ [entrance 250 20, entrance 251 5]⟩

theorem exists_of_mem_ties {count : Nat} {e : Event} (h : e ∈ ties count) :
    ∃ n, e = entrance n 10 := by
  obtain ⟨n, -, rfl⟩ := List.mem_map.1 h
  exact ⟨n, rfl⟩

theorem take_ties {count total : Nat} (h : count ≤ total) :
    (ties total).take count = ties count := by
  rw [ties, ← List.map_take, List.take_range, Nat.min_eq_left h, ties]

/-- All that is recorded is about the school. -/
theorem selected_rush : (rush.events.filter fun e => e.tenant = school ∧
    (∀ actor ∈ (none : Option Uuid), e.actor = actor) ∧
      ∀ geofence ∈ (none : Option Uuid), e.geofence = geofence) = rush.events := by
  refine List.filter_eq_self.2 fun e he => ?_
  have htenant : e.tenant = school := by
    obtain he | he := List.mem_append.1 he
    · obtain ⟨n, rfl⟩ := exists_of_mem_ties he
      rfl
    · obtain rfl | he := List.mem_cons.1 he
      · rfl
      · rw [List.mem_singleton.1 he]
        rfl
  simp [htenant]

/-- The late entrance comes first and the early one last, though both were recorded after the
others. -/
theorem newestFirst_rush (count : Nat) :
    NewestFirst (ties count ++ [entrance 250 20, entrance 251 5])
      (entrance 250 20 :: ties count ++ [entrance 251 5]) := by
  have hties : ∀ e ∈ ties count, e.occurredAt = ⟨10, 0⟩ := by
    intro e he
    obtain ⟨n, rfl⟩ := exists_of_mem_ties he
    rfl
  constructor
  · rw [List.cons_append, List.pairwise_cons, List.pairwise_append]
    refine ⟨fun e he => ?_, ?_, List.pairwise_singleton _ _, fun a ha b hb => ?_⟩
    · obtain he | he := List.mem_append.1 he
      · rw [hties e he]
        decide
      · rw [List.mem_singleton.1 he]
        decide
    · refine List.pairwise_of_forall_mem_list fun a ha b hb => ?_
      rw [hties a ha, hties b hb]
      decide
    · rw [hties a ha, List.mem_singleton.1 hb]
      decide
  · intro t
    -- Only the late entrance changes its place, and no other one is at its instant.
    by_cases ht : t = ⟨20, 0⟩
    · subst ht
      have hnone : (ties count).filter (fun e => e.occurredAt = ⟨20, 0⟩) = [] := by
        refine List.filter_eq_nil_iff.2 fun e he => ?_
        rw [hties e he]
        decide
      simp [hnone, entrance]
    · simp [entrance, Ne.symm ht]

end Campus

/-- With a limit of 0 the late entrance alone is shown, without a limit 49 of the others after it,
and with a limit of 500 it is 199 of them, in the order in which they were recorded. -/
theorem Store.event_paging_campus :
    let page := fun limit => Campus.rush.perform (.listEvents Campus.school ⟨none, none, limit⟩)
    let shown := fun count => (Campus.entrance 250 20 :: Campus.ties count).map fun e =>
      { e with geofenceName := some "Grounds" }
    page (some 0) = .ok (shown 0, Campus.rush) ∧ page none = .ok (shown 49, Campus.rush) ∧
      page (some 500) = .ok (shown 199, Campus.rush) := by
  intro page shown
  have hpage : ∀ limit count, (max 1 (min 200 (limit.getD 50))).toNat = count + 1 → count ≤ 199 →
      page limit = .ok (shown count, Campus.rush) := by
    intro limit count hsize hcount
    obtain ⟨sorted, listed, hsorted, hlisted, hlisted_eq, -⟩ :=
      event_paging Campus.rush Campus.school ⟨none, none, limit⟩
    dsimp only at hsorted hlisted_eq
    rw [Campus.selected_rush] at hsorted hlisted_eq
    obtain rfl := (hsorted _).1 (Campus.newestFirst_rush 250)
    have hlength : Campus.rush.events.length = 252 := by simp [Campus.rush, Campus.ties]
    have hall : count ≤ (Campus.ties 250).length := by simp [Campus.ties]; omega
    rw [hsize, hlength, Nat.min_eq_left (by omega), List.cons_append, List.take_succ_cons,
      List.take_append_of_le_length hall, Campus.take_ties (by omega)] at hlisted_eq
    -- All events are about the one geofence, which has its name.
    have hnames : listed = shown count := by
      refine hlisted_eq.trans (List.map_congr_left fun e he => ?_)
      obtain rfl | he := List.mem_cons.1 he
      · rfl
      · obtain ⟨n, rfl⟩ := Campus.exists_of_mem_ties he
        rfl
    exact hnames ▸ hlisted
  exact ⟨hpage _ 0 rfl (by decide), hpage _ 49 rfl (by decide), hpage _ 199 rfl (by decide)⟩

end Geofencing
