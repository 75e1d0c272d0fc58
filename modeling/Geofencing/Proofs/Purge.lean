import Geofencing.Proofs.Submission
import Mathlib.Data.List.Basic

/-!
# The algebra of purges

A purge removes the reports of its scope that were observed before its cutoff. What a sequence of
purges removes depends on neither their order nor their repetitions: it is what at least one of
them removes (`Store.purges_eq`). Everything else about sequences follows from comparing when two
of them remove the same reports:

* two purges of one scope remove what the one with the later cutoff removes;
* one purge for each tenant removes what a purge without a scope removes.
-/

namespace Geofencing

namespace Instant

/-- The later of two instants. -/
def later (a b : Instant) : Instant :=
  if a.before b then b else a

theorem before_iff {a b : Instant} :
    a.before b = true ↔ a.seconds < b.seconds ∨ a.seconds = b.seconds ∧ a.nanos < b.nanos := by
  simp [before]

/-- What comes before one of two instants comes before the later one. -/
theorem before_later (t a b : Instant) :
    t.before (a.later b) = (t.before a || t.before b) := by
  rw [Bool.eq_iff_iff, Bool.or_eq_true, later]
  split
  · -- The second one is later, so it has all that is before the first one before it.
    rename_i hlt
    simp only [before_iff] at hlt ⊢
    omega
  · rename_i hle
    simp only [before_iff] at hle ⊢
    omega

end Instant

namespace Store

/-- Carry out purges one after the other, each with its scope and its cutoff, and add up how many
reports they remove. -/
def purges (s : Store) : List (Option Uuid × Instant) → Except DomainError (Nat × Store)
  | [] => .ok (0, s)
  | (tenant, cutoff) :: rest => do
    let (n, s') ← s.perform (.deleteBefore tenant cutoff)
    let (m, s'') ← s'.purges rest
    return (n + m, s'')

/-- Whether one of several purges removes a report. -/
def expiredBy (calls : List (Option Uuid × Instant)) (r : Report) : Bool :=
  calls.any fun call => expired call.1 call.2 r

/-- Every report is removed by a purge or kept. -/
theorem purgeCount_add (s : Store) (tenant : Option Uuid) (cutoff : Instant) :
    s.purgeCount tenant cutoff + (s.purge tenant cutoff).reports.length = s.reports.length :=
  (List.length_eq_length_filter_add _).symm

/-- A sequence of purges removes each report that one of them removes, once. -/
theorem purges_eq (s : Store) (calls : List (Option Uuid × Instant)) :
    s.purges calls = .ok ((s.reports.filter (expiredBy calls)).length,
      { s with reports := s.reports.filter fun r => !expiredBy calls r }) := by
  induction calls generalizing s with
  | nil =>
    have hnone : expiredBy [] = fun _ => false := rfl
    simp [purges, hnone]
  | cons call rest ih =>
    obtain ⟨tenant, cutoff⟩ := call
    have hkept : ((s.purge tenant cutoff).reports.filter fun r => !expiredBy rest r) =
        s.reports.filter fun r => !expiredBy ((tenant, cutoff) :: rest) r := by
      rw [purge, List.filter_filter]
      refine List.filter_congr fun r _ => ?_
      simp [expiredBy, Bool.and_comm]
    -- The later purges see only what the first one leaves, so the numbers add up because what is
    -- left in the end is the same.
    have hcount : s.purgeCount tenant cutoff +
        ((s.purge tenant cutoff).reports.filter (expiredBy rest)).length =
          (s.reports.filter (expiredBy ((tenant, cutoff) :: rest))).length := by
      have hfirst := s.purgeCount_add tenant cutoff
      have hrest := (s.purge tenant cutoff).reports.length_eq_length_filter_add (expiredBy rest)
      have hall :=
        s.reports.length_eq_length_filter_add (expiredBy ((tenant, cutoff) :: rest))
      rw [hkept] at hrest
      omega
    rw [← hcount, ← hkept]
    simp only [purges, perform, ih]
    rfl

/-- Sequences of purges that remove the same reports are interchangeable. -/
theorem purges_congr {s : Store} {calls calls' : List (Option Uuid × Instant)}
    (h : ∀ r ∈ s.reports, expiredBy calls r = expiredBy calls' r) :
    s.purges calls = s.purges calls' := by
  rw [purges_eq, purges_eq, List.filter_congr h,
    List.filter_congr fun r hr => congrArg (!·) (h r hr)]

/-- One purge is a sequence of purges. -/
theorem perform_deleteBefore (s : Store) (tenant : Option Uuid) (cutoff : Instant) :
    s.perform (.deleteBefore tenant cutoff) = s.purges [(tenant, cutoff)] :=
  rfl

/-- After a purge nothing is left for the same purge to remove. -/
theorem perform_purge_self (s : Store) (tenant : Option Uuid) (cutoff : Instant) :
    (s.purge tenant cutoff).perform (.deleteBefore tenant cutoff) =
      .ok (0, s.purge tenant cutoff) := by
  have hkept : ∀ r ∈ (s.purge tenant cutoff).reports, expiredBy [(tenant, cutoff)] r = false := by
    simp [purge, expiredBy]
  rw [perform_deleteBefore, purges_eq, List.filter_eq_nil_iff.2 fun r hr => by simp [hkept r hr],
    List.filter_eq_self.2 fun r hr => by simp [hkept r hr]]
  rfl

/-- Two purges of one scope remove what the one with the later cutoff removes. -/
theorem expiredBy_pair (tenant : Option Uuid) (c d : Instant) (r : Report) :
    expiredBy [(tenant, c), (tenant, d)] r = expiredBy [(tenant, c.later d)] r := by
  simp [expiredBy, expired, Instant.before_later, Bool.and_or_distrib_left]

/-- Purges of single tenants remove a report of one of these tenants if a purge without a scope
does. -/
theorem expiredBy_tenants {tenants : List Uuid} {r : Report} (h : r.tenant ∈ tenants)
    (cutoff : Instant) :
    expiredBy (tenants.map fun tenant => (some tenant, cutoff)) r =
      expiredBy [(none, cutoff)] r := by
  rw [Bool.eq_iff_iff]
  simp only [expiredBy, List.any_map, List.any_eq_true, Function.comp_apply, List.any_cons,
    List.any_nil, Bool.or_false, expired, Option.all_some, Option.all_none, Bool.and_eq_true,
    beq_iff_eq, true_and]
  constructor
  · rintro ⟨_, -, -, hbefore⟩
    exact hbefore
  · intro hbefore
    exact ⟨r.tenant, h, rfl, hbefore⟩

/-- A purge keeps, in their order, exactly the reports that are out of its scope or were not
observed before its cutoff, and tells how many it removed. Two purges of one scope do what the one
with the later cutoff does, the numbers adding up, and a purge that is repeated removes nothing. A
purge without a scope does what purges of single tenants do, in any order and however often, as long
as every tenant with a report is among them. -/
theorem purge_algebra (s : Store) :
    (∀ tenant cutoff, ∃ n s', s.perform (.deleteBefore tenant cutoff) = .ok (n, s') ∧
      s'.reports = s.reports.filter
        (fun r => tenant.any (· != r.tenant) || cutoff.notAfter r.recordedAt) ∧
      n + s'.reports.length = s.reports.length ∧
      s'.geofences = s.geofences ∧ s'.events = s.events ∧
      s'.perform (.deleteBefore tenant cutoff) = .ok (0, s')) ∧
    (∀ tenant c d, s.purges [(tenant, c), (tenant, d)] =
      s.perform (.deleteBefore tenant (c.later d))) ∧
    ∀ (cutoff : Instant) (tenants : List Uuid), (∀ r ∈ s.reports, r.tenant ∈ tenants) →
      s.purges (tenants.map fun tenant => (some tenant, cutoff)) =
        s.perform (.deleteBefore none cutoff) := by
  refine ⟨fun tenant cutoff => ?_, fun tenant c d => ?_, fun cutoff tenants htenants => ?_⟩
  · refine ⟨_, _, rfl, ?_, s.purgeCount_add tenant cutoff, rfl, rfl, ?_⟩
    · refine List.filter_congr fun r _ => ?_
      cases tenant with
      | none => simp [expired, Instant.notAfter]
      | some id => simp [expired, Instant.notAfter, bne, Bool.beq_comm]
    · exact perform_purge_self s tenant cutoff
  · -- Purges in a row remove what any of them would remove.
    rw [perform_deleteBefore]
    exact purges_congr fun r _ => expiredBy_pair tenant c d r
  · rw [perform_deleteBefore]
    exact purges_congr fun r hr => expiredBy_tenants (htenants r hr) cutoff

end Store

namespace Campus

/-- Reports of the school and of a neighbour, some of them old. -/
def backlog : Store :=
  ⟨[], [⟨.ofNat 1, school, pupil, .at ⟨1, 1⟩ ⟨40, 0⟩, ⟨50, 0⟩⟩,
    ⟨.ofNat 2, .ofNat 6, .ofNat 8, .at ⟨0, 1⟩ ⟨60, 0⟩, ⟨60, 0⟩⟩,
    ⟨.ofNat 3, school, pupil, .at ⟨0, 0⟩ ⟨70, 0⟩, ⟨75, 0⟩⟩], []⟩

end Campus

/-- The neighbour's reports are purged twice and the school's once in between, which leaves the one
report that was observed at the cutoff. -/
theorem Store.purge_algebra_campus :
    let tenants := [.ofNat 6, Campus.school, .ofNat 6]
    (∀ r ∈ Campus.backlog.reports, r.tenant ∈ tenants) ∧
      Campus.backlog.purges (tenants.map fun tenant => (some tenant, ⟨70, 0⟩)) =
        Campus.backlog.perform (.deleteBefore none ⟨70, 0⟩) ∧
      Campus.backlog.purgeCount none ⟨70, 0⟩ = 2 :=
  ⟨by decide, (purge_algebra Campus.backlog).2.2 _ _ (by decide), by decide⟩

end Geofencing
