import Geofencing.Proofs.Isolation

/-!
# Integrity of what is stored

Reports and events get their identifiers one after another, in the order in which they are stored.
`Store.Traced` says so: the identifiers in each of the two tables are among the first ones drawn, in
the same order. Whatever is removed later, this stays true, so no identifier is stored twice as long
as none is drawn twice. Together with ownership of geofences this gives
`Http.App.referential_integrity`.
-/

namespace Geofencing

namespace Store

variable {env : Surroundings} {s s' : Store} {m n : Nat}

/-- The identifiers of reports and events are among the first `n` drawn, in their order. -/
structure Traced (env : Surroundings) (n : Nat) (s : Store) : Prop where
  reports : (s.reports.map Report.id).Sublist ((List.range n).map env.ids)
  events : (s.events.map Event.id).Sublist ((List.range n).map env.ids)

theorem traced_empty : Store.empty.Traced env n :=
  ⟨List.nil_sublist _, List.nil_sublist _⟩

theorem range_sublist (h : m ≤ n) :
    ((List.range m).map env.ids).Sublist ((List.range n).map env.ids) :=
  (List.range_sublist.2 h).map _

/-- Drawing identifiers and removing rows keep the others traced. -/
theorem Traced.mono (h : s.Traced env m) (hle : m ≤ n) (hreports : s'.reports.Sublist s.reports)
    (hevents : s'.events.Sublist s.events) : s'.Traced env n :=
  ⟨((hreports.map _).trans h.reports).trans (range_sublist hle),
    ((hevents.map _).trans h.events).trans (range_sublist hle)⟩

end Store

/-! ## Submissions -/

namespace Tracker

variable {env : Surroundings} {w w' : World} {tenant actor : Uuid} {o : Observation} {n : Nat}

/-- The identifiers drawn up to a world are those drawn up to an earlier one and those since. -/
theorem map_ids_range (h : w.drawn ≤ w'.drawn) :
    (List.range w'.drawn).map env.ids = (List.range w.drawn).map env.ids ++ env.drawn w w' := by
  have hsum : w'.drawn = w.drawn + (w'.drawn - w.drawn) := by omega
  rw [Surroundings.drawn, ← List.map_append, List.range_eq_range', List.range_eq_range', hsum,
    Nat.add_sub_cancel_left, ← List.range'_append_1, Nat.zero_add]

private theorem traced_of_recorded {fs : List Finding} {log : List (Finding × Event)}
    (htraced : w.store.Traced env n) (hn : n ≤ w.drawn)
    (h : Recorder.Recorded env tenant actor o.coordinate o.recordedAt
      (w.reported env tenant actor o) fs log w') : w'.store.Traced env w'.drawn := by
  have hdrawn : (w.reported env tenant actor o).drawn = w.drawn + 1 := rfl
  -- Time goes on: as many identifiers were drawn as before, and then some.
  have hle : (w.reported env tenant actor o).drawn ≤ w'.drawn := by
    rw [h.drawn]
    omega
  constructor
  · -- The report has the identifier that was drawn first.
    have hreports : w'.store.reports.map Report.id =
        w.store.reports.map Report.id ++ [env.ids w.drawn] := by
      rw [h.reports]
      simp [World.reported, Store.addReport, World.report]
    have hfirst : ((List.range (w.drawn + 1)).map env.ids) =
        (List.range w.drawn).map env.ids ++ [env.ids w.drawn] := by
      rw [List.range_succ, List.map_append, List.map_singleton]
    have hold := htraced.reports.trans (Store.range_sublist hn)
    rw [hreports]
    refine List.Sublist.trans ?_ (Store.range_sublist hle)
    rw [hdrawn, hfirst]
    exact hold.append (List.Sublist.refl _)
  · -- Marks do not touch identifiers, and each new event has the next one.
    have hids : ∀ events : List Event,
        (events.map Event.unmarked).map Event.id = events.map Event.id := by
      intro events
      rw [List.map_map]
      rfl
    have hevents : w'.store.events.map Event.id =
        w.store.events.map Event.id ++ env.drawn (w.reported env tenant actor o) w' := by
      rw [← hids, h.map_unmarked, List.map_append, hids, ← h.map_id, List.map_map]
      rfl
    have hold := htraced.events.trans
      (Store.range_sublist (Nat.le_trans hn (Nat.le_succ w.drawn)))
    rw [hevents, map_ids_range hle]
    exact hold.append (List.Sublist.refl _)

/-- However a submission ends, what is stored is traced. -/
theorem Submitted.traced {result : Option (Except DomainError Outcome)}
    (h : Submitted env tenant actor o w result w') (htraced : w.store.Traced env n)
    (hn : n ≤ w.drawn) (hle : n ≤ w'.drawn) : w'.store.Traced env w'.drawn := by
  cases h with
  | invalid => exact htraced.mono hle (List.Sublist.refl _) (List.Sublist.refl _)
  | rejected hstore =>
    rw [hstore]
    exact htraced.mono hle (List.Sublist.refl _) (List.Sublist.refl _)
  | accepted _ hrecorded => exact traced_of_recorded htraced hn hrecorded
  | @interrupted before after f kind log w₁ _ _ _ hrecorded _ =>
    -- One more identifier was drawn for the event that was refused.
    have hturned : w₁.drawn ≤ w₁.turnedAway.drawn := Nat.le_succ _
    have hstored := traced_of_recorded htraced hn hrecorded
    exact hstored.mono hturned (List.Sublist.refl _) (List.Sublist.refl _)

end Tracker

/-! ## Reachable worlds -/

namespace Http

/-- Every deed keeps what is stored traced. -/
theorem Deed.traced {app : App} {env : Surroundings} {req : Request} {w w' : World}
    {asked : Method} {resource : Option Resource} {result : Option (Except Refusal Response)}
    {n : Nat} (h : Deed app env req w asked resource result w') (htraced : w.store.Traced env n)
    (hn : n ≤ w.drawn) (hle : n ≤ w'.drawn) : w'.store.Traced env w'.drawn := by
  cases h with
  | nothing store _ =>
    rw [store]
    exact htraced.mono hle (List.Sublist.refl _) (List.Sublist.refl _)
  | submitted _ _ _ _ submitted => exact submitted.traced htraced hn hle
  | created => exact htraced.mono hle (List.Sublist.refl _) (List.Sublist.refl _)
  | updated => exact htraced.mono hle (List.Sublist.refl _) (List.Sublist.refl _)
  | deleted => exact htraced.mono hle (List.Sublist.refl _) List.filter_sublist
  | purged => exact htraced.mono hle List.filter_sublist (List.Sublist.refl _)

namespace App

variable {app : App} {env : Surroundings} {w : World}

/-- What is stored in a reachable world is traced. -/
theorem Reachable.traced (h : app.Reachable env w) : w.store.Traced env w.drawn := by
  -- By induction on how the world was reached, as for `Reachable.indexed_owned`.
  induction h with
  | start => exact Store.traced_empty
  | @request w _ req ih =>
    have hle : w.drawn ≤ ((app.handle req).run env w).2.drawn := Prog.drawn_run env _ w
    have hhandled : Handled app env req w _ _ := handle_deed app env req w
    have hstore : (named env req w).2.store = w.store := (named_same env req w).1
    have hnamed : w.drawn ≤ (named env req w).2.drawn := by
      rw [named]
      split
      · exact Nat.le_refl _
      · exact Nat.le_succ _
    generalize (app.handle req).run env w = out at hle hhandled ⊢
    obtain ⟨answer, w'⟩ := out
    cases hhandled with
    | options => exact ih
    | answered deed => exact deed.traced (hstore ▸ ih) hnamed hle
    | broken deed => exact deed.traced (hstore ▸ ih) hnamed hle
  | @cleanup w _ ih =>
    have hle : w.drawn ≤ ((Jobs.cleanup app.retention).run env w).2.drawn :=
      Prog.drawn_run env _ w
    obtain hsame | ⟨cutoff, hstore⟩ := store_cleanup env w app.retention
    · rw [hsame]
      exact ih.mono hle (List.Sublist.refl _) (List.Sublist.refl _)
    · rw [hstore]
      exact ih.mono hle List.filter_sublist (List.Sublist.refl _)

/-- In every reachable world in which no identifier was drawn twice, each geofence is stored once
and under its own identifier, no two events and no two reports have the same identifier, and every
event is about a geofence that is still stored and is of the event's own tenant. -/
theorem referential_integrity (h : app.Reachable env w)
    (hfresh : (env.drawn (.start .empty) w).Nodup) :
    (w.store.geofences.map Prod.fst).Nodup ∧
      (∀ entry ∈ w.store.geofences, entry.1 = entry.2.id) ∧
      (w.store.events.map Event.id).Nodup ∧ (w.store.reports.map Report.id).Nodup ∧
      ∀ e ∈ w.store.events, ∃ g, w.store.geofence? e.geofence = some g ∧ g.tenant = e.tenant := by
  obtain ⟨hindexed, howned⟩ := h.indexed_owned
  have hdrawn : ((List.range w.drawn).map env.ids).Nodup := by
    rw [List.range_eq_range']
    exact hfresh
  exact ⟨hindexed.distinct, hindexed.own, h.traced.events.nodup hdrawn,
    h.traced.reports.nodup hdrawn, fun e he => howned.exists_geofence he⟩

end App

end Http

/-! ### At a museum -/

namespace Campus

/-- The museum marks its hall. -/
def hosting : Http.Request :=
  { opening with
    body := Utf8.encode
      ("\x7b\"name\":\"Hall\",\"geofenceType\":\"SCHOOL_GROUNDS\",\"polygon\":" ++
        "\x7b\"type\":\"Polygon\",\"coordinates\":[[]]\x7d\x7d").toList }

/-- Somebody of the museum is observed in the hall. -/
def visiting : Http.Request :=
  { opening with
    target := ⟨["".toList, "api".toList, "v1".toList, "locations".toList], []⟩
    body := Utf8.encode "\x7b\"latitude\":0,\"longitude\":0\x7d".toList }

/-- What is done for the request to mark the hall. -/
theorem handle_hosting : app.handle hosting = app.around hosting .geofences
    (Http.Api.createGeofence app.verifier hosting) :=
  Http.App.handle_eq_around rfl rfl

/-- What is done for the request to observe somebody. -/
theorem handle_visiting : app.handle visiting = app.around visiting .locations
    (Http.Api.submitLocation app.verifier visiting) :=
  Http.App.handle_eq_around rfl rfl

/-- After the visit, attendance was taken for the one event. -/
theorem exists_attended : ∃ w, app.Reachable surroundings w ∧
    (w.store.events.map fun e => (e.geofence, e.processedAt.isSome), w.entries,
      w.store.reports.length, w.drawn) =
        ([(.ofNat 101, true)], [⟨museum, .ofNat 3, .ofNat 101, .ofNat 104, ⟨4, 0⟩⟩], 1, 5) := by
  refine ⟨_, .request (.request .start hosting) visiting, ?_⟩
  simp only [handle_hosting, handle_visiting, Http.Api.createGeofence, Http.Api.submitLocation,
    @caller_opening hosting rfl, @caller_opening visiting rfl]
  decide +kernel

theorem exists_visited : ∃ w, app.Reachable surroundings w ∧
    (w.store.events.map Event.geofence, w.store.reports.length, w.drawn) = ([.ofNat 101], 1, 5) := by
  obtain ⟨w, hreachable, hattended⟩ := exists_attended
  simp only [Prod.mk.injEq] at hattended
  obtain ⟨hevents, -, hreports, hdrawn⟩ := hattended
  have hgeofences := congrArg (List.map Prod.fst) hevents
  rw [List.map_map] at hgeofences
  refine ⟨w, hreachable, ?_⟩
  rw [hreports, hdrawn, ← show w.store.events.map Event.geofence = [.ofNat 101] from hgeofences]

end Campus

/-- After a visit to the hall, its event is about the geofence that is stored. -/
theorem Http.App.referential_integrity_campus : ∃ w, Campus.app.Reachable Campus.surroundings w ∧
    w.store.events.map Event.geofence = [.ofNat 101] ∧ (w.store.reports.map Report.id).Nodup ∧
      ∀ e ∈ w.store.events, ∃ g, w.store.geofence? e.geofence = some g ∧ g.tenant = e.tenant := by
  obtain ⟨w, hreachable, hvisited⟩ := Campus.exists_visited
  simp only [Prod.mk.injEq] at hvisited
  obtain ⟨hevents, -, hdrawn⟩ := hvisited
  have hfresh : (Campus.surroundings.drawn (.start .empty) w).Nodup := by
    rw [Surroundings.drawn, hdrawn]
    decide
  obtain ⟨-, -, -, hreports, hreferences⟩ := referential_integrity hreachable hfresh
  exact ⟨w, hreachable, hevents, hreports, hreferences⟩

end Geofencing
