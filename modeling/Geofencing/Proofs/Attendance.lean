import Geofencing.Proofs.History
import Geofencing.Proofs.Integrity

/-!
# Attendance

The attendance hook is told about every entry to the school grounds that is recorded, once and about
nothing else, and an event is marked only after the hook accepted it: `Http.App.attendance`. Marks
are put on events by their identifiers, so this is as good as the identifiers that are drawn.

* `World.Accounted` is the invariant behind the marks and the identifiers that the hook is told.
* `Http.App.History.length_entries` counts what the hook is told against what is stored.
-/

namespace Geofencing

/-- The hook was told about an event, and it accepted. -/
def World.Attests (env : Surroundings) (w : World) (e : Event) : Prop :=
  e.kind = .enter ∧ ∃ earlier later, w.entries = earlier ++ e.schoolEntry :: later ∧
    env.accepts earlier e.schoolEntry = true

/-- What the hook was told stays told. -/
theorem World.Attests.mono {env : Surroundings} {w w' : World} {e : Event} (h : w.Attests env e)
    (hentries : w.entries <+: w'.entries) : w'.Attests env e := by
  obtain ⟨hkind, earlier, later, hsplit, haccepts⟩ := h
  obtain ⟨more, hmore⟩ := hentries
  refine ⟨hkind, earlier, later ++ more, ?_, haccepts⟩
  rw [← hmore, hsplit, List.append_assoc, List.cons_append]

/-! ## Recording -/

namespace Recorder.Recorded

variable {env : Surroundings} {tenant actor : Uuid} {location : Coordinate} {occurredAt : Instant}
  {w w' : World} {fs : List Finding} {log : List (Finding × Event)}

/-- The hook is told of crossings after all that it was told before. -/
theorem entries_prefix (h : Recorded env tenant actor location occurredAt w fs log w') :
    w.entries <+: w'.entries :=
  ⟨_, h.entries.symm⟩

/-- A mark shows that the hook accepted the event. -/
theorem attested (h : Recorded env tenant actor location occurredAt w fs log w') :
    ∀ p ∈ log, p.2.processedAt.isSome = true → w'.Attests env p.2 := by
  induction h with
  | nil => exact fun p hp => absurd hp List.not_mem_nil
  | skip _ _ ih => exact ih
  | @cons w w' f kind e fs log _ _ made rest ih =>
    intro p hp hmarked
    rcases List.mem_cons.1 hp with rfl | hp
    · have hkind : e.kind = kind := by
        subst made
        rfl
      -- The mark was put right after the event was stored, and only if attendance was taken.
      cases hattends : attends f kind with
      | false =>
        rw [hattends] at hmarked
        cases hmarked
      | true =>
        rw [hattends] at hmarked rest
        have haccepts : env.accepts w.entries e.schoolEntry = true := by
          by_contra hrejected
          simp [World.filed, World.mark?, World.stored, hrejected] at hmarked
        have henter : kind = .enter := by
          simp only [attends, Bool.and_eq_true, decide_eq_true_eq] at hattends
          exact hattends.1
        have hentries := rest.entries
        rw [World.entries_noted, if_pos rfl, List.append_assoc] at hentries
        exact ⟨hkind.trans henter, w.entries, _, hentries, haccepts⟩
    · exact ih p hp hmarked

/-- The hook is told identifiers that were drawn for the events, in the same order. -/
theorem exists_told (h : Recorded env tenant actor location occurredAt w fs log w') :
    ∃ told, w'.entries.map SchoolEntry.event = w.entries.map SchoolEntry.event ++ told ∧
      told.Sublist (env.drawn w w') := by
  refine ⟨_, by rw [h.entries, List.map_append, List.map_map], ?_⟩
  rw [← h.map_id]
  exact List.filter_sublist.map _

end Recorder.Recorded

/-! ## Marks and identifiers -/

/-- Marks are attested, and the hook was told identifiers among the first `n` drawn, in order. -/
structure World.Accounted (env : Surroundings) (n : Nat) (w : World) : Prop where
  /-- The hook accepted every event that is marked. -/
  marks : ∀ e ∈ w.store.events, e.processedAt.isSome = true → w.Attests env e
  /-- The hook was told identifiers in the order in which they were drawn. -/
  ids : (w.entries.map SchoolEntry.event).Sublist ((List.range n).map env.ids)

variable {env : Surroundings} {w w' : World} {m n : Nat}

/-- What is accounted for stays so if no events are added and the hook is told nothing. -/
theorem World.Accounted.mono (h : w.Accounted env m) (hle : m ≤ n)
    (hevents : ∀ e ∈ w'.store.events, e ∈ w.store.events) (hentries : w'.entries = w.entries) :
    w'.Accounted env n := by
  refine ⟨fun e he hmarked => ?_, ?_⟩
  · exact (h.marks e (hevents e he) hmarked).mono (hentries ▸ List.prefix_rfl)
  · rw [hentries]
    exact h.ids.trans (Store.range_sublist hle)

namespace Tracker

variable {tenant actor : Uuid} {o : Observation} {fs : List Finding} {log : List (Finding × Event)}

/-- Recording keeps the accounts, as long as no identifier is drawn twice. -/
theorem accounted_of_recorded (haccounted : w.Accounted env n) (htraced : w.store.Traced env n)
    (hn : n ≤ w.drawn) (hfresh : ((List.range w'.drawn).map env.ids).Nodup)
    (h : Recorder.Recorded env tenant actor o.coordinate o.recordedAt
      (w.reported env tenant actor o) fs log w') : w'.Accounted env w'.drawn := by
  have hle : (w.reported env tenant actor o).drawn ≤ w'.drawn := by
    rw [h.drawn]
    omega
  have hstart : n ≤ (w.reported env tenant actor o).drawn := Nat.le_trans hn (Nat.le_succ _)
  rw [map_ids_range hle, List.nodup_append] at hfresh
  obtain ⟨-, hnodup, hdisjoint⟩ := hfresh
  rw [← h.map_id] at hnodup
  -- The identifiers of the stored events were drawn before, so those of the new ones are new.
  have hnew : ∀ e ∈ w.store.events, e.id ∉ log.map fun p => p.2.id := by
    intro e he hmem
    rw [h.map_id] at hmem
    have hold := htraced.events.subset (List.mem_map_of_mem (f := Event.id) he)
    exact hdisjoint _ ((Store.range_sublist hstart).subset hold) _ hmem rfl
  constructor
  · intro e he hmarked
    rw [h.events hnodup hnew, List.mem_append] at he
    rcases he with hold | hadded
    · exact (haccounted.marks e hold hmarked).mono h.entries_prefix
    · obtain ⟨p, hp, rfl⟩ := List.mem_map.1 hadded
      exact h.attested p hp hmarked
  · obtain ⟨told, htold, hsublist⟩ := h.exists_told
    rw [htold, map_ids_range hle]
    exact (haccounted.ids.trans (Store.range_sublist hstart)).append hsublist

/-- So does every submission. -/
theorem Submitted.accounted {result : Option (Except DomainError Outcome)}
    (h : Submitted env tenant actor o w result w') (haccounted : w.Accounted env n)
    (htraced : w.store.Traced env n) (hn : n ≤ w.drawn) (hle : n ≤ w'.drawn)
    (hfresh : ((List.range w'.drawn).map env.ids).Nodup) : w'.Accounted env w'.drawn := by
  cases h with
  | invalid => exact haccounted.mono hle (fun _ he => he) rfl
  | rejected hstore hentries => exact haccounted.mono hle (fun _ he => hstore ▸ he) hentries
  | accepted _ hrecorded => exact accounted_of_recorded haccounted htraced hn hfresh hrecorded
  | @interrupted before after f kind log w₁ _ _ _ hrecorded _ =>
    -- One more identifier was drawn for the event that was refused.
    have hturned : w₁.drawn ≤ w₁.turnedAway.drawn := Nat.le_succ _
    have hfresh₁ := hfresh.sublist (Store.range_sublist hturned)
    have hrecorded₁ := accounted_of_recorded haccounted htraced hn hfresh₁ hrecorded
    exact hrecorded₁.mono hturned (fun _ he => he) rfl

end Tracker

namespace Http

variable {app : App} {req : Request}

/-- And so does every deed. -/
theorem Deed.accounted {asked : Method} {resource : Option Resource}
    {result : Option (Except Refusal Response)} (h : Deed app env req w asked resource result w')
    (haccounted : w.Accounted env n) (htraced : w.store.Traced env n) (hn : n ≤ w.drawn)
    (hle : n ≤ w'.drawn) (hfresh : ((List.range w'.drawn).map env.ids).Nodup) :
    w'.Accounted env w'.drawn := by
  cases h with
  | nothing store entries => exact haccounted.mono hle (fun _ he => store ▸ he) entries
  | submitted _ _ _ _ submitted =>
    have hread : World.Accounted env n { w with readings := w.readings + 3 } :=
      haccounted.mono (Nat.le_refl n) (fun _ he => he) rfl
    exact submitted.accounted hread htraced hn hle hfresh
  | created | updated | purged => exact haccounted.mono hle (fun _ he => he) rfl
  | deleted => exact haccounted.mono hle (fun _ he => (List.mem_filter.1 he).1) rfl

namespace App

/-- The hook is not told about cleanups. -/
theorem entries_cleanup (env : Surroundings) (w : World) (policy : RetentionPolicy) :
    ((Jobs.cleanup policy).run env w).2.entries = w.entries := by
  change (Jobs.cleanup policy).Ensures env w fun _ w' => w'.entries = w.entries
  simp only [Jobs.cleanup, Tracker.purge, Prog.ensures_bind, Prog.ensures_run_bind,
    Prog.ensures_run_lift, Prog.ensures_now, Option.map_some]
  cases policy.cutoff? (env.clock w.readings) with
  | none => rfl
  | some cutoff =>
    simp only [Prog.ensures_run_bind]
    rw [Prog.ensures_run_store]
    cases hrefused : env.refuses w.calls .deleteBefore with
    | true =>
      rw [World.callStore_of_refused hrefused]
      rfl
    | false =>
      rw [World.callStore_of_ok hrefused rfl]
      rfl

/-- In every reachable world, marks are attested and the hook was told different identifiers. -/
theorem Reachable.accounted (h : app.Reachable env w)
    (hfresh : ((List.range w.drawn).map env.ids).Nodup) : w.Accounted env w.drawn := by
  induction h with
  | start => exact ⟨nofun, List.Sublist.refl _⟩
  | @request w hw req ih =>
    have hle : w.drawn ≤ ((app.handle req).run env w).2.drawn := Prog.drawn_run env _ w
    have haccounted := ih (hfresh.sublist (Store.range_sublist hle))
    obtain hsame | ⟨result, w', deed, hstore, hentries, hdrawn⟩ := handle_cases app env req w
    · rw [hsame]
      exact haccounted
    · obtain ⟨hstore₀, hentries₀⟩ := named_same env req w
      rw [hdrawn] at hfresh hle ⊢
      -- The name of a request may take an identifier of its own.
      have hnamed : w.drawn ≤ (named env req w).2.drawn := by
        rw [named]
        split
        · exact Nat.le_refl _
        · exact Nat.le_succ _
      have hstart : (named env req w).2.Accounted env w.drawn :=
        haccounted.mono (Nat.le_refl _) (fun _ he => hstore₀ ▸ he) hentries₀
      have hafter := deed.accounted hstart (hstore₀ ▸ hw.traced) hnamed hle hfresh
      exact hafter.mono (Nat.le_refl _) (fun _ he => hstore ▸ he) hentries
  | @cleanup w hw ih =>
    have hle : w.drawn ≤ ((Jobs.cleanup app.retention).run env w).2.drawn :=
      Prog.drawn_run env _ w
    have haccounted := ih (hfresh.sublist (Store.range_sublist hle))
    refine haccounted.mono hle (fun e he => ?_) (entries_cleanup env w app.retention)
    obtain hsame | ⟨cutoff, hstore⟩ := store_cleanup env w app.retention
    · exact hsame ▸ he
    · rw [hstore] at he
      exact he

end App

end Http

/-! ## What the hook is told -/

/-- Whether an event tells of an entry to the school grounds, as they are in the store. -/
def Store.isSchoolEntry (s : Store) (e : Event) : Bool :=
  decide (e.kind = .enter) && (s.geofence? e.geofence).any fun g => g.kind == .schoolGrounds

/-- Events are stored for the crossings in a log, and the hook is told about those that are entries
to the school grounds. -/
structure World.Logged (w : World) (log : List (Finding × Event)) (w' : World) : Prop where
  /-- The events of the log come after all others. -/
  events : w'.store.events.map Event.unmarked =
    w.store.events.map Event.unmarked ++ log.map fun p => p.2.unmarked
  /-- The hook is told about those that need attendance. -/
  entries : w'.entries = w.entries ++
    ((log.filter fun p => Recorder.attends p.1 p.2.kind).map fun p => p.2.schoolEntry)
  /-- These are the entries to the school grounds. -/
  kinds : ∀ p ∈ log, w.store.isSchoolEntry p.2 = Recorder.attends p.1 p.2.kind

theorem World.logged_nil (hstore : w'.store = w.store) (hentries : w'.entries = w.entries) :
    w.Logged [] w' := by
  refine ⟨?_, ?_, fun p hp => absurd hp List.not_mem_nil⟩
  · rw [hstore]
    simp
  · simpa using hentries

/-- The log counts exactly the events that are stored. -/
theorem World.Logged.length_entries {log : List (Finding × Event)}
    {inserted : List (Store × Event)} (h : w.Logged log w')
    (htracked : w.store.Tracked w'.store inserted) :
    w'.entries.length = w.entries.length + inserted.countP fun p => p.1.isSchoolEntry p.2 := by
  -- The log and the list of stored events are the same up to marks.
  have hsame : (inserted.map fun p => p.2.unmarked) = log.map fun p => p.2.unmarked :=
    List.append_cancel_left (htracked.events.symm.trans h.events)
  have hinserted : (inserted.countP fun p => p.1.isSchoolEntry p.2) =
      (inserted.map fun p => p.2.unmarked).countP w.store.isSchoolEntry := by
    rw [List.countP_map]
    refine List.countP_congr fun p hp => ?_
    have hgeofence : p.1.geofence? p.2.geofence = w.store.geofence? p.2.geofence := by
      rw [Store.geofence?, htracked.stores p hp, Store.geofence?]
    simp only [Store.isSchoolEntry, hgeofence]
    exact Iff.rfl
  have hlog : (log.countP fun p => Recorder.attends p.1 p.2.kind) =
      (log.map fun p => p.2.unmarked).countP w.store.isSchoolEntry := by
    rw [List.countP_map]
    refine List.countP_congr fun p hp => ?_
    rw [← h.kinds p hp]
    exact Iff.rfl
  rw [h.entries, List.length_append, List.length_map, ← List.countP_eq_length_filter, hlog, ← hsame,
    hinserted]

namespace Tracker

variable {tenant actor : Uuid} {o : Observation} {fs : List Finding} {log : List (Finding × Event)}

/-- The log of a recording says what was stored and what the hook was told. -/
theorem logged_of_recorded (hindexed : w.store.Indexed)
    (hsub : ∀ f ∈ fs, f ∈ env.found w tenant actor o)
    (h : Recorder.Recorded env tenant actor o.coordinate o.recordedAt
      (w.reported env tenant actor o) fs log w') : w.Logged log w' := by
  refine ⟨h.map_unmarked, h.entries, fun p hp => ?_⟩
  have hmem : p.1 ∈ log.map Prod.fst := List.mem_map_of_mem hp
  rw [h.map_fst] at hmem
  obtain ⟨g, hg, hkind⟩ := exists_of_mem_found hindexed (hsub _ (List.mem_filter.1 hmem).1)
  rw [Store.isSchoolEntry, (h.tellsOf p hp).geofence, (Store.find_eq_some_iff.1 hg).1,
    Option.any_some, hkind]
  rfl

/-- Every submission has a log, up to where it failed. -/
theorem Submitted.exists_log {result : Option (Except DomainError Outcome)}
    (h : Submitted env tenant actor o w result w') (hindexed : w.store.Indexed) :
    ∃ log, w.Logged log w' := by
  obtain ⟨hstore, hentries⟩ | ⟨_, log, _, hsub, hrecorded, hstore, hentries⟩ := h.recorded_cases
  · exact ⟨[], World.logged_nil hstore hentries⟩
  · have hlogged := logged_of_recorded hindexed hsub hrecorded
    exact ⟨log, hstore ▸ hlogged.events, hentries ▸ hlogged.entries, hlogged.kinds⟩

end Tracker

namespace Http

variable {app : App} {req : Request}

/-- The hook is told nothing but by a submission, which has a log. -/
theorem Deed.exists_log {asked : Method} {resource : Option Resource}
    {result : Option (Except Refusal Response)} (h : Deed app env req w asked resource result w')
    (hindexed : w.store.Indexed) :
    resource ≠ some .locations ∧ w'.entries = w.entries ∨
      resource = some .locations ∧ ∃ log, w.Logged log w' := by
  cases h with
  | nothing store entries =>
    by_cases hresource : resource = some .locations
    · exact .inr ⟨hresource, [], World.logged_nil store entries⟩
    · exact .inl ⟨hresource, entries⟩
  | submitted _ _ _ _ submitted =>
    obtain ⟨log, hlog⟩ := submitted.exists_log hindexed
    exact .inr ⟨rfl, log, hlog.events, hlog.entries, hlog.kinds⟩
  | created | updated | deleted | purged => exact .inl ⟨nofun, rfl⟩

namespace App

/-- Somebody is tracked just by requests for the locations. -/
theorem errand_eq_tracking_iff :
    req.errand = .tracking ↔ Resource.ofSegments? req.target.segments = some .locations := by
  unfold Request.errand
  cases Resource.ofSegments? req.target.segments with
  | none => simp
  | some resource => cases resource <;> simp [Resource.errand]

/-- A request for the locations has a log, and any other tells the hook nothing. -/
theorem handle_log (app : App) (env : Surroundings) (req : Request) (hindexed : w.store.Indexed) :
    Resource.ofSegments? req.target.segments ≠ some .locations ∧
        ((app.handle req).run env w).2.entries = w.entries ∨
      Resource.ofSegments? req.target.segments = some .locations ∧
        ∃ log, w.Logged log ((app.handle req).run env w).2 := by
  obtain ⟨hstore₀, hentries₀⟩ := named_same env req w
  obtain hsame | ⟨result, w', deed, hstore, hentries, -⟩ := handle_cases app env req w
  · rw [hsame]
    -- A request that is answered at once tells the hook nothing, whatever it is for.
    by_cases hresource : Resource.ofSegments? req.target.segments = some .locations
    · exact .inr ⟨hresource, [], World.logged_nil rfl rfl⟩
    · exact .inl ⟨hresource, rfl⟩
  · obtain ⟨hresource, hnone⟩ | ⟨hresource, log, hlog⟩ := deed.exists_log (hstore₀ ▸ hindexed)
    · exact .inl ⟨hresource, (hentries.trans hnone).trans hentries₀⟩
    · refine .inr ⟨hresource, log, ?_, ?_, fun p hp => ?_⟩
      · rw [hstore, hlog.events, hstore₀]
      · rw [hentries, hlog.entries, hentries₀]
      · rw [← hstore₀]
        exact hlog.kinds p hp

/-- A request tells the hook about as many entries as it stores. -/
theorem length_entries_handle (hindexed : w.store.Indexed) :
    ((app.handle req).run env w).2.entries.length = w.entries.length +
      (app.exchange env req w).inserted.countP fun p => p.1.isSchoolEntry p.2 := by
  obtain ⟨caller, hby⟩ := Handler.exists_by app.verifier req
  have hfollows : (app.handle req).Follows (Errand.Moves caller fun _ => True) (fun _ => True)
    req.errand _ := follows_handle hby
  obtain ⟨hresource, hentries⟩ | ⟨hresource, log, hlog⟩ := handle_log app env req hindexed
  · have herrand : req.errand ≠ .tracking := fun h => hresource (errand_eq_tracking_iff.1 h)
    rw [exchange, hfollows.inserted_eq_nil herrand, hentries]
    rfl
  · rw [errand_eq_tracking_iff.2 hresource] at hfollows
    exact hlog.length_entries hfollows.tracked

/-- The hook was told about as many entries as were ever stored. -/
theorem History.length_entries {past : List Exchange} (h : app.History env past w) :
    w.entries.length =
      (past.flatMap Exchange.inserted).countP fun p => p.1.isSchoolEntry p.2 := by
  induction h with
  | start => rfl
  | @request past w hw req ih =>
    rw [length_entries_handle hw.reachable.indexed_owned.1, ih, List.flatMap_append,
      List.countP_append, List.flatMap_singleton]
  | cleanup _ ih => rw [entries_cleanup, ih]

/-- Attendance. In every world that is reached without drawing an identifier twice, an event is
marked only if it is an entry that the hook was told about, with the event's own identifier, tenant,
actor, geofence and time, and accepted; the hook was told about no event twice; and it was told
about as many entries as events were ever stored for an entry to a geofence that was school grounds
then. -/
theorem attendance {past : List Exchange} (h : app.History env past w)
    (hfresh : (env.drawn (.start .empty) w).Nodup) :
    (∀ e ∈ w.store.events, e.processedAt.isSome = true → e.kind = .enter ∧
      ∃ earlier entry later, w.entries = earlier ++ entry :: later ∧ entry.event = e.id ∧
        entry.tenant = e.tenant ∧ entry.actor = e.actor ∧ entry.geofence = e.geofence ∧
        entry.occurredAt = e.occurredAt ∧ env.accepts earlier entry = true) ∧
    (w.entries.map SchoolEntry.event).Nodup ∧
    w.entries.length = (past.flatMap Exchange.inserted).countP fun p => p.1.isSchoolEntry p.2 := by
  have hdrawn : ((List.range w.drawn).map env.ids).Nodup := by
    rw [List.range_eq_range']
    exact hfresh
  have haccounted := h.reachable.accounted hdrawn
  refine ⟨fun e he hmarked => ?_, haccounted.ids.nodup hdrawn, h.length_entries⟩
  obtain ⟨hkind, earlier, later, hentries, haccepted⟩ := haccounted.marks e he hmarked
  exact ⟨hkind, earlier, e.schoolEntry, later, hentries, rfl, rfl, rfl, rfl, rfl, haccepted⟩

end App

end Http

/-- After a visit to the hall its event is marked, and the hook was told about this event and
nothing else: who was in the hall of which tenant, and when. It is the one entry that was ever
stored. -/
theorem Http.App.attendance_campus : ∃ past w, Campus.app.History Campus.surroundings past w ∧
    w.store.events.map (fun e => e.processedAt.isSome) = [true] ∧
    w.entries =
      [{ tenant := Campus.museum, actor := .ofNat 3, geofence := .ofNat 101
         event := .ofNat 104, occurredAt := ⟨4, 0⟩ }] ∧
    (∀ e ∈ w.store.events, e.kind = .enter ∧ e.id = .ofNat 104 ∧ e.tenant = Campus.museum ∧
      e.actor = .ofNat 3 ∧ e.geofence = .ofNat 101 ∧ e.occurredAt = ⟨4, 0⟩) ∧
    ((past.flatMap Exchange.inserted).countP fun p => p.1.isSchoolEntry p.2) = 1 := by
  obtain ⟨w, hreachable, hattended⟩ := Campus.exists_attended
  simp only [Prod.mk.injEq] at hattended
  obtain ⟨hevents, hentries, -, hdrawn⟩ := hattended
  obtain ⟨past, hpast⟩ := hreachable.exists_history
  have hfresh : (Campus.surroundings.drawn (.start .empty) w).Nodup := by
    rw [Surroundings.drawn, hdrawn]
    decide
  obtain ⟨hmarks, -, hcount⟩ := attendance hpast hfresh
  have hmarked : w.store.events.map (fun e => e.processedAt.isSome) = [true] := by
    have hsnd := congrArg (List.map Prod.snd) hevents
    rw [List.map_map] at hsnd
    exact hsnd
  rw [hentries] at hcount
  refine ⟨past, w, hpast, hmarked, hentries, fun e he => ?_, hcount.symm⟩
  have hsome : e.processedAt.isSome = true := by
    have hmem := List.mem_map_of_mem (f := fun e : Event => e.processedAt.isSome) he
    rwa [hmarked, List.mem_singleton] at hmem
  obtain ⟨hkind, earlier, entry, later, hsplit, hid, htenant, hactor, hgeofence, htime, -⟩ :=
    hmarks e he hsome
  -- The entry of this event is the only one.
  have hentry : entry ∈ w.entries := by
    rw [hsplit]
    simp
  rw [hentries, List.mem_singleton] at hentry
  subst hentry
  exact ⟨hkind, hid.symm, htenant.symm, hactor.symm, hgeofence.symm, htime.symm⟩

end Geofencing
