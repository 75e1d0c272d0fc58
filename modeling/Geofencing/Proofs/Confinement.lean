import Geofencing.Proofs.Administration

/-!
# Students are confined to themselves

What a student may know of the store are the geofences of the tenant and the student's own reports
and events. Two stores that agree on these are the same to the student (`Store.SameTo`): whatever a
student is entitled to is answered alike in both, and leaves them the same to the student. So the
responses tell nothing about anybody else: `Http.App.confinement`.

To ask about somebody else is forbidden, in the path of a request or in its query. What counts as
asking is also said of the texts themselves: `Http.Request.watches_of_text`.
-/

namespace Geofencing

/-! ## Stores that are the same to a student -/

namespace Store

/-- Two stores are the same to a caller, who knows the geofences of the tenant and otherwise only
itself. The events that are recorded for it have identifiers of their own. -/
structure SameTo (caller : Caller) (own : Uuid → Bool) (s s' : Store) : Prop where
  /-- The same geofences of the tenant. -/
  geofences : ∀ id, s.find caller.tenant id = s'.find caller.tenant id
  /-- The same reports about the caller, in the same order. -/
  reports : (s.reports.filter fun r => r.isAbout caller.tenant caller.actor) =
    s'.reports.filter fun r => r.isAbout caller.tenant caller.actor
  /-- The same events about the caller, and the same of those that the caller's requests stored. -/
  events : (s.events.filter fun e => e.isAbout caller.tenant caller.actor || own e.id) =
    s'.events.filter fun e => e.isAbout caller.tenant caller.actor || own e.id

variable {caller : Caller} {own : Uuid → Bool} {errand : Errand} {s s₁ s₂ : Store}
  {call : StoreCall}

/-- Where nobody else uses the identifiers of its own, a caller only has to agree on itself. -/
theorem sameTo_of_unused (hgeofences : ∀ id, s₁.find caller.tenant id = s₂.find caller.tenant id)
    (hreports : (s₁.reports.filter fun r => r.isAbout caller.tenant caller.actor) =
      s₂.reports.filter fun r => r.isAbout caller.tenant caller.actor)
    (hevents : (s₁.events.filter fun e => e.isAbout caller.tenant caller.actor) =
      s₂.events.filter fun e => e.isAbout caller.tenant caller.actor)
    (hunused₁ : ∀ e ∈ s₁.events, own e.id = false) (hunused₂ : ∀ e ∈ s₂.events, own e.id = false) :
    s₁.SameTo caller own s₂ := by
  have hfilter : ∀ events : List Event, (∀ e ∈ events, own e.id = false) →
      (events.filter fun e => e.isAbout caller.tenant caller.actor || own e.id) =
        events.filter fun e => e.isAbout caller.tenant caller.actor := by
    intro events hunused
    exact List.filter_congr fun e he => by rw [hunused e he, Bool.or_false]
  refine ⟨hgeofences, hreports, ?_⟩
  rw [hfilter _ hunused₁, hfilter _ hunused₂, hevents]

/-- A query for the caller's own events selects among them. -/
theorem selected_eq_filter {q : EventQuery} (hactor : q.actor = some caller.actor)
    (own : Uuid → Bool) (s : Store) :
    s.selected caller.tenant q =
      (s.events.filter fun e => e.isAbout caller.tenant caller.actor || own e.id).filter
        (q.selects caller.tenant) := by
  rw [selected, List.filter_filter]
  refine List.filter_congr fun e _ => ?_
  simp only [EventQuery.selects, hactor, Option.all_some, Event.isAbout]
  cases e.tenant == caller.tenant <;> cases e.actor == caller.actor <;> simp

private theorem meant_of_own (caller : Caller) {id : Uuid} (hown : own id = true) :
    ∀ e : Event, isEvent caller.tenant id e = true →
      (e.isAbout caller.tenant caller.actor || own e.id) = true := by
  intro e hevent
  simp only [isEvent, Bool.and_eq_true, beq_iff_eq] at hevent
  rw [hevent.1, hown, Bool.or_true]

/-- Whatever a student is entitled to is answered alike. -/
theorem SameTo.reply_eq (h : s₁.SameTo caller own s₂) (hstudent : caller.role = .student)
    (hcall : call.Entitled caller (fun id => own id = true) errand)
    (hindexed₁ : s₁.Indexed) (hindexed₂ : s₂.Indexed) (hties : s₁.NoTies caller.tenant)
    (howned : errand = .serving → s₁.Owned) : s₁.reply call = s₂.reply call := by
  have hlist : ∀ all, s₁.list caller.tenant all = s₂.list caller.tenant all :=
    list_eq_of_find_eq h.geofences hindexed₁ hindexed₂ hties
  have hlatest : s₁.latest caller.tenant caller.actor = s₂.latest caller.tenant caller.actor := by
    rw [latest_eq_head?, latest_eq_head?, h.reports]
  have hstaff : caller.role.isStaff ≠ true := by
    rw [hstudent]
    decide
  have hselected : ∀ q : EventQuery, q.actor = some caller.actor →
      s₁.selected caller.tenant q = s₂.selected caller.tenant q := by
    intro q hactor
    rw [selected_eq_filter hactor own, selected_eq_filter hactor own, h.events]
  cases errand with
  | monitoring => cases call <;> cases hcall
  | tracking =>
    cases call with
    | findActive t =>
      cases hcall
      exact congrArg Except.ok (hlist false)
    | latest t a =>
      obtain ⟨rfl, rfl⟩ := hcall
      exact congrArg Except.ok hlatest
    | insertReport | insertEvent => rfl
    | markProcessed t id _ =>
      obtain ⟨rfl, hown⟩ := hcall
      have hmeant := meant_of_own caller hown
      rw [reply_markProcessed, reply_markProcessed,
        ← isSome_markFirst_filter (fun _ _ => rfl) hmeant, h.events,
        isSome_markFirst_filter (fun _ _ => rfl) hmeant]
    | create | find | list | update | delete | deleteBefore | listEvents | countEvents =>
      cases hcall
  | serving =>
    cases call with
    | findActive t =>
      cases hcall
      exact congrArg Except.ok (hlist false)
    | list t all =>
      cases hcall
      exact congrArg Except.ok (hlist all)
    | find t id =>
      cases hcall
      exact congrArg Except.ok (h.geofences id)
    | latest t a =>
      obtain ⟨rfl, hactor⟩ := hcall
      obtain rfl := hactor.resolve_left hstaff
      exact congrArg Except.ok hlatest
    | listEvents t q =>
      obtain ⟨rfl, hactor⟩ := hcall
      -- The names of the geofences are looked up as well, and they are the tenant's own.
      have hnamed : (s₁.selected caller.tenant q).map s₁.named =
          (s₁.selected caller.tenant q).map s₂.named := by
        refine List.map_congr_left fun e he => ?_
        obtain ⟨hmem, hselects⟩ := List.mem_filter.1 he
        exact named_eq_of_find_eq h.geofences (howned rfl) hmem (tenant_of_selects hselects)
      have hpage : s₁.page caller.tenant q = s₂.page caller.tenant q := by
        rw [page, page, hnamed, hselected q (hactor.resolve_left hstaff)]
      exact congrArg Except.ok hpage
    | countEvents t q =>
      obtain ⟨rfl, hactor⟩ := hcall
      exact congrArg (fun events => Except.ok (List.length events))
        (hselected q (hactor.resolve_left hstaff))
    | create | update | delete | deleteBefore =>
      rw [hcall.2] at hstudent
      cases hstudent
    | insertReport | insertEvent | markProcessed => cases hcall

/-- Whatever a student is entitled to leaves the stores the same to the student. -/
theorem SameTo.after (h : s₁.SameTo caller own s₂) (hstudent : caller.role = .student)
    (hcall : call.Entitled caller (fun id => own id = true) errand) :
    (s₁.after call).SameTo caller own (s₂.after call) := by
  cases call with
  | findActive | find | list | latest | listEvents | countEvents => exact h
  | insertReport r =>
    refine ⟨h.geofences, ?_, h.events⟩
    change (s₁.reports ++ [r]).filter _ = (s₂.reports ++ [r]).filter _
    rw [List.filter_append, List.filter_append, h.reports]
  | insertEvent e =>
    refine ⟨h.geofences, h.reports, ?_⟩
    change (s₁.events ++ [e]).filter _ = (s₂.events ++ [e]).filter _
    rw [List.filter_append, List.filter_append, h.events]
  | markProcessed t id processedAt =>
    cases errand with
    | serving | monitoring => cases hcall
    | tracking =>
      obtain ⟨rfl, hown⟩ := hcall
      have hmeant := meant_of_own caller hown
      rw [after_markProcessed, after_markProcessed]
      refine ⟨h.geofences, h.reports, ?_⟩
      dsimp only
      rw [filter_getD_markFirst (fun _ _ => rfl) hmeant, h.events,
        ← filter_getD_markFirst (fun _ _ => rfl) hmeant]
  -- Only administrators may change geofences or purge reports, and the caller is a student.
  | create | update | delete | deleteBefore =>
    cases errand with
    | tracking | monitoring => cases hcall
    | serving =>
      rw [hcall.2] at hstudent
      cases hstudent

/-- Whoever is no administrator leaves geofences alone. -/
theorem geofences_after (hrole : caller.role ≠ .admin) {mine : Uuid → Prop}
    (hcall : call.Entitled caller mine errand) (s : Store) :
    (s.after call).geofences = s.geofences := by
  cases call with
  | findActive | find | list | latest | listEvents | countEvents => rfl
  | insertReport | insertEvent => rfl
  | markProcessed =>
    rw [after_markProcessed]
  | create | update | delete | deleteBefore =>
    cases errand with
    | tracking | monitoring => cases hcall
    | serving => exact absurd hcall.2 hrole

/-- Whoever is no administrator is served without a change. -/
theorem after_of_serving (hrole : caller.role ≠ .admin) {mine : Uuid → Prop}
    (hcall : call.Entitled caller mine .serving) (s : Store) : s.after call = s := by
  apply after_of_reads
  cases call with
  | findActive | find | list | latest | listEvents | countEvents => rfl
  | insertReport | insertEvent | markProcessed => cases hcall
  | create | update | delete | deleteBefore => exact absurd hcall.2 hrole

end Store

/-! ## Runs for a student -/

/-- Two worlds of two runs are the same to a caller. -/
structure World.SameTo (caller : Caller) (own : Uuid → Bool) (errand : Errand)
    (env₁ : Surroundings) (w₁ : World) (env₂ : Surroundings) (w₂ : World) : Prop where
  /-- The outside answers alike. -/
  agree : Surroundings.Agree env₁ w₁ env₂ w₂
  /-- The stores hold the same for the caller. -/
  store : w₁.store.SameTo caller own w₂.store
  /-- Every geofence is stored once, under its own identifier. -/
  indexed₁ : w₁.store.Indexed
  indexed₂ : w₂.store.Indexed
  /-- The names and ages of geofences put them in one order. -/
  ties : w₁.store.NoTies caller.tenant
  /-- As long as nothing is recorded, events are about geofences that are there. -/
  owned : errand = .serving → w₁.store.Owned

section Runs

variable {caller : Caller} {own : Uuid → Bool} {errand : Errand} {env₁ env₂ : Surroundings}
  {w₁ w₂ : World}

theorem World.SameTo.callStore (h : World.SameTo caller own errand env₁ w₁ env₂ w₂)
    (hstudent : caller.role = .student) {call : StoreCall}
    (hcall : call.Entitled caller (fun id => own id = true) errand) :
    (w₁.callStore env₁ call).1 = (w₂.callStore env₂ call).1 ∧
      World.SameTo caller own errand env₁ (w₁.callStore env₁ call).2 env₂
        (w₂.callStore env₂ call).2 := by
  have hrole : caller.role ≠ .admin := by
    rw [hstudent]
    decide
  have hagree := h.agree.perform (.store call)
  simp only [World.perform] at hagree
  -- The call is refused in both worlds or in none.
  have hrefuses : env₁.refuses w₁.calls call.method = env₂.refuses w₂.calls call.method :=
    h.agree.refuses [] call.method
  rw [World.callStore_eq, World.callStore_eq, ← hrefuses] at hagree ⊢
  generalize env₁.refuses w₁.calls call.method = refused at hagree ⊢
  cases refused with
  | true => exact ⟨rfl, hagree, h.store, h.indexed₁, h.indexed₂, h.ties, h.owned⟩
  | false =>
    have hgeofences : ∀ s : Store, (s.after call).geofences = s.geofences :=
      Store.geofences_after hrole hcall
    refine ⟨?_, hagree, h.store.after hstudent hcall, h.indexed₁.of_geofences (hgeofences _),
      h.indexed₂.of_geofences (hgeofences _), ?_, ?_⟩
    · exact h.store.reply_eq hstudent hcall h.indexed₁ h.indexed₂ h.ties h.owned
    · have hfind : ∀ id, (w₁.store.after call).find caller.tenant id =
          w₁.store.find caller.tenant id :=
        fun _ => Store.find_of_geofences (hgeofences _)
      intro g g' hg hg'
      exact h.ties g g' ((hfind _).symm.trans hg) ((hfind _).symm.trans hg')
    · rintro rfl
      exact (Store.after_of_serving hrole hcall w₁.store).symm ▸ h.owned rfl

/-- An action that a student is entitled to is answered alike, unless it looks at the counters. -/
theorem World.SameTo.perform (h : World.SameTo caller own errand env₁ w₁ env₂ w₂)
    (hstudent : caller.role = .student) (herrand : errand ≠ .monitoring) {a : Action}
    (ha : a.Entitled caller (fun id => own id = true) errand) :
    (w₁.perform env₁ a).1 = (w₂.perform env₂ a).1 ∧
      World.SameTo caller own errand env₁ (w₁.perform env₁ a).2 env₂ (w₂.perform env₂ a).2 := by
  have hagree := h.agree.perform a
  cases a with
  | store call => exact h.callStore hstudent ha
  | attend entry =>
    have hanswer := h.agree.accepts [] entry
    rw [List.append_nil, List.append_nil] at hanswer
    exact ⟨hanswer, { h with agree := hagree }⟩
  | locate point geometry =>
    have hanswer := congrFun (congrFun (h.agree.engine 0) point) geometry
    exact ⟨hanswer, { h with agree := hagree }⟩
  | readClock => exact ⟨h.agree.clock 0, { h with agree := hagree }⟩
  | freshId => exact ⟨h.agree.ids 0, { h with agree := hagree }⟩
  | count series amount => exact ⟨rfl, { h with agree := hagree }⟩
  -- Nobody looks at the counters except on the errand of monitoring.
  | readCounters => exact absurd ha herrand

/-- A program that keeps to what a student is entitled to gives the same value in two worlds that
are the same to the student. -/
theorem Prog.Follows.run_eq {α : Type} {x : Prog α} {Q : α → Errand → Prop}
    (hx : x.Follows (Errand.Moves caller fun id => own id = true) (fun id => own id = true) errand
      Q)
    (hstudent : caller.role = .student) (herrand : errand ≠ .monitoring)
    (h : World.SameTo caller own errand env₁ w₁ env₂ w₂)
    (hdrawn : ∀ n, w₁.drawn ≤ n → n < (x.run env₁ w₁).2.drawn → own (env₁.ids n) = true) :
    (x.run env₁ w₁).1 = (x.run env₂ w₂).1 := by
  induction x generalizing w₁ w₂ with
  | done a => rfl
  | abort => rfl
  | step a next ih =>
    obtain ⟨_, ⟨ha, rfl⟩, hnext⟩ := hx
    obtain ⟨hreply, hsame⟩ := h.perform hstudent herrand ha
    -- What is known of the answer is true of it: an identifier is drawn in this run.
    have hfits : a.Fits (fun id => own id = true) (w₁.perform env₁ a).1 := by
      refine w₁.fits_perform a ?_
      rintro rfl
      refine hdrawn _ (Nat.le_refl _) ?_
      exact Prog.drawn_run env₁ (next (env₁.ids w₁.drawn)) { w₁ with drawn := w₁.drawn + 1 }
    have hrest := ih _ (hnext _ hfits) hsame fun n hl hr =>
      hdrawn n (Nat.le_trans (w₁.drawn_perform env₁ a) hl) hr
    rw [Prog.run, Prog.run]
    dsimp only
    rw [← hreply]
    exact hrest

end Runs

/-! ## Requests of a student -/

/-- Whoever asks for the events of one actor is shown events of that actor. -/
theorem Store.actor_of_mem_page {s : Store} {tenant actor : Uuid} {q : EventQuery} {e : Event}
    (hactor : q.actor = some actor) (he : e ∈ s.page tenant q) : e.actor = actor := by
  unfold page at he
  have hmem := List.mem_mergeSort.1 (List.mem_of_mem_take he)
  obtain ⟨e', he', rfl⟩ := List.mem_map.1 hmem
  have hselects := (List.mem_filter.1 he').2
  simp only [EventQuery.selects, hactor, Option.all_some, Bool.and_eq_true, beq_iff_eq] at hselects
  have hnamed : (s.named e').actor = e'.actor := by
    unfold named
    split <;> rfl
  exact hnamed.trans hselects.1.2

namespace Http

/-- A well-formed request to look at an actor: at the geofences that the actor is inside of, or at
the actor's events. -/
def Request.Watches (req : Request) (actor : Uuid) : Prop :=
  (req.method = .get ∨ req.method = .head) ∧
    ((∃ segment, Resource.ofSegments? req.target.segments = some (.actorGeofences segment) ∧
        segmentId? segment = some actor) ∨
      Resource.ofSegments? req.target.segments = some .events ∧
        ∃ q, eventQuery? req.target.query = some q ∧ q.actor = some actor)

/-- A path or a query in which the identifier of an actor is written out looks at that actor. -/
theorem Request.watches_of_text {req : Request} {actor : Uuid}
    (hmethod : req.method = .get ∨ req.method = .head)
    (htext : req.target.segments.map String.ofList =
          ["", "api", "v1", "actors", actor.toText, "geofences"] ∨
        req.target.segments.map String.ofList = ["", "api", "v1", "geofence-events"] ∧
          String.ofList req.target.query = "actorId=" ++ actor.toText) :
    req.Watches actor := by
  refine ⟨hmethod, ?_⟩
  obtain hsegments | ⟨hsegments, hquery⟩ := htext
  · refine .inl ⟨actor.toText.toList, ?_, segmentId?_toText actor⟩
    simp [Resource.ofSegments?, hsegments]
  · have hwritten : req.target.query = queryText [("actorId", actor.toText)] := by
      rw [← String.ofList_inj, hquery, ← String.toList_inj]
      simp [queryText]
    refine .inr ⟨?_, ⟨some actor, none, none⟩, ?_, rfl⟩
    · simp [Resource.ofSegments?, hsegments]
    · rw [hwritten, eventQuery?_actor]

/-- A page of events as it is shown. -/
def historyBody (events : List Event) (total : Nat) : Json :=
  .object [("events", .arr (events.map Event.response)), ("total", .nat total)]

variable {caller : Caller} {v : Verifier} {req : Request} {env : Surroundings} {w : World}

theorem Api.listEvents_shows (hstudent : caller.role = .student) (hby : Handler.By v req caller)
    {query : List Char} :
    (listEvents v query req).run.Ensures env w fun result _ => ∀ r, result = some (.ok r) →
      ∃ events total, r = .json 200 (historyBody events total) ∧
        ∀ e ∈ events, e.actor = caller.actor := by
  refine Handler.ensures_caller_bind nofun fun found hfound => ?_
  obtain rfl := hby _ found hfound
  refine Handler.ensures_ofOption_bind nofun fun q _ => ?_
  refine Handler.ensures_ofApi_bind nofun fun q' hq' => ?_
  have hactor : q'.actor = some found.actor :=
    (staff_or_eq_of_entitled hq').resolve_left (by rw [hstudent]; decide)
  refine Handler.ensures_store_bind (fun _ _ => nofun) fun events s hs => ?_
  refine Handler.ensures_store_bind (fun _ _ => nofun) fun total s' hs' => ?_
  cases hs
  intro r hr
  cases hr
  exact ⟨_, total, rfl, fun e he => Store.actor_of_mem_page hactor he⟩

namespace App

variable {app : App}

/-- A student who looks at somebody else is refused. -/
theorem status_of_watches (hstudent : caller.role = .student) {other : Uuid}
    (hother : other ≠ caller.actor) (hwatches : req.Watches other)
    (hproven : Caller.Proven app.verifier (env.clock w.readings) req.headers caller) :
    ((app.handle req).run env w).1.map Response.status = some 403 := by
  have hidentify := Caller.identify_eq_ok_iff.2 hproven
  have hasked : asked req = .get := asked_of_reads hwatches.1
  -- Both routes come down to the same question.
  have haccess : ∃ detail, caller.mayAccess other = .error (.forbidden detail) := by
    refine ⟨_, if_neg ?_⟩
    rw [hstudent]
    simpa [Role.isStaff] using hother.symm
  obtain ⟨detail, haccess⟩ := haccess
  obtain ⟨-, ⟨segment, hresource, hsegment⟩ | ⟨hresource, q, hquery, hactor⟩⟩ := hwatches
  · have hrefused : ((Api.currentGeofences app.verifier segment req).run.run env
        (named env req w).2).1 = some (.error (.api (.forbidden detail))) := by
      rw [Api.currentGeofences, Handler.run_caller_bind, readings_named, hidentify]
      dsimp only
      rw [hsegment, Handler.ofOption, pure_bind, haccess]
      rfl
    exact status_of_refused hresource (by rw [hasked]; rfl) hrefused
  · have hentitled : Api.entitled caller q = .error (.forbidden detail) := by
      rw [Api.entitled, hstudent, hactor]
      simp [Role.isStaff, haccess, Except.map]
    have hrefused : ((Api.listEvents app.verifier req.target.query req).run.run env
        (named env req w).2).1 = some (.error (.api (.forbidden detail))) := by
      rw [Api.listEvents, Handler.run_caller_bind, readings_named, hidentify]
      dsimp only
      rw [hquery, Handler.ofOption, pure_bind, hentitled]
      rfl
    exact status_of_refused hresource (by rw [hasked]; rfl) hrefused

/-- Students are confined to themselves. In two reachable worlds with the same geofences of a tenant
and the same reports and events of a student of that tenant, in which the outside answers alike from
now on, a request with a token of the student gets the same response; all events in it are the
student's own, and a look at anybody else is refused, whether the other one is named in the path or
with `actorId=` in the query. -/
theorem confinement {env₁ env₂ : Surroundings} {w₁ w₂ : World}
    (hreachable₁ : app.Reachable env₁ w₁) (hreachable₂ : app.Reachable env₂ w₂)
    (hgeofences : ∀ id, w₁.store.find caller.tenant id = w₂.store.find caller.tenant id)
    (hreports : (w₁.store.reports.filter fun r => r.isAbout caller.tenant caller.actor) =
      w₂.store.reports.filter fun r => r.isAbout caller.tenant caller.actor)
    (hevents : (w₁.store.events.filter fun e => e.isAbout caller.tenant caller.actor) =
      w₂.store.events.filter fun e => e.isAbout caller.tenant caller.actor)
    (hties : w₁.store.NoTies caller.tenant)
    (hroute : Resource.ofSegments? req.target.segments ≠ some .metrics)
    (htoken : Caller.named? req.headers = some caller) (hstudent : caller.role = .student)
    (hagree : Surroundings.Agree env₁ w₁ env₂ w₂)
    (hunused : ∀ id ∈ env₁.drawn w₁ ((app.handle req).run env₁ w₁).2,
      ∀ e ∈ w₁.store.events ++ w₂.store.events, e.id ≠ id) :
    let out₁ := (app.handle req).run env₁ w₁
    let out₂ := (app.handle req).run env₂ w₂
    out₁.1 = out₂.1 ∧
    (∀ r, Resource.ofSegments? req.target.segments = some .events → req.method = .get →
      out₁.1 = some r → r.status = 200 →
      ∃ events total, r.body = .json (historyBody events total) ∧
        ∀ item ∈ events.map Event.response, item.get? "actorId" = some caller.actor.toJson) ∧
    ∀ other, other ≠ caller.actor →
      Caller.Proven app.verifier (env₁.clock w₁.readings) req.headers caller →
      (req.Watches other → out₁.1.map Response.status = some 403) ∧
      (req.method = .get ∨ req.method = .head →
        req.target.segments.map String.ofList =
            ["", "api", "v1", "actors", other.toText, "geofences"] ∨
          req.target.segments.map String.ofList = ["", "api", "v1", "geofence-events"] ∧
            String.ofList req.target.query = "actorId=" ++ other.toText →
        out₁.1.map Response.status = some 403) := by
  intro out₁ out₂
  have hby : Handler.By app.verifier req caller :=
    Handler.by_of_named? fun found hfound => Option.some_inj.1 (hfound.symm.trans htoken)
  refine ⟨?_, ?_, ?_⟩
  · -- The identifiers that are drawn now are the caller's own: no event has one of them yet.
    let own : Uuid → Bool := fun id =>
      (w₁.store.events ++ w₂.store.events).all fun e => e.id != id
    have hown : ∀ e ∈ w₁.store.events ++ w₂.store.events, own e.id = false := by
      intro e he
      refine List.all_eq_false.2 ⟨e, he, ?_⟩
      simp
    have hstore : w₁.store.SameTo caller own w₂.store :=
      Store.sameTo_of_unused hgeofences hreports hevents
        (fun e he => hown e (List.mem_append_left _ he))
        (fun e he => hown e (List.mem_append_right _ he))
    have herrand : req.errand ≠ .monitoring := by
      unfold Request.errand
      cases hresource : Resource.ofSegments? req.target.segments with
      | none => exact nofun
      | some resource =>
        rintro hmonitoring
        cases resource <;> cases hmonitoring
        exact hroute hresource
    refine (follows_handle hby).run_eq hstudent herrand
      ⟨hagree, hstore, hreachable₁.indexed_owned.1, hreachable₂.indexed_owned.1, hties,
        fun _ => hreachable₁.indexed_owned.2⟩ ?_
    intro n hl hr
    refine List.all_eq_true.2 fun e he => bne_iff_ne.2 ?_
    exact hunused _ (Surroundings.mem_drawn.2 ⟨n, hl, hr, rfl⟩) e he
  · intro r hresource hget hr hstatus
    have hasked : asked req = .get := asked_of_reads (.inl hget)
    obtain ⟨r', hr', rfl⟩ := exists_ok_of_status
      (h := Api.listEvents app.verifier req.target.query req) hresource (by rw [hasked]; rfl) hr
      (by omega)
    have hshows : (Api.listEvents app.verifier req.target.query req).run.Ensures env₁
      (named env₁ req w₁).2 _ := Api.listEvents_shows hstudent hby
    obtain ⟨events, total, rfl, hactor⟩ := hshows r' hr'
    refine ⟨events, total, body_delivered (by rw [hget]; decide) _, fun item hitem => ?_⟩
    obtain ⟨e, he, rfl⟩ := List.mem_map.1 hitem
    rw [Event.get?_actorId_response, hactor e he]
  · intro other hother hproven
    have hforbidden : req.Watches other → out₁.1.map Response.status = some 403 :=
      fun hwatches => status_of_watches hstudent hother hwatches hproven
    exact ⟨hforbidden, fun hmethod htext => hforbidden (Request.watches_of_text hmethod htext)⟩

end App

end Http

/-! ### In the classroom -/

namespace Campus

/-- The principal of the school. -/
def principal : Uuid := .ofNat 4

/-- The principal marks the grounds of the school. -/
def founding : Http.Request :=
  request .post ["", "api", "v1", "geofences"]
    ("eyJhbGciOiJIUzI1NiJ9.eyJzdWIiOiIwMDAwMDAwMDAwMDAwMDAwMDAwMDAwMDAwMDAwMDAwNCIsInRlbmF" ++
      "udF9pZCI6IjAwMDAwMDAwMDAwMDAwMDAwMDAwMDAwMDAwMDAwMDA1Iiwicm9sZSI6ImFkbWluIiwiZXhwIjo" ++
      "5LCJpYXQiOjAsImp0aSI6IiJ9.AP7oVv8vNlFt9oWNQmZSyxj43xppJPJWNbpkjdfBo6k")
    ("\x7b\"name\":\"Grounds\",\"geofenceType\":\"SCHOOL_GROUNDS\",\"polygon\":" ++
      "\x7b\"type\":\"Polygon\",\"coordinates\":[[]]\x7d\x7d")

/-- The principal comes onto the grounds. -/
def arriving : Http.Request :=
  { founding with
    target := ⟨["".toList, "api".toList, "v1".toList, "locations".toList], []⟩
    body := Utf8.encode "\x7b\"latitude\":0,\"longitude\":0\x7d".toList }

/-- The pupil comes onto the grounds. -/
def entering : Http.Request := { arriving with headers := listing.headers }

/-- The pupil looks at the events. -/
def history : Http.Request :=
  { listing with
    target := ⟨["".toList, "api".toList, "v1".toList, "geofence-events".toList], []⟩ }

/-- The pupil asks for the events of the principal. -/
def spying : Http.Request :=
  { history with
    target := ⟨history.target.segments,
      "actorId=00000000-0000-0000-0000-000000000004".toList⟩ }

/-- The pupil asks where the principal is. -/
def prying : Http.Request :=
  { listing with
    target := ⟨["".toList, "api".toList, "v1".toList, "actors".toList,
      "00000000-0000-0000-0000-000000000004".toList, "geofences".toList], []⟩ }

/-- Surroundings in which time stands still, and from the sixth on three identifiers are drawn in
turn. -/
def rotation : Surroundings :=
  { surroundings with
    clock := fun _ => ⟨0, 0⟩
    ids := fun n => .ofNat (100 + if n < 5 then n else 5 + (n + 1) % 3) }

theorem identify_founding : Caller.identify app.verifier ⟨0, 0⟩ founding.headers =
    .ok ⟨school, principal, .admin⟩ :=
  ok_of_toOption (by decide +kernel)

/-- The pupil is on the grounds, and then the principal comes too. -/
theorem exists_gathered : ∃ w₁ w₂, app.Reachable rotation w₁ ∧ app.Reachable rotation w₂ ∧
    w₂ = ((app.handle arriving).run rotation w₁).2 ∧
    (w₁.store.geofences.length = 1 ∧ w₁.drawn = 5 ∧ w₂.drawn = 8) ∧
    (w₁.store.events.map fun e => (e.actor, e.id)) = [(pupil, .ofNat 104)] ∧
    (w₂.store.events.map fun e => (e.actor, e.id)) =
      [(pupil, .ofNat 104), (principal, .ofNat 107)] ∧
    (w₁.store.events.filter fun e => e.isAbout school pupil) =
      (w₂.store.events.filter fun e => e.isAbout school pupil) ∧
    (w₁.store.reports.filter fun e => e.isAbout school pupil) =
      (w₂.store.reports.filter fun e => e.isAbout school pupil) ∧
    (((app.handle history).run rotation w₁).1.map fun r =>
      (r.status, ((r.json?.bind (Json.get? "events")).bind Json.items?).map List.length)) =
        some (200, some 1) ∧
    ((app.handle history).run rotation w₁).2.drawn = 6 ∧
    ((app.handle spying).run rotation w₁).2.drawn = 6 ∧
    ((app.handle prying).run rotation w₁).2.drawn = 6 := by
  -- Each request is taken to its handler first.
  have hfounding : app.handle founding = app.around founding .geofences
      (Http.Api.createGeofence app.verifier founding) := Http.App.handle_eq_around rfl rfl
  have harriving : app.handle arriving = app.around arriving .locations
      (Http.Api.submitLocation app.verifier arriving) := Http.App.handle_eq_around rfl rfl
  have hentering : app.handle entering = app.around entering .locations
      (Http.Api.submitLocation app.verifier entering) := Http.App.handle_eq_around rfl rfl
  have hhistory : app.handle history = app.around history .events
      (Http.Api.listEvents app.verifier [] history) := Http.App.handle_eq_around rfl rfl
  have hspying : app.handle spying = app.around spying .events
      (Http.Api.listEvents app.verifier spying.target.query spying) :=
    Http.App.handle_eq_around rfl rfl
  have hprying : app.handle prying = app.around prying
      (.actorGeofences "00000000-0000-0000-0000-000000000004".toList)
      (Http.Api.currentGeofences app.verifier "00000000-0000-0000-0000-000000000004".toList
        prying) := Http.App.handle_eq_around rfl rfl
  refine ⟨_, _, .request (.request .start founding) entering,
    .request (.request (.request .start founding) entering) arriving, rfl, ?_⟩
  -- The signatures are known, so none is computed in the run.
  simp only [hfounding, harriving, hentering, hhistory, hspying, hprying,
    Http.Api.createGeofence, Http.Api.submitLocation, Http.Api.listEvents,
    Http.Api.currentGeofences, @caller_eq_admitted founding _ _ identify_founding,
    @caller_eq_admitted arriving _ _ identify_founding,
    @caller_eq_admitted entering _ _ identify_listing,
    @caller_eq_admitted history _ _ identify_listing,
    @caller_eq_admitted spying _ _ identify_listing,
    @caller_eq_admitted prying _ _ identify_listing]
  decide +kernel

/-- A store with a single geofence has no two that could be confused. -/
theorem noTies_of_length {s : Store} (h : s.geofences.length = 1) (tenant : Uuid) :
    s.NoTies tenant := by
  obtain ⟨entry, hentry⟩ := List.length_eq_one_iff.1 h
  have hone : ∀ id g, s.find tenant id = some g → g = entry.2 := by
    intro id g hg
    have hstored := (Store.find_eq_some_iff.1 hg).1
    rw [Store.geofence?, hentry, List.lookup_cons] at hstored
    split at hstored
    · exact (Option.some_inj.1 hstored).symm
    · cases hstored
  intro g g' hg hg' _ _
  rw [hone _ _ hg, hone _ _ hg']

end Campus

/-- The pupil is shown one event in the history, which is the pupil's own, whether or not the
principal was recorded too. To ask for the events of the principal, or where the principal is, is
forbidden in both cases. -/
theorem Http.App.confinement_campus : ∃ w₁ w₂ : World,
    w₁.store.events.map Event.actor = [Campus.pupil] ∧
    w₂.store.events.map Event.actor = [Campus.pupil, Campus.principal] ∧
    let answer := fun req w => ((Campus.app.handle req).run Campus.rotation w).1
    (answer Campus.history w₁ = answer Campus.history w₂ ∧
      ∃ r events total, answer Campus.history w₂ = some r ∧ r.status = 200 ∧
        r.body = .json (historyBody events total) ∧ events.length = 1 ∧
        ∀ item ∈ events.map Event.response, item.get? "actorId" = some Campus.pupil.toJson) ∧
    ∀ req ∈ [Campus.spying, Campus.prying],
      answer req w₁ = answer req w₂ ∧ (answer req w₂).map Response.status = some 403 := by
  obtain ⟨w₁, w₂, hreachable₁, hreachable₂, hw₂, ⟨hlength, hdrawn₁, hdrawn₂⟩, hevents₁, hevents₂,
    hevents, hreports, hpage, hhistory, hspying, hprying⟩ := Campus.exists_gathered
  have hkept : w₂.store.geofences = w₁.store.geofences :=
    hw₂ ▸ geofences_handle (by decide +kernel)
  have hagree : Surroundings.Agree Campus.rotation w₁ Campus.rotation w₂ := by
    refine ⟨fun _ _ => rfl, fun _ _ => rfl, fun _ => rfl, fun _ => rfl, fun n => ?_⟩
    rw [hdrawn₁, hdrawn₂]
    have hids : Campus.rotation.ids (5 + n) = .ofNat (100 + (5 + (5 + n + 1) % 3)) ∧
        Campus.rotation.ids (8 + n) = .ofNat (100 + (5 + (8 + n + 1) % 3)) := by
      constructor <;> exact congrArg (fun k => Uuid.ofNat (100 + k)) (if_neg (by omega))
    have hturn : (5 + n + 1) % 3 = (8 + n + 1) % 3 := by omega
    rw [hids.1, hids.2, hturn]
  have hused : ∀ e ∈ w₁.store.events ++ w₂.store.events, e.id = .ofNat 104 ∨ e.id = .ofNat 107 := by
    intro e he
    have hmem := List.mem_map_of_mem (f := fun e : Event => (e.actor, e.id)) he
    rw [List.map_append, hevents₁, hevents₂] at hmem
    simp only [List.mem_append, List.mem_cons, List.not_mem_nil, Prod.mk.injEq, or_false] at hmem
    obtain h | h | h := hmem
    · exact .inl h.2
    · exact .inl h.2
    · exact .inr h.2
  -- Each of the three requests draws one identifier, which no event has.
  have hconfined := fun (req : Request) (hheaders : req.headers = Campus.listing.headers)
      (hroute : Resource.ofSegments? req.target.segments ≠ some .metrics)
      (hdrawn : ((Campus.app.handle req).run Campus.rotation w₁).2.drawn = 6) =>
    @confinement ⟨Campus.school, Campus.pupil, .student⟩ req _ _ _ _ _ hreachable₁ hreachable₂
      (fun _ => (Store.find_of_geofences hkept).symm) hreports hevents
      (Campus.noTies_of_length hlength _) hroute
      (by rw [hheaders]; exact Caller.named?_of_identify Campus.identify_listing) rfl hagree (by
        intro id hid e he hsame
        obtain ⟨n, hl, hr, rfl⟩ := Surroundings.mem_drawn.1 hid
        obtain rfl : n = 5 := by omega
        obtain h | h := hused e he
        · rw [h] at hsame
          exact absurd hsame (by decide)
        · rw [h] at hsame
          exact absurd hsame (by decide))
  have hproven : ∀ req : Request, req.headers = Campus.listing.headers →
      Caller.Proven Campus.app.verifier (Campus.rotation.clock w₁.readings) req.headers
        ⟨Campus.school, Campus.pupil, .student⟩ := by
    intro req hheaders
    rw [hheaders]
    exact Caller.identify_eq_ok_iff.1 Campus.identify_listing
  have hactors₁ := congrArg (List.map Prod.fst) hevents₁
  have hactors₂ := congrArg (List.map Prod.fst) hevents₂
  rw [List.map_map] at hactors₁ hactors₂
  refine ⟨w₁, w₂, hactors₁, hactors₂, ?_, ?_⟩
  · obtain ⟨hsame, hown, -⟩ := hconfined Campus.history rfl (by decide) hhistory
    obtain ⟨r, hr, hshown⟩ := Option.map_eq_some_iff.1 hpage
    rw [Prod.mk.injEq] at hshown
    obtain ⟨events, total, hbody, hactor⟩ := hown r rfl rfl hr hshown.1
    have hlisted : (r.json?.bind (Json.get? "events")).bind Json.items? =
        some (events.map Event.response) := by
      rw [Response.json?, hbody, Option.bind_some, historyBody, Json.get?_object]
      rfl
    have hcount := hshown.2
    rw [hlisted, Option.map_some, List.length_map, Option.some_inj] at hcount
    exact ⟨hsame, r, events, total, hsame.symm.trans hr, hshown.1, hbody, hcount, hactor⟩
  · rw [List.forall_mem_cons, List.forall_mem_singleton]
    constructor
    · obtain ⟨hsame, -, hothers⟩ := hconfined Campus.spying rfl (by decide) hspying
      have hforbidden := (hothers Campus.principal (by decide) (hproven _ rfl)).2 (.inl rfl)
        (.inr ⟨by decide +kernel, by decide +kernel⟩)
      exact ⟨hsame, (congrArg (Option.map Response.status) hsame).symm.trans hforbidden⟩
    · obtain ⟨hsame, -, hothers⟩ := hconfined Campus.prying rfl (by decide) hprying
      have hforbidden := (hothers Campus.principal (by decide) (hproven _ rfl)).2 (.inl rfl)
        (.inl (by decide +kernel))
      exact ⟨hsame, (congrArg (Option.map Response.status) hsame).symm.trans hforbidden⟩

end Geofencing
