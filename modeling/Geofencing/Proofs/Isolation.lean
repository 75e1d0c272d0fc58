import Geofencing.Proofs.Identity
import Geofencing.Proofs.Ownership
import Geofencing.Proofs.Scope

/-!
# Isolation of tenants

A tenant learns nothing about the others, and changes nothing of theirs. Everything that a request
does is scoped to the tenant that its token is for, so two worlds that hold the same rows of that
tenant answer it alike: `Http.App.isolation`.
-/

namespace Geofencing

/-! ## The service core -/

section Core

variable {tenant : Uuid} {unused : Uuid → Prop} {touched : Bool}

/-- Evaluating a location only asks the engine. -/
theorem Membership.scoped_evaluateWith {t : Uuid} {location : Coordinate}
    {geofences : List Geofence} {Q : List Finding → Bool → Prop} (h : ∀ fs, Q fs touched) :
    (evaluateWith Prog.locate t location geofences).Scoped tenant unused touched Q := by
  have hshape : ∀ (shape : Shape) (Q : Geo.Membership → Bool → Prop), (∀ m, Q m touched) →
      (ofShape Prog.locate location shape).Scoped tenant unused touched Q := by
    intro shape Q hQ
    cases shape with
    | circle center radius => exact hQ _
    | polygon geometry =>
      rw [ofShape, Prog.scoped_bind, Prog.scoped_locate]
      intro answer
      cases answer with
      | ok found => exact hQ found
      | error _ => exact hQ _
  -- What is found does not matter, so the postcondition is free in the induction.
  induction geofences generalizing Q with
  | nil => exact h []
  | cons g rest ih =>
    rw [evaluateWith]
    split
    · rw [Prog.scoped_bind]
      refine hshape g.shape _ fun m => ?_
      rw [Prog.scoped_bind]
      exact ih fun fs => h _
    · exact ih h

namespace Recorder

/-- Taking attendance marks an event of the tenant. -/
private theorem scoped_attend {e : Event} (he : e.tenant = tenant) {Q : Unit → Bool → Prop}
    (h : ∀ t, Q () t) : (attend e).Scoped tenant unused touched Q := by
  rw [attend, Prog.scoped_bind, Prog.scoped_attend]
  intro accepted
  cases accepted with
  | false => exact h _
  | true =>
    simp only [if_true, Prog.scoped_bind, Prog.scoped_now]
    intro now
    -- Marking is never delicate: it is decided among the events of the tenant.
    exact ⟨⟨congrArg some he, Bool.and_false _, trivial⟩, fun _ _ => h _⟩

/-- Recording stores events of the tenant, also after something was written. -/
theorem scoped_record {actor : Uuid} {location : Coordinate} {occurredAt : Instant}
    {findings : List Finding} {Q : Except DomainError (List Uuid) → Bool → Prop}
    (h : ∀ r t, Q r t) :
    (record tenant actor location occurredAt findings).run.Scoped tenant unused touched Q := by
  -- After the first event something was written, so that is free in the induction as well.
  induction findings generalizing touched Q with
  | nil => exact h _ _
  | cons f rest ih =>
    rw [record]
    split
    · exact ih h
    · simp only [recordOne, Prog.scoped_run_bind, Prog.scoped_run_lift, Prog.scoped_fresh,
        Prog.scoped_now]
      intro id _ now
      refine Prog.scoped_run_store rfl (Bool.and_false _) trivial (fun _ => h _ _) fun _ _ => ?_
      simp only [Prog.scoped_count]
      split
      · simp only [Prog.scoped_run_bind, Prog.scoped_run_lift]
        refine scoped_attend rfl fun t => ?_
        exact ih fun r t => by cases r <;> exact h _ _
      · exact ih fun r t => by cases r <;> exact h _ _

end Recorder

namespace Tracker

/-- To look at the previous report asks nobody but the engine. -/
private theorem scoped_previouslyInside {t : Uuid} {geofences : List Geofence}
    {last : Option Report} {Q : List Uuid → Bool → Prop} (h : ∀ ids, Q ids touched) :
    (previouslyInside t geofences last).Scoped tenant unused touched Q := by
  cases last with
  | none => exact h []
  | some r =>
    rw [previouslyInside, Prog.scoped_bind]
    exact Membership.scoped_evaluateWith fun _ => h _

/-- A submission for a tenant works for that tenant only. -/
theorem scoped_submit {actor : Uuid} {o : Observation}
    {Q : Except DomainError Outcome → Bool → Prop} (h : ∀ r t, Q r t) :
    (submit tenant actor o).run.Scoped tenant unused false Q := by
  simp only [submit, Prog.scoped_run_bind, Prog.scoped_run_mk, Prog.scoped_pure]
  cases o.coordinate.validate with
  | error e => exact h _ _
  | ok _ =>
    -- The geofences are listed before the report is stored, when the stores are still in order.
    refine Prog.scoped_run_store rfl rfl trivial (fun _ => h _ _) fun geofences _ => ?_
    refine Prog.scoped_run_store rfl rfl trivial (fun _ => h _ _) fun previous _ => ?_
    simp only [Prog.scoped_run_lift]
    refine scoped_previouslyInside fun before => ?_
    simp only [Prog.scoped_fresh, Prog.scoped_now]
    intro id _ createdAt
    refine Prog.scoped_run_store rfl rfl trivial (fun _ => h _ _) fun _ _ => ?_
    simp only [Prog.scoped_count]
    refine Membership.scoped_evaluateWith fun findings => ?_
    exact Recorder.scoped_record fun r t => by cases r <;> exact h _ _

/-- Asking what an actor is inside of looks at rows of the tenant only. -/
theorem scoped_current {actor : Uuid} {Q : Except DomainError (List Uuid) → Bool → Prop}
    (h : ∀ r t, Q r t) : (current tenant actor).run.Scoped tenant unused false Q := by
  rw [current, Prog.scoped_run_bind]
  refine Prog.scoped_run_store rfl rfl trivial (fun _ => h _ _) fun last _ => ?_
  cases last with
  | none => exact h _ _
  | some r =>
    simp only [Prog.scoped_run_bind]
    refine Prog.scoped_run_store rfl rfl trivial (fun _ => h _ _) fun geofences _ => ?_
    simp only [Prog.scoped_run_lift]
    exact Membership.scoped_evaluateWith fun _ => h _ _

/-- A purge for a tenant removes reports of that tenant only. -/
theorem scoped_purge {policy : RetentionPolicy} {Q : Except DomainError Nat → Bool → Prop}
    (h : ∀ r t, Q r t) : (purge policy (some tenant)).run.Scoped tenant unused false Q := by
  simp only [purge, Prog.scoped_run_bind, Prog.scoped_run_lift, Prog.scoped_now]
  intro now
  cases policy.cutoff? now with
  | none => trivial
  | some cutoff =>
    simp only [Prog.scoped_run_bind]
    refine Prog.scoped_run_store rfl rfl trivial (fun _ => h _ _) fun deleted _ => ?_
    simp only [Prog.scoped_run_lift, Prog.scoped_count]
    exact h _ _

end Tracker

end Core

/-! ## Requests -/

/-- A change never gives a geofence to another tenant. -/
theorem UpdateGeofence.tenant_apply {r : UpdateGeofence} {now : Instant} {old g : Geofence}
    (h : r.apply now old = .ok g) : g.tenant = old.tenant := by
  rw [apply] at h
  split at h
  · cases h
  · cases h
    rfl

namespace Http

namespace Handler

variable {α β : Type} {tenant : Uuid} {unused : Uuid → Prop} {touched : Bool}
  {f : α → Handler β} {Q : Except Refusal β → Bool → Prop}

/-- A handler goes on with what it takes from a request, or refuses the request. -/
theorem scoped_bind_of_run_eq {x : Handler α} {r : Except Refusal α} (hx : x.run = pure r)
    (hrefused : ∀ refusal, Q (.error refusal) touched)
    (hok : ∀ a, r = .ok a → (f a).run.Scoped tenant unused touched Q) :
    (x >>= f).run.Scoped tenant unused touched Q := by
  rw [Prog.scoped_run_bind, hx, Prog.scoped_pure]
  cases r with
  | error refusal => exact hrefused refusal
  | ok a => exact hok a rfl

/-- A handler goes on with a result, or refuses the request with its error. -/
theorem scoped_ofApi_bind {r : Except ApiError α} (hrefused : ∀ refusal, Q (.error refusal) touched)
    (hok : ∀ a, r = .ok a → (f a).run.Scoped tenant unused touched Q) :
    (ofApi r >>= f).run.Scoped tenant unused touched Q :=
  scoped_bind_of_run_eq rfl hrefused fun a ha => hok a (ok_of_mapError ha)

/-- The errors of the domain refuse a request as well. -/
theorem scoped_ofDomain_bind {r : Except DomainError α}
    (hrefused : ∀ refusal, Q (.error refusal) touched)
    (hok : ∀ a, r = .ok a → (f a).run.Scoped tenant unused touched Q) :
    (ofDomain r >>= f).run.Scoped tenant unused touched Q :=
  scoped_ofApi_bind hrefused fun a ha => hok a (ok_of_mapError ha)

/-- A handler goes on with a value that is there, or refuses the request for the lack of it. -/
theorem scoped_ofOption_bind {reason : Refusal} {r : Option α}
    (hrefused : ∀ refusal, Q (.error refusal) touched)
    (hok : ∀ a, r = some a → (f a).run.Scoped tenant unused touched Q) :
    (ofOption reason r >>= f).run.Scoped tenant unused touched Q := by
  cases r with
  | none => exact hrefused reason
  | some a => exact hok a rfl

/-- Every body is read alike for all tenants. -/
theorem scoped_body_bind {d : Json.Decoder α} {req : Request}
    (hrefused : ∀ refusal, Q (.error refusal) touched)
    (hok : ∀ a, (f a).run.Scoped tenant unused touched Q) :
    (body d req >>= f).run.Scoped tenant unused touched Q :=
  scoped_bind_of_run_eq rfl hrefused fun a _ => hok a

/-- And so is every check made. -/
theorem scoped_check_bind {violations : Violations} {f : Unit → Handler β}
    (hrefused : ∀ refusal, Q (.error refusal) touched)
    (hok : (f ()).run.Scoped tenant unused touched Q) :
    (check violations >>= f).run.Scoped tenant unused touched Q :=
  scoped_ofApi_bind hrefused fun _ _ => hok

/-- A service for one tenant is served for that tenant. -/
theorem scoped_serve {p : Service α} {Q : Except Refusal α → Bool → Prop} :
    (serve p).run.Scoped tenant unused touched Q ↔
      p.run.Scoped tenant unused touched fun r t =>
        Q (r.mapError fun e => .api (.ofDomain e)) t := by
  rw [serve, ExceptT.run_adapt, Prog.scoped_map]

/-- A handler goes on with what the service answers, or refuses the request if it fails. -/
theorem scoped_serve_bind {p : Service α} (hrefused : ∀ refusal t, Q (.error refusal) t)
    (hp : p.run.Scoped tenant unused touched fun r t =>
      ∀ a, r = .ok a → (f a).run.Scoped tenant unused t Q) :
    (serve p >>= f).run.Scoped tenant unused touched Q := by
  rw [Prog.scoped_run_bind, scoped_serve]
  refine hp.imp fun r t hr => ?_
  cases r with
  | error e => exact hrefused _ t
  | ok a => exact hr a rfl

/-- The same for a single store call, which has to be permitted. -/
theorem scoped_store_bind {call : StoreCall} {f : call.Value → Handler β}
    (hcall : call.tenant? = some tenant) (hphase : (touched && call.delicate) = false)
    (hfresh : call.Fresh unused) (hrefused : ∀ refusal t, Q (.error refusal) t)
    (hok : ∀ value, call.Fits value →
      (f value).run.Scoped tenant unused (touched || call.writes) Q) :
    (serve (Service.store call) >>= f).run.Scoped tenant unused touched Q := by
  refine scoped_serve_bind hrefused (Prog.scoped_run_store hcall hphase hfresh ?_ ?_)
  · intro e a ha
    cases ha
  · intro value hfits a ha
    cases ha
    exact hok value hfits

/-- A token is for a tenant: whenever it is accepted, it speaks for somebody of that tenant. -/
def For (v : Verifier) (req : Request) (tenant : Uuid) : Prop :=
  ∀ now caller, Caller.identify v now req.headers = .ok caller → caller.tenant = tenant

/-- The caller is of the tenant that the token is for. -/
theorem scoped_caller_bind {v : Verifier} {req : Request} (htoken : For v req tenant)
    {f : Caller → Handler β} (hrefused : ∀ refusal, Q (.error refusal) touched)
    (hok : ∀ caller, caller.tenant = tenant → (f caller).run.Scoped tenant unused touched Q) :
    (caller v req >>= f).run.Scoped tenant unused touched Q := by
  rw [caller, bind_assoc, Prog.scoped_run_bind, Prog.scoped_run_lift, Prog.scoped_now]
  intro now
  exact scoped_ofApi_bind hrefused fun c hc => hok c (htoken now c hc)

end Handler

/-- A token that is accepted at some instant is for the tenant of the caller. -/
theorem Handler.for_of_identify {v : Verifier} {req : Request} {now : Instant} {caller : Caller}
    (h : Caller.identify v now req.headers = .ok caller) : For v req caller.tenant := by
  intro now' caller' h'
  -- Whether a token is accepted depends on the time, but not whom it names.
  have hsame : some caller' = some caller :=
    (Caller.named?_of_identify h').symm.trans (Caller.named?_of_identify h)
  rw [Option.some_inj.1 hsame]

namespace Api

variable {v : Verifier} {req : Request} {tenant : Uuid} {unused : Uuid → Prop}

/-- A location is submitted for the tenant of the token alone. -/
theorem scoped_submitLocation (htoken : Handler.For v req tenant) :
    (submitLocation v req).run.Scoped tenant unused false fun _ _ => True := by
  refine Handler.scoped_caller_bind htoken (fun _ => trivial) fun caller hcaller => ?_
  refine Handler.scoped_body_bind (fun _ => trivial) fun r => ?_
  rw [Prog.scoped_run_bind, Prog.scoped_run_lift, Prog.scoped_now]
  intro now
  refine Handler.scoped_check_bind (fun _ => trivial) ?_
  rw [Prog.scoped_run_bind, Prog.scoped_run_lift, Prog.scoped_now]
  intro now
  refine Handler.scoped_ofDomain_bind (fun _ => trivial) fun o _ => ?_
  refine Handler.scoped_serve_bind (fun _ _ => trivial) ?_
  rw [hcaller]
  exact Tracker.scoped_submit fun _ _ _ _ => trivial

/-- The geofences around an actor are looked up for the tenant of the token alone. -/
theorem scoped_currentGeofences {segment : List Char} (htoken : Handler.For v req tenant) :
    (currentGeofences v segment req).run.Scoped tenant unused false fun _ _ => True := by
  refine Handler.scoped_caller_bind htoken (fun _ => trivial) fun caller hcaller => ?_
  refine Handler.scoped_ofOption_bind (fun _ => trivial) fun actor _ => ?_
  refine Handler.scoped_ofApi_bind (fun _ => trivial) fun _ _ => ?_
  refine Handler.scoped_serve_bind (fun _ _ => trivial) ?_
  rw [hcaller]
  exact Tracker.scoped_current fun _ _ _ _ => trivial

/-- Geofences are listed for the tenant of the token alone. -/
theorem scoped_listGeofences {query : List Char} (htoken : Handler.For v req tenant) :
    (listGeofences v query req).run.Scoped tenant unused false fun _ _ => True := by
  refine Handler.scoped_caller_bind htoken (fun _ => trivial) fun caller hcaller => ?_
  refine Handler.scoped_ofOption_bind (fun _ => trivial) fun includeInactive _ => ?_
  rw [hcaller]
  exact Handler.scoped_store_bind rfl rfl trivial (fun _ _ => trivial) fun _ _ => trivial

/-- A geofence is created for the tenant of the token alone. -/
theorem scoped_createGeofence (htoken : Handler.For v req tenant) :
    (createGeofence v req).run.Scoped tenant unused false fun _ _ => True := by
  refine Handler.scoped_caller_bind htoken (fun _ => trivial) fun caller hcaller => ?_
  refine Handler.scoped_body_bind (fun _ => trivial) fun r => ?_
  refine Handler.scoped_ofApi_bind (fun _ => trivial) fun _ _ => ?_
  refine Handler.scoped_check_bind (fun _ => trivial) ?_
  refine Handler.scoped_ofDomain_bind (fun _ => trivial) fun shape _ => ?_
  rw [Prog.scoped_run_bind, Prog.scoped_run_lift, Prog.scoped_fresh]
  intro id hid
  dsimp only
  rw [Prog.scoped_run_bind, Prog.scoped_run_lift, Prog.scoped_now]
  intro now
  rw [hcaller]
  -- The geofence is created under the identifier that was drawn just now.
  exact Handler.scoped_store_bind rfl rfl hid (fun _ _ => trivial) fun _ _ => trivial

/-- A geofence is looked up for the tenant of the token alone. -/
theorem scoped_getGeofence {segment : List Char} (htoken : Handler.For v req tenant) :
    (getGeofence v segment req).run.Scoped tenant unused false fun _ _ => True := by
  refine Handler.scoped_caller_bind htoken (fun _ => trivial) fun caller hcaller => ?_
  refine Handler.scoped_ofOption_bind (fun _ => trivial) fun id _ => ?_
  rw [hcaller]
  refine Handler.scoped_store_bind rfl rfl trivial (fun _ _ => trivial) fun found _ => ?_
  exact Handler.scoped_ofOption_bind (fun _ => trivial) fun _ _ => trivial

/-- A geofence is changed for the tenant of the token alone. -/
theorem scoped_updateGeofence {segment : List Char} (htoken : Handler.For v req tenant) :
    (updateGeofence v segment req).run.Scoped tenant unused false fun _ _ => True := by
  refine Handler.scoped_caller_bind htoken (fun _ => trivial) fun caller hcaller => ?_
  refine Handler.scoped_ofOption_bind (fun _ => trivial) fun id _ => ?_
  refine Handler.scoped_body_bind (fun _ => trivial) fun r => ?_
  refine Handler.scoped_ofApi_bind (fun _ => trivial) fun _ _ => ?_
  refine Handler.scoped_check_bind (fun _ => trivial) ?_
  rw [hcaller]
  refine Handler.scoped_store_bind rfl rfl trivial (fun _ _ => trivial) fun found hfits => ?_
  refine Handler.scoped_ofOption_bind (fun _ => trivial) fun old hold => ?_
  rw [Prog.scoped_run_bind, Prog.scoped_run_lift, Prog.scoped_now]
  intro now
  refine Handler.scoped_ofDomain_bind (fun _ => trivial) fun g happlied => ?_
  -- The tenant finds its own geofences only, and a change keeps the tenant.
  have htenant : g.tenant = tenant :=
    (UpdateGeofence.tenant_apply (Handler.ok_of_mapError happlied)).trans (hfits old hold)
  refine Handler.scoped_store_bind (congrArg some htenant) rfl trivial (fun _ _ => trivial)
    fun updated _ => ?_
  split <;> trivial

/-- A geofence is deleted for the tenant of the token alone. -/
theorem scoped_deleteGeofence {segment : List Char} (htoken : Handler.For v req tenant) :
    (deleteGeofence v segment req).run.Scoped tenant unused false fun _ _ => True := by
  refine Handler.scoped_caller_bind htoken (fun _ => trivial) fun caller hcaller => ?_
  refine Handler.scoped_ofOption_bind (fun _ => trivial) fun id _ => ?_
  refine Handler.scoped_ofApi_bind (fun _ => trivial) fun _ _ => ?_
  rw [hcaller]
  refine Handler.scoped_store_bind rfl rfl trivial (fun _ _ => trivial) fun deleted _ => ?_
  split <;> trivial

/-- The history is looked up for the tenant of the token alone. -/
theorem scoped_listEvents {query : List Char} (htoken : Handler.For v req tenant) :
    (listEvents v query req).run.Scoped tenant unused false fun _ _ => True := by
  refine Handler.scoped_caller_bind htoken (fun _ => trivial) fun caller hcaller => ?_
  refine Handler.scoped_ofOption_bind (fun _ => trivial) fun q _ => ?_
  refine Handler.scoped_ofApi_bind (fun _ => trivial) fun q _ => ?_
  rw [hcaller]
  refine Handler.scoped_store_bind rfl rfl trivial (fun _ _ => trivial) fun events _ => ?_
  exact Handler.scoped_store_bind rfl rfl trivial (fun _ _ => trivial) fun _ _ => trivial

/-- Reports are purged for the tenant of the token alone. -/
theorem scoped_purgeLocations {policy : RetentionPolicy} (htoken : Handler.For v req tenant) :
    (purgeLocations v policy req).run.Scoped tenant unused false fun _ _ => True := by
  refine Handler.scoped_caller_bind htoken (fun _ => trivial) fun caller hcaller => ?_
  refine Handler.scoped_ofApi_bind (fun _ => trivial) fun _ _ => ?_
  refine Handler.scoped_serve_bind (fun _ _ => trivial) ?_
  rw [hcaller]
  exact Tracker.scoped_purge fun _ _ _ _ => trivial

end Api

namespace App

variable {app : App} {req : Request} {tenant : Uuid} {unused : Uuid → Prop}

/-- The handler of every resource but the page of counters works for the tenant of the token. -/
theorem scoped_handler? (htoken : Handler.For app.verifier req tenant) {query : List Char}
    {asked : Method} {resource : Resource} (hroute : resource ≠ .metrics) {h : Handler Response}
    (hh : app.handler? req query asked resource = some h) :
    h.run.Scoped tenant unused false fun _ _ => True := by
  -- One case for each route, in the order of the table.
  rw [handler?.eq_def] at hh
  split at hh
  · cases hh
    exact Api.scoped_submitLocation htoken
  · cases hh
    exact Api.scoped_currentGeofences htoken
  · cases hh
    exact Api.scoped_listGeofences htoken
  · cases hh
    exact Api.scoped_createGeofence htoken
  · cases hh
    exact Api.scoped_getGeofence htoken
  · cases hh
    exact Api.scoped_updateGeofence htoken
  · cases hh
    exact Api.scoped_deleteGeofence htoken
  · cases hh
    exact Api.scoped_listEvents htoken
  · cases hh
    exact Api.scoped_purgeLocations htoken
  · cases hh
    trivial
  · cases hh
    trivial
  · cases hh
    trivial
  · exact absurd rfl hroute
  · cases hh

/-- Handling a request for anything but the page of counters works for the tenant of the token. -/
theorem scoped_handle (htoken : Handler.For app.verifier req tenant)
    (hroute : Resource.ofSegments? req.target.segments ≠ some .metrics) :
    (app.handle req).Scoped tenant unused false fun _ _ => True := by
  have hanswer : ((Resource.ofSegments? req.target.segments).elim (pure (Response.bare 404))
      (app.answer req)).Scoped tenant unused false fun _ _ => True := by
    generalize Resource.ofSegments? req.target.segments = resource at hroute
    -- Without a resource or a handler the answer is fixed.
    cases resource with
    | none => trivial
    | some resource =>
      rw [Option.elim_some, answer, ← asked]
      cases hh : app.handler? req req.target.query (asked req) resource with
      | none => trivial
      | some h =>
        simp only [settle, Prog.scoped_bind]
        refine (scoped_handler? htoken (fun hmetrics => hroute (congrArg some hmetrics)) hh).imp ?_
        intro result t _
        cases result <;> trivial
  have hrespond : (app.respond req (Resource.ofSegments? req.target.segments)).Scoped tenant unused
      false fun _ _ => True := by
    simp only [respond, Prog.scoped_bind]
    refine hanswer.imp fun r t _ => ?_
    simp only [Prog.scoped_count]
    trivial
  rw [handle]
  by_cases hoptions : req.method = .options
  · rw [if_pos hoptions]
    trivial
  · rw [if_neg hoptions, Prog.scoped_bind, requestId]
    cases givenRequestId? req.headers with
    | some id => exact Prog.scoped_bind.2 hrespond
    | none =>
      simp only [Prog.scoped_bind, Prog.scoped_fresh]
      intro id _
      exact hrespond

/-- Tenants are isolated. In two reachable worlds with the same rows of a tenant, in which the
outside answers alike from now on, a request with a token for that tenant gets the same response and
leaves the same rows of the tenant, and the rows of all others stay as they were. -/
theorem isolation {app : App} {env₁ env₂ : Surroundings} {w₁ w₂ : World} {tenant : Uuid}
    {req : Request} (hreachable₁ : app.Reachable env₁ w₁) (hreachable₂ : app.Reachable env₂ w₂)
    (hrows : Store.SameRows (· == tenant) w₁.store w₂.store) (hties : w₁.store.NoTies tenant)
    (hroute : Resource.ofSegments? req.target.segments ≠ some .metrics)
    (htoken : Handler.For app.verifier req tenant)
    (hagree : Surroundings.Agree env₁ w₁ env₂ w₂)
    (hunused : ∀ id ∈ env₁.drawn w₁ ((app.handle req).run env₁ w₁).2,
      w₁.store.geofence? id = none ∧ w₂.store.geofence? id = none) :
    let out₁ := (app.handle req).run env₁ w₁
    let out₂ := (app.handle req).run env₂ w₂
    out₁.1 = out₂.1 ∧ Store.SameRows (· == tenant) out₁.2.store out₂.2.store ∧
      Store.SameRows (· != tenant) w₁.store out₁.2.store ∧
      Store.SameRows (· != tenant) w₂.store out₂.2.store := by
  -- Both stores are in order because they are reachable; the ties are those of the tenant, whose
  -- geofences are the same.
  have horder₁ : w₁.store.InOrder tenant :=
    ⟨hreachable₁.indexed_owned.1, hreachable₁.indexed_owned.2, hties⟩
  have horder₂ : w₂.store.InOrder tenant :=
    ⟨hreachable₂.indexed_owned.1, hreachable₂.indexed_owned.2, hrows.noTies hties⟩
  have halike : World.Alike tenant w₁.store w₂.store false env₁ w₁ env₂ w₂ :=
    ⟨hagree, hrows, .refl _ _, .refl _ _, fun _ => ⟨rfl, rfl⟩⟩
  obtain ⟨hsame, t, hafter⟩ := (scoped_handle htoken hroute).run_eq horder₁ horder₂
    (fun _ hid => hid) halike hunused
  exact ⟨hsame, hafter.rows, hafter.others₁, hafter.others₂⟩

end App

end Http

/-! ### The campus and its neighbour -/

namespace Campus

/-- Surroundings in which one identifier is drawn for the geofence of the museum, and another one
for everything else. -/
def neighbourhood : Surroundings :=
  { surroundings with ids := fun n => if n = 1 then .ofNat 101 else .ofNat 100 }

/-- The same surroundings from the opening of the museum on. -/
def elsewhere : Surroundings :=
  { neighbourhood with
    clock := fun n => neighbourhood.clock (2 + n)
    ids := fun n => neighbourhood.ids (2 + n) }

/-- After the opening the museum has a geofence, and nothing else is stored. -/
theorem store_opening : ∃ g, ∃ w, w = ((app.handle opening).run neighbourhood (.start .empty)).2 ∧
    w.store = ⟨[(.ofNat 101, g)], [], []⟩ ∧ g.tenant = museum ∧ w.readings = 2 ∧ w.drawn = 2 := by
  have hopening : app.handle opening = app.around opening .geofences
      (Http.Api.createGeofence app.verifier opening) := Http.App.handle_eq_around rfl rfl
  -- The request is carried out once, and only what is needed of the result is looked at.
  have hopened : ∃ w, w = ((app.handle opening).run neighbourhood (.start .empty)).2 ∧
      (w.store.geofences.map fun entry => (entry.1, entry.2.tenant), w.store.reports,
        w.store.events, w.readings, w.drawn) = ([(.ofNat 101, museum)], [], [], 2, 2) := by
    refine ⟨_, rfl, ?_⟩
    simp only [hopening, Http.Api.createGeofence, @caller_opening opening rfl]
    decide +kernel
  obtain ⟨w, hw, hall⟩ := hopened
  simp only [Prod.mk.injEq, List.map_eq_singleton_iff] at hall
  obtain ⟨⟨⟨id, g⟩, hgeofences, rfl, htenant⟩, hreports, hevents, hreadings, hdrawn⟩ := hall
  refine ⟨g, w, hw, ?_, htenant, hreadings, hdrawn⟩
  rw [← hgeofences, ← hreports, ← hevents]

/-- A world in which the museum has a geofence, and nothing else is stored. -/
theorem exists_opened : ∃ w g, app.Reachable neighbourhood w ∧
    w.store = ⟨[(.ofNat 101, g)], [], []⟩ ∧ g.tenant = museum ∧ w.readings = 2 ∧ w.drawn = 2 := by
  obtain ⟨g, w, hw, hopened⟩ := store_opening
  exact ⟨w, g, hw ▸ .request .start opening, hopened⟩

/-- The listing is asked for by the school. -/
theorem for_listing : Http.Handler.For app.verifier listing school :=
  Http.Handler.for_of_identify identify_listing

end Campus

/-- A museum next door does not show at the school. -/
theorem Http.App.isolation_campus : ∃ w : World, w.store.geofences.length = 1 ∧
    let out₁ := (Campus.app.handle Campus.listing).run Campus.elsewhere (.start .empty)
    let out₂ := (Campus.app.handle Campus.listing).run Campus.neighbourhood w
    out₁.1 = out₂.1 ∧ Store.SameRows (· == Campus.school) out₁.2.store out₂.2.store ∧
      Store.SameRows (· != Campus.school) Store.empty out₁.2.store ∧
      Store.SameRows (· != Campus.school) w.store out₂.2.store := by
  obtain ⟨w, g, hreachable, hstore, htenant, hreadings, hdrawn⟩ := Campus.exists_opened
  have hforeign : (g.tenant == Campus.school) = false := by
    rw [htenant]
    decide
  have hgeofence : ∀ id, w.store.geofence? id = if id = .ofNat 101 then some g else none := by
    intro id
    rw [hstore, Store.geofence?, List.lookup_cons]
    by_cases hid : id = .ofNat 101
    · rw [if_pos hid, hid, beq_self_eq_true]
    · rw [if_neg hid, beq_eq_false_iff_ne.2 hid]
      rfl
  have hrows : Store.SameRows (· == Campus.school) Store.empty w.store := by
    refine ⟨fun id => ?_, by rw [hstore]; rfl, by rw [hstore]; rfl⟩
    rw [hgeofence]
    split
    · rw [Option.filter_some, if_neg (by simp [hforeign])]
      rfl
    · rfl
  have hagree : Surroundings.Agree Campus.elsewhere (.start .empty) Campus.neighbourhood w := by
    refine ⟨fun _ _ => rfl, fun _ _ => rfl, fun _ => rfl, fun n => ?_, fun n => ?_⟩
    · rw [hreadings, World.start, Nat.zero_add]
      rfl
    · rw [hdrawn, World.start, Nat.zero_add]
      rfl
  refine ⟨w, by rw [hstore]; rfl, ?_⟩
  refine isolation .start hreachable hrows (fun _ _ h => by cases h) (by decide)
    Campus.for_listing hagree ?_
  intro id hid
  obtain ⟨n, -, -, rfl⟩ := Surroundings.mem_drawn.1 hid
  -- From the opening on one identifier is drawn, and it is not the one of the geofence.
  have hid : Campus.elsewhere.ids n = .ofNat 100 := if_neg (by omega)
  refine ⟨rfl, ?_⟩
  rw [hgeofence, hid]
  exact if_neg (by decide)

end Geofencing
