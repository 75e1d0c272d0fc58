import Geofencing.Http.App
import Geofencing.Proofs.Submission

/-!
# What requests do

A request that is not refused for its own sake does one of five things: it submits a location,
creates, changes or deletes a geofence, or purges reports. `Http.Deed` says which of them it does,
for whom and with what result, and `Http.App.handle_deed` that no request does anything else.

Requests that are refused with the status of a client error do nothing at all, and neither do
requests that only read: `Http.App.handle_no_trace`.
-/

namespace Geofencing

namespace Http

/-! ## What handlers need from a request -/

namespace Handler

variable {α β : Type} {env : Surroundings} {w : World} {f : α → Handler β}
  {Q : Option (Except Refusal β) → World → Prop}

/-- Showing an error differently does not make it a value. -/
theorem ok_of_mapError {ε ε' : Type} {r : Except ε α} {g : ε → ε'} {a : α}
    (h : r.mapError g = .ok a) : r = .ok a := by
  cases r with
  | error e => cases h
  | ok b => exact congrArg Except.ok (Except.ok.inj h)

/-- A handler goes on with what it takes from a request, or refuses the request. -/
theorem ensures_bind_of_run_eq {x : Handler α} {r : Except Refusal α} (hx : x.run = pure r)
    (hrefused : ∀ refusal, Q (some (.error refusal)) w)
    (hok : ∀ a, r = .ok a → (f a).run.Ensures env w Q) : (x >>= f).run.Ensures env w Q := by
  rw [Prog.ensures_run_bind, hx, Prog.ensures_pure]
  cases r with
  | error refusal => exact hrefused refusal
  | ok a => exact hok a rfl

/-- A handler goes on with a result, or refuses the request with its error. -/
theorem ensures_ofApi_bind {r : Except ApiError α}
    (hrefused : ∀ refusal, Q (some (.error refusal)) w)
    (hok : ∀ a, r = .ok a → (f a).run.Ensures env w Q) :
    (ofApi r >>= f).run.Ensures env w Q :=
  ensures_bind_of_run_eq rfl hrefused fun a ha => hok a (ok_of_mapError ha)

/-- The errors of the domain refuse a request as well. -/
theorem ensures_ofDomain_bind {r : Except DomainError α}
    (hrefused : ∀ refusal, Q (some (.error refusal)) w)
    (hok : ∀ a, r = .ok a → (f a).run.Ensures env w Q) :
    (ofDomain r >>= f).run.Ensures env w Q :=
  ensures_ofApi_bind hrefused fun a ha => hok a (ok_of_mapError ha)

/-- A handler goes on with a value that is there, or refuses the request for the lack of it. -/
theorem ensures_ofOption_bind {reason : Refusal} {r : Option α}
    (hrefused : ∀ refusal, Q (some (.error refusal)) w)
    (hok : ∀ a, r = some a → (f a).run.Ensures env w Q) :
    (ofOption reason r >>= f).run.Ensures env w Q := by
  cases r with
  | none => exact hrefused reason
  | some a => exact hok a rfl

/-- A handler goes on with the body of the request, or refuses a body that it cannot read. -/
theorem ensures_body_bind {d : Json.Decoder α} {req : Request}
    (hrefused : ∀ refusal, Q (some (.error refusal)) w)
    (hok : ∀ a, readBody d req = .ok a → (f a).run.Ensures env w Q) :
    (body d req >>= f).run.Ensures env w Q :=
  ensures_bind_of_run_eq rfl hrefused hok

/-- A handler goes on without violations, or refuses the request for them. -/
theorem ensures_check_bind {violations : Violations} {f : Unit → Handler β}
    (hrefused : ∀ refusal, Q (some (.error refusal)) w)
    (hok : violations.isEmpty = true → (f ()).run.Ensures env w Q) :
    (check violations >>= f).run.Ensures env w Q := by
  refine ensures_ofApi_bind hrefused fun _ h => hok ?_
  split at h
  · assumption
  · cases h

/-- A handler reads the clock once to find its caller and goes on with the caller, or refuses the
request. -/
theorem ensures_caller_bind {v : Verifier} {req : Request} {f : Caller → Handler β}
    (hrefused : ∀ refusal, Q (some (.error refusal)) { w with readings := w.readings + 1 })
    (hok : ∀ caller, Caller.identify v (env.clock w.readings) req.headers = .ok caller →
      (f caller).run.Ensures env { w with readings := w.readings + 1 } Q) :
    (caller v req >>= f).run.Ensures env w Q := by
  rw [caller, bind_assoc, Prog.ensures_run_bind, Prog.ensures_run_lift, Prog.ensures_now]
  exact ensures_ofApi_bind hrefused hok

/-- Errors of the domain are shown to the client; nothing else changes. -/
@[simp]
theorem ensures_serve {p : Service α} {Q : Option (Except Refusal α) → World → Prop} :
    (serve p).run.Ensures env w Q ↔
      p.run.Ensures env w fun r w' =>
        Q (r.map fun x => x.mapError fun e => .api (.ofDomain e)) w' := by
  rw [serve, ExceptT.run_adapt, Prog.ensures_map]

/-- To find the caller of a request takes no call and tells nobody. -/
theorem quiet_caller {v : Verifier} {req : Request} : (caller v req).run.Quiet := by
  intro env w
  exact ⟨rfl, rfl⟩

/-- To demand a value takes no call and tells nobody. -/
theorem quiet_ofOption {reason : Refusal} {r : Option α} : (ofOption reason r).run.Quiet := by
  cases r <;> exact Prog.quiet_pure _

/-- A service that changes nothing is served without changes. -/
theorem quiet_serve {p : Service α} (hp : p.run.Quiet) : (serve p).run.Quiet := by
  intro env w
  rw [ensures_serve]
  exact hp env w

end Handler

/-! ## Deeds -/

/-- What a submission is answered with. -/
def submissionResult : Except DomainError Tracker.Outcome → Except Refusal Response
  | .ok outcome => .ok (.json 201 (.object [("reportId", outcome.report.toJson),
      ("eventIds", .arr (outcome.events.map Uuid.toJson))]))
  | .error e => .error (.api (.ofDomain e))

/-- What a request for a resource with some method does, from the world in which its handler starts
to the one in which it ends. -/
inductive Deed (app : App) (env : Surroundings) (req : Request) (w : World) :
    Method → Option Resource → Option (Except Refusal Response) → World → Prop
  /-- Nothing is stored and nobody is told. -/
  | nothing {asked : Method} {resource : Option Resource}
      {result : Option (Except Refusal Response)} {w' : World}
      (store : w'.store = w.store) (entries : w'.entries = w.entries) :
      Deed app env req w asked resource result w'
  /-- The caller submits a location. -/
  | submitted {caller : Caller} {r : SubmitLocation} {o : Observation}
      {result : Option (Except DomainError Tracker.Outcome)} {w' : World}
      (caller_eq : Caller.identify app.verifier (env.clock w.readings) req.headers = .ok caller)
      (body_eq : Handler.readBody SubmitLocation.decoder req = .ok r)
      (valid : (r.violations (env.clock (w.readings + 1))).isEmpty = true)
      (observed : r.observation (env.clock (w.readings + 2)) = .ok o)
      (submitted : Tracker.Submitted env caller.tenant caller.actor o
        { w with readings := w.readings + 3 } result w') :
      Deed app env req w .post (some .locations) (result.map submissionResult) w'
  /-- An administrator creates a geofence. -/
  | created {caller : Caller} {r : CreateGeofence} {shape : Shape} {g : Geofence}
      (caller_eq : Caller.identify app.verifier (env.clock w.readings) req.headers = .ok caller)
      (admin : caller.role = .admin)
      (body_eq : Handler.readBody CreateGeofence.decoder req = .ok r)
      (valid : r.violations.isEmpty = true) (shape_eq : Shape.ofColumns r.shape = .ok shape)
      (made : g = r.geofence (env.ids w.drawn) caller.tenant shape (env.clock (w.readings + 1)))
      (unused : w.store.geofence? g.id = none) :
      Deed app env req w .post (some .geofences) (some (.ok (.json 201 g.response)))
        { w with
          store := w.store.insert g
          calls := .create :: w.calls
          readings := w.readings + 2
          drawn := w.drawn + 1 }
  /-- An administrator changes a geofence. -/
  | updated {caller : Caller} {segment : List Char} {id : Uuid} {r : UpdateGeofence}
      {old g : Geofence}
      (caller_eq : Caller.identify app.verifier (env.clock w.readings) req.headers = .ok caller)
      (admin : caller.role = .admin) (id_eq : segmentId? segment = some id)
      (body_eq : Handler.readBody UpdateGeofence.decoder req = .ok r)
      (valid : r.violations.isEmpty = true)
      (found : w.store.find caller.tenant id = some old)
      (applied : r.apply (env.clock (w.readings + 1)) old = .ok g)
      (stored : (w.store.find g.tenant g.id).isSome = true) :
      Deed app env req w .patch (some (.geofence segment)) (some (.ok (.json 200 g.response)))
        { w with
          store := w.store.replace g
          calls := .update :: .find :: w.calls
          readings := w.readings + 2 }
  /-- An administrator deletes a geofence. -/
  | deleted {caller : Caller} {segment : List Char} {id : Uuid}
      (caller_eq : Caller.identify app.verifier (env.clock w.readings) req.headers = .ok caller)
      (admin : caller.role = .admin) (id_eq : segmentId? segment = some id)
      (found : (w.store.find caller.tenant id).isSome = true) :
      Deed app env req w .delete (some (.geofence segment)) (some (.ok (.bare 204)))
        { w with
          store := w.store.remove id
          calls := .delete :: w.calls
          readings := w.readings + 1 }
  /-- An administrator purges reports of the tenant. -/
  | purged {caller : Caller} {cutoff : Instant}
      (caller_eq : Caller.identify app.verifier (env.clock w.readings) req.headers = .ok caller)
      (admin : caller.role = .admin)
      (cutoff_eq : app.retention.cutoff? (env.clock (w.readings + 1)) = some cutoff) :
      Deed app env req w .post (some .purge)
        (some (.ok (.json 200 (.object
          [("deletedCount", .nat (w.store.purgeCount (some caller.tenant) cutoff))]))))
        { w with
          store := w.store.purge (some caller.tenant) cutoff
          calls := .deleteBefore :: w.calls
          counters := World.bump .reportsPurged
            (w.store.purgeCount (some caller.tenant) cutoff) w.counters
          readings := w.readings + 2 }

namespace Api

variable {app : App} {env : Surroundings} {req : Request} {w : World}

/-- The handler of submissions submits a location or does nothing. -/
theorem submitLocation_deed :
    (submitLocation app.verifier req).run.Ensures env w
      (Deed app env req w .post (some .locations)) := by
  refine Handler.ensures_caller_bind (fun _ => .nothing rfl rfl) fun caller hcaller => ?_
  refine Handler.ensures_body_bind (fun _ => .nothing rfl rfl) fun r hbody => ?_
  -- The clock is read once for the checks and once more for what was observed.
  rw [Prog.ensures_run_bind, Prog.ensures_run_lift, Prog.ensures_now]
  refine Handler.ensures_check_bind (fun _ => .nothing rfl rfl) fun hvalid => ?_
  rw [Prog.ensures_run_bind, Prog.ensures_run_lift, Prog.ensures_now]
  refine Handler.ensures_ofDomain_bind (fun _ => .nothing rfl rfl) fun o hobserved => ?_
  rw [Prog.ensures_run_bind, Handler.ensures_serve]
  refine (Tracker.submitted_run env _ caller.tenant caller.actor o).imp ?_
  intro result w' hsubmitted
  rcases result with _ | _ | _ <;> exact .submitted hcaller hbody hvalid hobserved hsubmitted

/-- Administrators only. -/
theorem role_of_requireAdmin {caller : Caller} (h : caller.requireAdmin = .ok ()) :
    caller.role = .admin := by
  rw [Caller.requireAdmin] at h
  split at h
  · assumption
  · cases h

/-- The handler of new geofences creates one or does nothing. -/
theorem createGeofence_deed :
    (createGeofence app.verifier req).run.Ensures env w
      (Deed app env req w .post (some .geofences)) := by
  refine Handler.ensures_caller_bind (fun _ => .nothing rfl rfl) fun caller hcaller => ?_
  refine Handler.ensures_body_bind (fun _ => .nothing rfl rfl) fun r hbody => ?_
  refine Handler.ensures_ofApi_bind (fun _ => .nothing rfl rfl) fun _ hadmin => ?_
  refine Handler.ensures_check_bind (fun _ => .nothing rfl rfl) fun hvalid => ?_
  refine Handler.ensures_ofDomain_bind (fun _ => .nothing rfl rfl) fun shape hshape => ?_
  simp only [Prog.ensures_run_bind, Prog.ensures_run_lift, Prog.ensures_fresh, Prog.ensures_now,
    Option.map_some, Handler.ensures_serve]
  rw [Prog.ensures_run_store]
  obtain ⟨reply, h⟩ | ⟨hunused, h⟩ := World.callStore_create env _ _
  · rw [h]
    cases reply <;> exact .nothing rfl rfl
  · rw [h]
    exact .created hcaller (role_of_requireAdmin hadmin) hbody hvalid
      (Handler.ok_of_mapError hshape) rfl hunused

/-- The handler of changes changes a geofence or does nothing. -/
theorem updateGeofence_deed {segment : List Char} :
    (updateGeofence app.verifier segment req).run.Ensures env w
      (Deed app env req w .patch (some (.geofence segment))) := by
  refine Handler.ensures_caller_bind (fun _ => .nothing rfl rfl) fun caller hcaller => ?_
  refine Handler.ensures_ofOption_bind (fun _ => .nothing rfl rfl) fun id hid => ?_
  refine Handler.ensures_body_bind (fun _ => .nothing rfl rfl) fun r hbody => ?_
  refine Handler.ensures_ofApi_bind (fun _ => .nothing rfl rfl) fun _ hadmin => ?_
  refine Handler.ensures_check_bind (fun _ => .nothing rfl rfl) fun hvalid => ?_
  rw [Prog.ensures_run_bind, Handler.ensures_serve, Prog.ensures_run_store]
  cases hrefused : env.refuses w.calls .find with
  | true =>
    rw [World.callStore_of_refused hrefused]
    exact .nothing rfl rfl
  | false =>
    rw [World.callStore_of_ok hrefused rfl]
    refine Handler.ensures_ofOption_bind (fun _ => .nothing rfl rfl) fun old hfound => ?_
    rw [Prog.ensures_run_bind, Prog.ensures_run_lift, Prog.ensures_now]
    refine Handler.ensures_ofDomain_bind (fun _ => .nothing rfl rfl) fun g happlied => ?_
    rw [Prog.ensures_run_bind, Handler.ensures_serve, Prog.ensures_run_store]
    -- The store looks for the geofence once more before it is replaced.
    obtain ⟨reply, h⟩ | ⟨hstored, h⟩ := World.callStore_update env _ _
    · rw [h]
      rcases reply with _ | _ | _ <;> exact .nothing rfl rfl
    · rw [h]
      exact .updated hcaller (role_of_requireAdmin hadmin) hid hbody hvalid hfound
        (Handler.ok_of_mapError happlied) hstored

/-- The handler of deletions deletes a geofence or does nothing. -/
theorem deleteGeofence_deed {segment : List Char} :
    (deleteGeofence app.verifier segment req).run.Ensures env w
      (Deed app env req w .delete (some (.geofence segment))) := by
  refine Handler.ensures_caller_bind (fun _ => .nothing rfl rfl) fun caller hcaller => ?_
  refine Handler.ensures_ofOption_bind (fun _ => .nothing rfl rfl) fun id hid => ?_
  refine Handler.ensures_ofApi_bind (fun _ => .nothing rfl rfl) fun _ hadmin => ?_
  rw [Prog.ensures_run_bind, Handler.ensures_serve, Prog.ensures_run_store]
  obtain ⟨reply, h⟩ | ⟨hfound, h⟩ := World.callStore_delete env _ _ _
  · rw [h]
    rcases reply with _ | _ | _ <;> exact .nothing rfl rfl
  · rw [h]
    exact .deleted hcaller (role_of_requireAdmin hadmin) hid hfound

/-- The handler of purges purges reports or does nothing. -/
theorem purgeLocations_deed :
    (purgeLocations app.verifier app.retention req).run.Ensures env w
      (Deed app env req w .post (some .purge)) := by
  refine Handler.ensures_caller_bind (fun _ => .nothing rfl rfl) fun caller hcaller => ?_
  refine Handler.ensures_ofApi_bind (fun _ => .nothing rfl rfl) fun _ hadmin => ?_
  simp only [Prog.ensures_run_bind, Handler.ensures_serve, Tracker.purge, Prog.ensures_run_lift,
    Prog.ensures_now, Option.map_some]
  cases hcutoff : app.retention.cutoff? (env.clock (w.readings + 1)) with
  | none => exact .nothing rfl rfl
  | some cutoff =>
    simp only [Prog.ensures_run_bind]
    rw [Prog.ensures_run_store]
    -- Whether anything is purged is up to the store from here on.
    cases hrefused : env.refuses w.calls .deleteBefore with
    | true =>
      rw [World.callStore_of_refused hrefused]
      exact .nothing rfl rfl
    | false =>
      rw [World.callStore_of_ok hrefused rfl]
      exact .purged hcaller (role_of_requireAdmin hadmin) hcutoff

/-! ### Handlers that only read -/

/-- To ask where an actor is changes nothing. -/
theorem quiet_currentGeofences {v : Verifier} {segment : List Char} :
    (currentGeofences v segment req).run.Quiet := by
  refine Handler.quiet_caller.run_bind fun caller => ?_
  refine Handler.quiet_ofOption.run_bind fun actor => ?_
  refine (Prog.quiet_pure _).run_bind fun _ => ?_
  refine (Handler.quiet_serve ?_).run_bind fun ids => Prog.quiet_pure _
  refine (Prog.quiet_store fun _ => ⟨_, rfl⟩).run_bind fun last => ?_
  cases last with
  | none => exact Prog.quiet_pure _
  | some r =>
    refine (Prog.quiet_store fun _ => ⟨_, rfl⟩).run_bind fun geofences => ?_
    -- All that is left is to ask the engine, which changes how many questions it was asked.
    intro env w
    rw [Prog.ensures_run_bind, Prog.ensures_run_lift, Prog.Ensures, Tracker.evaluate,
      Membership.run_evaluateWith]
    exact ⟨rfl, rfl⟩

/-- To list geofences changes nothing. -/
theorem quiet_listGeofences {v : Verifier} {query : List Char} :
    (listGeofences v query req).run.Quiet := by
  refine Handler.quiet_caller.run_bind fun caller => ?_
  refine Handler.quiet_ofOption.run_bind fun includeInactive => ?_
  exact (Handler.quiet_serve (Prog.quiet_store fun _ => ⟨_, rfl⟩)).run_bind fun _ =>
    Prog.quiet_pure _

/-- To look at a geofence changes nothing. -/
theorem quiet_getGeofence {v : Verifier} {segment : List Char} :
    (getGeofence v segment req).run.Quiet := by
  refine Handler.quiet_caller.run_bind fun caller => ?_
  refine Handler.quiet_ofOption.run_bind fun id => ?_
  refine (Handler.quiet_serve (Prog.quiet_store fun _ => ⟨_, rfl⟩)).run_bind fun found => ?_
  exact Handler.quiet_ofOption.run_bind fun _ => Prog.quiet_pure _

/-- To look at the history changes nothing. -/
theorem quiet_listEvents {v : Verifier} {query : List Char} :
    (listEvents v query req).run.Quiet := by
  refine Handler.quiet_caller.run_bind fun caller => ?_
  refine Handler.quiet_ofOption.run_bind fun q => ?_
  refine (Prog.quiet_pure _).run_bind fun q => ?_
  refine (Handler.quiet_serve (Prog.quiet_store fun _ => ⟨_, rfl⟩)).run_bind fun events => ?_
  exact (Handler.quiet_serve (Prog.quiet_store fun _ => ⟨_, rfl⟩)).run_bind fun _ =>
    Prog.quiet_pure _

end Api

namespace App

variable {app : App} {env : Surroundings} {req : Request} {w : World}

/-- What the handler of a method on a resource does. -/
theorem handler?_deed {query : List Char} {asked : Method} {resource : Resource}
    {h : Handler Response} (hh : app.handler? req query asked resource = some h) :
    h.run.Ensures env w (Deed app env req w asked (some resource)) := by
  -- A handler that only reads does nothing, whatever its resource is. The others were looked at one
  -- by one above.
  have hquiet : ∀ {h : Handler Response} {asked resource}, h.run.Quiet →
      h.run.Ensures env w (Deed app env req w asked resource) :=
    fun h => (h env w).imp fun _ _ hsame => .nothing hsame.1 hsame.2
  rw [handler?.eq_def] at hh
  split at hh
  · cases hh
    exact Api.submitLocation_deed
  · cases hh
    exact hquiet Api.quiet_currentGeofences
  · cases hh
    exact hquiet Api.quiet_listGeofences
  · cases hh
    exact Api.createGeofence_deed
  · cases hh
    exact hquiet Api.quiet_getGeofence
  · cases hh
    exact Api.updateGeofence_deed
  · cases hh
    exact Api.deleteGeofence_deed
  · cases hh
    exact hquiet Api.quiet_listEvents
  · cases hh
    exact Api.purgeLocations_deed
  · cases hh
    exact hquiet (Prog.quiet_pure _)
  · cases hh
    exact hquiet (Prog.quiet_pure _)
  · cases hh
    exact hquiet (Prog.quiet_pure _)
  · cases hh
    refine hquiet (Prog.Quiet.run_lift ?_)
    rw [metricsPage]
    split
    · exact Prog.quiet_counters.bind fun _ => Prog.quiet_pure _
    · exact Prog.quiet_pure _
  · cases hh

/-- The response of a handler; a refusal is a response too. -/
def settled : Except Refusal Response → Response
  | .ok r => r
  | .error refusal => refusal.response

/-- The method that decides what a request does: a request for the headers alone is read like one
for all. -/
def asked (req : Request) : Method :=
  if req.method = .head then .get else req.method

/-- The identifier of a request, and the world after it was found. -/
def named (env : Surroundings) (req : Request) (w : World) : String × World :=
  match givenRequestId? req.headers with
  | some id => (id, w)
  | none => ((env.ids w.drawn).toText, { w with drawn := w.drawn + 1 })

/-- The response to a request without the headers that every response gets. -/
def sent (req : Request) (r : Response) : Response :=
  if req.method = .head then r.negotiated.withoutBody else r.negotiated

/-- How handling a request ends. -/
inductive Handled (app : App) (env : Surroundings) (req : Request) (w : World) :
    Option Response → World → Prop
  /-- Questions about what may be done are answered at once. -/
  | options (method : req.method = .options) :
      Handled app env req w
        (some (app.options req (Resource.ofSegments? req.target.segments))) w
  /-- The request is answered and counted. -/
  | answered {result : Except Refusal Response} {w' : World}
      (deed : Deed app env req (named env req w).2 (asked req)
        (Resource.ofSegments? req.target.segments) (some result) w') :
      Handled app env req w
        (some (app.origins.tell req.headers
          ((sent req (settled result)).withHeader "x-request-id" (named env req w).1)))
        { w' with
          counters := World.bump (.requests req.method.label
            ((Resource.ofSegments? req.target.segments).elim "unmatched" Resource.pattern)
            (settled result).status) 1 w'.counters }
  /-- The handler breaks down. -/
  | broken {w' : World}
      (deed : Deed app env req (named env req w).2 (asked req)
        (Resource.ofSegments? req.target.segments) none w') :
      Handled app env req w none w'

/-- Negotiation and a dropped body leave the status of a response. -/
theorem status_sent (req : Request) (r : Response) : (sent req r).status = r.status := by
  have hnegotiated : r.negotiated.status = r.status := by
    rw [Response.negotiated]
    split <;> rfl
  rw [sent]
  split <;> exact hnegotiated

/-- Telling which origins may read a response does not change its status. -/
theorem status_tell (origins : Origins) (headers : Headers) (r : Response) :
    (origins.tell headers r).status = r.status := by
  rw [Origins.tell, Response.withHeader?]
  cases origins.allowed headers <;> rfl

/-- A request is named before anything else is done for it. -/
private theorem ensures_requestId {Q : Option String → World → Prop} :
    (requestId req.headers).Ensures env w Q ↔
      Q (some (named env req w).1) (named env req w).2 := by
  rw [requestId, named]
  cases givenRequestId? req.headers with
  | some id => exact Iff.rfl
  | none =>
    simp only [Prog.ensures_bind, Prog.ensures_fresh]
    exact Iff.rfl

/-- Whatever answers a request, it does a deed for the resource that was asked for. -/
private theorem answer_deed (app : App) (env : Surroundings) (req : Request)
    (w : World) (resource : Option Resource) :
    (resource.elim (pure (Response.bare 404)) (app.answer req)).Ensures env w fun r w' =>
      ∃ result, Deed app env req w (asked req) resource result w' ∧ r = result.map settled := by
  cases resource with
  | none => exact ⟨some (.ok _), .nothing rfl rfl, rfl⟩
  | some resource =>
    rw [Option.elim_some, answer, ← asked]
    cases hh : app.handler? req req.target.query (asked req) resource with
    | none => exact ⟨some (.ok _), .nothing rfl rfl, rfl⟩
    | some h =>
      simp only [settle, Prog.ensures_bind]
      refine (handler?_deed hh).imp fun result w' hdeed => ?_
      -- A breakdown, a refusal and a response are each settled in their own way.
      rcases result with _ | _ | _ <;> exact ⟨_, hdeed, rfl⟩

/-- Handling a request always ends in one of these ways. -/
theorem handle_deed (app : App) (env : Surroundings) (req : Request) (w : World) :
    (app.handle req).Ensures env w (Handled app env req w) := by
  rw [handle]
  by_cases hoptions : req.method = .options
  · rw [if_pos hoptions]
    exact .options hoptions
  · rw [if_neg hoptions]
    simp only [Prog.ensures_bind, ensures_requestId, respond]
    refine (answer_deed app env req _ _).imp ?_
    rintro _ w' ⟨result, hdeed, rfl⟩
    cases result with
    | none => exact .broken hdeed
    | some result =>
      -- The status that is counted is that of the response as it is sent.
      have hanswered := Handled.answered hdeed
      rw [← status_sent req (settled result)] at hanswered
      exact hanswered

/-! ## Requests that leave no trace -/

/-- The world in which the handler starts differs from the one before in nothing that is stored. -/
theorem named_same (env : Surroundings) (req : Request) (w : World) :
    (named env req w).2.store = w.store ∧ (named env req w).2.entries = w.entries := by
  rw [named]
  split <;> exact ⟨rfl, rfl⟩

/-- Requests that only read are asked as a GET. -/
theorem asked_of_reads (hreads : req.method = .get ∨ req.method = .head) : asked req = .get := by
  rcases hreads with hget | hhead
  · rw [asked, hget]
    rfl
  · rw [asked, if_pos hhead]

/-- What is done for a request around its handler. -/
def around (app : App) (req : Request) (resource : Resource) (h : Handler Response) :
    Prog Response := do
  let name ← requestId req.headers
  let r ← settle h
  Prog.count (.requests req.method.label resource.pattern (sent req r).status) 1
  return app.origins.tell req.headers ((sent req r).withHeader "x-request-id" name)

/-- Handling a request runs its handler and nothing else but what is done for every request. -/
theorem handle_eq_around {resource : Resource} {h : Handler Response}
    (hresource : Resource.ofSegments? req.target.segments = some resource)
    (hh : app.handler? req req.target.query (asked req) resource = some h) :
    app.handle req = app.around req resource h := by
  have hoptions : req.method ≠ .options := by
    intro hmethod
    rw [asked, if_neg (by rw [hmethod]; decide), hmethod] at hh
    cases hh
  have hanswer : app.answer req resource = settle h := by
    rw [answer, ← asked, hh]
  rw [handle, if_neg hoptions, hresource, around]
  simp only [respond, Option.elim_some, hanswer, bind_assoc, pure_bind]
  rfl

end App

/-- A deed that changes anything is not answered with the status of a client error: if a submission
fails after the report was stored, the store is to blame. -/
theorem Deed.same_or_status {app : App} {env : Surroundings} {req : Request} {w w' : World}
    {asked : Method} {resource : Option Resource} {result : Except Refusal Response}
    (h : Deed app env req w asked resource (some result) w') :
    (w'.store = w.store ∧ w'.entries = w.entries) ∨
      (App.settled result).status < 400 ∨ 500 ≤ (App.settled result).status := by
  generalize hsome : some result = answer at h
  cases h with
  | nothing store entries => exact .inl ⟨store, entries⟩
  | submitted _ _ _ _ submitted =>
    cases submitted with
    | invalid => exact .inl ⟨rfl, rfl⟩
    | rejected store entries => exact .inl ⟨store, entries⟩
    | accepted =>
      cases hsome
      exact .inr (.inl (show 201 < 400 by decide))
    | interrupted =>
      -- The one failure that leaves something behind is a refusal of the store, and it is not shown
      -- as an error of the client.
      cases hsome
      exact .inr (.inr (show 500 ≤ 500 by decide))
  | created =>
    cases hsome
    exact .inr (.inl (show 201 < 400 by decide))
  | updated =>
    cases hsome
    exact .inr (.inl (show 200 < 400 by decide))
  | deleted =>
    cases hsome
    exact .inr (.inl (show 204 < 400 by decide))
  | purged =>
    cases hsome
    exact .inr (.inl (show 200 < 400 by decide))

/-- Reading is no deed. -/
theorem Deed.same_of_reads {app : App} {env : Surroundings} {req : Request} {w w' : World}
    {resource : Option Resource} {result : Option (Except Refusal Response)}
    (h : Deed app env req w (App.asked req) resource result w')
    (hreads : req.method = .get ∨ req.method = .head) :
    w'.store = w.store ∧ w'.entries = w.entries := by
  -- All other deeds are done with methods that write.
  rw [App.asked_of_reads hreads] at h
  cases h with
  | nothing store entries => exact ⟨store, entries⟩

/-- A request that is answered with the status of a client error leaves the store as it was and
tells the hook nothing, and so does every request that reads, however it is answered. -/
theorem App.handle_no_trace (app : App) (env : Surroundings) (req : Request) (w : World) :
    let out := (app.handle req).run env w
    (∀ r, out.1 = some r → 400 ≤ r.status → r.status < 500 →
      out.2.store = w.store ∧ out.2.entries = w.entries) ∧
    (req.method = .get ∨ req.method = .head →
      out.2.store = w.store ∧ out.2.entries = w.entries) := by
  intro out
  have hhandled : Handled app env req w out.1 out.2 := handle_deed app env req w
  obtain ⟨hstore, hentries⟩ := named_same env req w
  generalize out.1 = answer, out.2 = w' at hhandled ⊢
  cases hhandled with
  | options => exact ⟨fun _ _ _ _ => ⟨rfl, rfl⟩, fun _ => ⟨rfl, rfl⟩⟩
  | @answered result w' deed =>
    constructor
    · intro r hr hlow hhigh
      have hstatus : r.status = (settled result).status := by
        rw [← Option.some_inj.1 hr, status_tell]
        exact status_sent req (settled result)
      -- What is sent has the status that the handler settled on, so the deed decides.
      rw [hstatus] at hlow hhigh
      obtain ⟨hs, he⟩ | hother := deed.same_or_status
      · exact ⟨hs.trans hstore, he.trans hentries⟩
      · omega
    · intro hreads
      obtain ⟨hs, he⟩ := deed.same_of_reads hreads
      exact ⟨hs.trans hstore, he.trans hentries⟩
  | broken deed =>
    constructor
    · intro r hr
      cases hr
    · intro hreads
      obtain ⟨hs, he⟩ := deed.same_of_reads hreads
      exact ⟨hs.trans hstore, he.trans hentries⟩

end Http

/-! ### A stranger on the campus -/

namespace Campus

/-- The service of the school. -/
def app : Http.App :=
  { verifier := ⟨.secret [], 0⟩, retention := .standard, origins := .any, database := .absent
    exposesMetrics := false }

/-- Somebody reports a location without a token. -/
def stranger : Http.Request :=
  { method := .post
    target := ⟨["".toList, "api".toList, "v1".toList, "locations".toList], []⟩
    headers := [], body := [] }

end Campus

/-- A stranger is turned away and leaves no trace. -/
theorem Http.App.handle_no_trace_campus :
    let out := (Campus.app.handle Campus.stranger).run Campus.surroundings Campus.morning
    out.1.map Response.status = some 401 ∧ out.2.store = Campus.morning.store ∧
      out.2.entries = Campus.morning.entries := by
  intro out
  have hstatus : out.1.map Response.status = some 401 := by decide +kernel
  obtain ⟨r, hr, h401⟩ := Option.map_eq_some_iff.1 hstatus
  refine ⟨hstatus, ?_⟩
  exact (handle_no_trace Campus.app Campus.surroundings Campus.stranger Campus.morning).1 r hr
    (by omega) (by omega)

end Geofencing
