import Geofencing.Proofs.Authorization
import Geofencing.Proofs.Phases

/-!
# What callers are entitled to

A request has an errand: somebody is tracked, somebody is served, or the service itself is looked
at. The errand and the caller decide which actions may be taken for the request
(`Action.Entitled`), and no request takes any other: `Http.App.follows_handle`.

Students are not entitled to change anything but by being tracked, and see of all actors only
themselves.
-/

namespace Geofencing

/-- What a request is for. -/
inductive Errand where
  /-- Reporting where the caller is. -/
  | tracking
  /-- Whatever else the caller wants from the service. -/
  | serving
  /-- Looking at the counters. -/
  | monitoring
  deriving DecidableEq

/-- What a request for a resource is for. -/
def Http.Resource.errand : Http.Resource → Errand
  | .locations => .tracking
  | .metrics => .monitoring
  | _ => .serving

/-- What a request is for. Paths that lead nowhere are served too. -/
def Http.Request.errand (req : Http.Request) : Errand :=
  (Http.Resource.ofSegments? req.target.segments).elim .serving Http.Resource.errand

/-! ## Entitlements -/

/-- The store calls that a caller is entitled to on an errand. The events that are recorded on it
have identifiers of their own. -/
def StoreCall.Entitled (caller : Caller) (mine : Uuid → Prop) : Errand → StoreCall → Prop
  | .tracking, .findActive tenant => tenant = caller.tenant
  | .tracking, .latest tenant actor => tenant = caller.tenant ∧ actor = caller.actor
  | .tracking, .insertReport r => r.isAbout caller.tenant caller.actor = true
  | .tracking, .insertEvent e => e.isAbout caller.tenant caller.actor = true ∧ mine e.id
  | .tracking, .markProcessed tenant id _ => tenant = caller.tenant ∧ mine id
  | .serving, .findActive tenant => tenant = caller.tenant
  | .serving, .find tenant _ => tenant = caller.tenant
  | .serving, .list tenant _ => tenant = caller.tenant
  -- Staff looks at every actor of the tenant.
  | .serving, .latest tenant actor =>
    tenant = caller.tenant ∧ (caller.role.isStaff = true ∨ actor = caller.actor)
  | .serving, .listEvents tenant q =>
    tenant = caller.tenant ∧ (caller.role.isStaff = true ∨ q.actor = some caller.actor)
  | .serving, .countEvents tenant q =>
    tenant = caller.tenant ∧ (caller.role.isStaff = true ∨ q.actor = some caller.actor)
  | .serving, .create g => g.tenant = caller.tenant ∧ caller.role = .admin
  | .serving, .update g => g.tenant = caller.tenant ∧ caller.role = .admin
  | .serving, .delete tenant _ => tenant = caller.tenant ∧ caller.role = .admin
  | .serving, .deleteBefore scope _ => scope = some caller.tenant ∧ caller.role = .admin
  | _, _ => False

/-- The actions that a caller is entitled to on an errand. -/
def Action.Entitled (caller : Caller) (mine : Uuid → Prop) (errand : Errand) : Action → Prop
  | .store call => call.Entitled caller mine errand
  | .attend _ => errand = .tracking
  | .readCounters => errand = .monitoring
  | .locate _ _ | .readClock | .freshId | .count _ _ => True

/-- On an errand all actions are entitled, and the errand stays the same. -/
def Errand.Moves (caller : Caller) (mine : Uuid → Prop) (errand : Errand) (a : Action)
    (errand' : Errand) : Prop :=
  a.Entitled caller mine errand ∧ errand' = errand

variable {caller : Caller} {mine : Uuid → Prop} {errand : Errand}

/-- Everybody is entitled to the time, on any errand. -/
theorem Prog.follows_now {Q : Instant → Errand → Prop} (h : ∀ t, Q t errand) :
    Prog.now.Follows (Errand.Moves caller mine) mine errand Q :=
  Prog.follows_act ⟨trivial, rfl⟩ fun t _ => h t

/-! ## The service core -/

namespace Tracker

/-- A submission works for one tenant and goes through its phases, so it keeps to what whoever is
tracked is entitled to. -/
theorem follows_tracking (o : Observation) :
    (submit caller.tenant caller.actor o).run.Follows (Errand.Moves caller mine) mine .tracking
      fun _ _ => True := by
  have hphases := follows_submit caller.tenant caller.actor mine o
  have hscoped : (submit caller.tenant caller.actor o).run.Scoped caller.tenant mine false
      fun _ _ => True := scoped_submit fun _ _ => trivial
  generalize (submit caller.tenant caller.actor o).run = x, Phase.asking = p, false = touched
    at hphases hscoped ⊢
  induction x generalizing p touched with
  | done r => trivial
  | abort => trivial
  | step a next ih =>
    obtain ⟨p', hmove, hnext⟩ := hphases
    obtain ⟨hpermitted, hscoped⟩ := hscoped
    refine ⟨.tracking, ⟨?_, rfl⟩, fun reply hreply =>
      ih reply p' _ (hnext reply hreply) (hscoped reply hreply)⟩
    cases hmove with
    | list => rfl
    | read => exact ⟨rfl, rfl⟩
    | report about => exact about
    | event about own => exact ⟨about, own⟩
    | mark own => exact ⟨rfl, own⟩
    | aside apart =>
      -- The phases do not tell a look at the counters from other asides, but a program for one
      -- tenant does not take it.
      cases a with
      | store call => cases apart
      | readCounters => cases hpermitted
      | attend entry => rfl
      | locate | readClock | freshId | count => trivial

/-- Whoever may ask about an actor is entitled to all that the answer takes. -/
theorem follows_current {actor : Uuid} {Q : Except DomainError (List Uuid) → Errand → Prop}
    (hactor : caller.role.isStaff = true ∨ actor = caller.actor) (h : ∀ r, Q r .serving) :
    (current caller.tenant actor).run.Follows (Errand.Moves caller mine) mine .serving Q := by
  rw [current, Prog.follows_run_bind]
  refine Prog.follows_run_store ⟨⟨rfl, hactor⟩, rfl⟩ (fun _ => h _) fun last => ?_
  cases last with
  | none => exact h _
  | some r =>
    simp only [Prog.follows_run_bind]
    refine Prog.follows_run_store ⟨rfl, rfl⟩ (fun _ => h _) fun geofences => ?_
    simp only [Prog.follows_run_lift]
    exact Membership.follows_evaluateWith (fun _ _ => ⟨trivial, rfl⟩) fun _ => h _

/-- Administrators are entitled to a purge of their own tenant. -/
theorem follows_purge {policy : RetentionPolicy} {Q : Except DomainError Nat → Errand → Prop}
    (hadmin : caller.role = .admin) (h : ∀ r, Q r .serving) :
    (purge policy (some caller.tenant)).run.Follows (Errand.Moves caller mine) mine .serving
      Q := by
  simp only [purge, Prog.follows_run_bind, Prog.follows_run_lift]
  refine Prog.follows_now fun now => ?_
  cases policy.cutoff? now with
  | none => trivial
  | some cutoff =>
    simp only [Prog.follows_run_bind]
    refine Prog.follows_run_store ⟨⟨rfl, hadmin⟩, rfl⟩ (fun _ => h _) fun deleted => ?_
    simp only [Prog.follows_run_lift]
    exact Prog.follows_act ⟨trivial, rfl⟩ fun _ _ => h _

end Tracker

/-! ## Handlers -/

namespace Http

namespace Handler

variable {α β : Type} {f : α → Handler β}

/-- However a handler ends, it keeps to what the caller is entitled to on an errand. -/
abbrev Keeps (caller : Caller) (mine : Uuid → Prop) (errand : Errand) (h : Handler β) : Prop :=
  h.run.Follows (Errand.Moves caller mine) mine errand fun _ _ => True

/-- What a handler takes from the request needs no entitlement. -/
theorem keeps_bind_of_run_eq {x : Handler α} {r : Except Refusal α} (hx : x.run = pure r)
    (hok : ∀ a, r = .ok a → Keeps caller mine errand (f a)) :
    Keeps caller mine errand (x >>= f) := by
  rw [Keeps, Prog.follows_run_bind, hx, Prog.follows_pure]
  cases r with
  | error refusal => trivial
  | ok a => exact hok a rfl

/-- A check that may refuse the request needs no entitlement. -/
theorem keeps_ofApi_bind {r : Except ApiError α}
    (hok : ∀ a, r = .ok a → Keeps caller mine errand (f a)) :
    Keeps caller mine errand (ofApi r >>= f) :=
  keeps_bind_of_run_eq rfl fun a ha => hok a (ok_of_mapError ha)

/-- To demand that a value be present needs no entitlement. -/
theorem keeps_ofOption_bind {reason : Refusal} {r : Option α}
    (hok : ∀ a, r = some a → Keeps caller mine errand (f a)) :
    Keeps caller mine errand (ofOption reason r >>= f) := by
  cases r with
  | none => trivial
  | some a => exact hok a rfl

/-- A handler may read the clock on any errand. -/
theorem keeps_now_bind {f : Instant → Handler β} (hok : ∀ now, Keeps caller mine errand (f now)) :
    Keeps caller mine errand (liftM Prog.now >>= f) := by
  rw [Keeps, Prog.follows_run_bind, Prog.follows_run_lift]
  exact Prog.follows_now hok

/-- A handler goes on with the result of a service that keeps to the entitlement. -/
theorem keeps_serve_bind {p : Service α}
    (hp : p.run.Follows (Errand.Moves caller mine) mine errand fun r errand' =>
      ∀ a, r = .ok a → Keeps caller mine errand' (f a)) :
    Keeps caller mine errand (serve p >>= f) := by
  rw [Keeps, Prog.follows_run_bind, serve, ExceptT.run_adapt, map_eq_pure_bind, Prog.follows_bind]
  refine hp.imp fun r errand' hr => ?_
  cases r with
  | error e => trivial
  | ok a => exact hr a rfl

/-- A handler calls the store, as far as the caller is entitled to it. -/
theorem keeps_store_bind {call : StoreCall} {f : call.Value → Handler β}
    (hcall : call.Entitled caller mine errand)
    (hok : ∀ value, call.Fits value → Keeps caller mine errand (f value)) :
    Keeps caller mine errand (serve (Service.store call) >>= f) := by
  refine keeps_serve_bind (Prog.follows_act ⟨hcall, rfl⟩ fun reply hreply value hvalue => ?_)
  exact hok value (hreply value hvalue)

/-- Whenever the token of a request is accepted, it speaks for the caller. -/
def By (v : Verifier) (req : Request) (caller : Caller) : Prop :=
  ∀ now found, Caller.identify v now req.headers = .ok found → found = caller

/-- Whatever the verifier accepts, a token speaks for the caller that its claims name. -/
theorem by_of_named? {v : Verifier} {req : Request}
    (h : ∀ found, Caller.named? req.headers = some found → found = caller) : By v req caller :=
  fun _ found hfound => h found (Caller.named?_of_identify hfound)

/-- Every request speaks for one caller at most. -/
theorem exists_by (v : Verifier) (req : Request) : ∃ caller, By v req caller := by
  cases hnamed : Caller.named? req.headers with
  | none => exact ⟨⟨.nil, .nil, .student⟩, by_of_named? fun found h => by simp [hnamed] at h⟩
  | some caller =>
    exact ⟨caller, by_of_named? fun found h => Option.some_inj.1 (h.symm.trans hnamed)⟩

/-- A handler that asks for the caller of a request goes on with the one it speaks for. -/
theorem keeps_caller_bind {v : Verifier} {req : Request} (hby : By v req caller)
    {f : Caller → Handler β} (hok : Keeps caller mine errand (f caller)) :
    Keeps caller mine errand (Handler.caller v req >>= f) := by
  rw [Handler.caller, bind_assoc]
  refine keeps_now_bind fun now => keeps_ofApi_bind fun found hfound => ?_
  rw [hby now found hfound]
  exact hok

end Handler

namespace Api

open Handler (Keeps)

variable {v : Verifier} {req : Request} {segment query : List Char}

/-- Whoever may access an actor's data is staff or that actor. -/
theorem staff_or_eq_of_mayAccess {actor : Uuid} (h : caller.mayAccess actor = .ok ()) :
    caller.role.isStaff = true ∨ actor = caller.actor := by
  unfold Caller.mayAccess at h
  split at h
  · rename_i haccess
    exact haccess.imp_right Eq.symm
  · cases h

/-- Whoever is no staff asks about itself. -/
theorem staff_or_eq_of_entitled {q q' : EventQuery} (h : entitled caller q = .ok q') :
    caller.role.isStaff = true ∨ q'.actor = some caller.actor := by
  unfold entitled at h
  split at h
  · exact .inl (by assumption)
  · dsimp only at h
    cases haccess : caller.mayAccess (q.actor.getD caller.actor) with
    | error e =>
      rw [haccess] at h
      cases h
    | ok _ =>
      rw [haccess] at h
      cases h
      exact (staff_or_eq_of_mayAccess haccess).imp_right (congrArg some)

/-- A submission tracks its caller and nobody else. -/
theorem keeps_submitLocation (hby : Handler.By v req caller) :
    Keeps caller mine .tracking (submitLocation v req) := by
  refine Handler.keeps_caller_bind hby ?_
  refine Handler.keeps_bind_of_run_eq rfl fun r _ => Handler.keeps_now_bind fun now => ?_
  refine Handler.keeps_ofApi_bind fun _ _ => Handler.keeps_now_bind fun now => ?_
  refine Handler.keeps_ofApi_bind fun o _ => Handler.keeps_serve_bind ?_
  exact (Tracker.follows_tracking o).imp fun _ _ _ _ _ => trivial

/-- The handler of an actor's current geofences only serves its caller. -/
theorem keeps_currentGeofences (hby : Handler.By v req caller) :
    Keeps caller mine .serving (currentGeofences v segment req) := by
  refine Handler.keeps_caller_bind hby ?_
  refine Handler.keeps_ofOption_bind fun actor _ => Handler.keeps_ofApi_bind fun _ haccess => ?_
  refine Handler.keeps_serve_bind ?_
  exact Tracker.follows_current (staff_or_eq_of_mayAccess haccess) fun _ _ _ => trivial

/-- The handler of the listing only serves its caller. -/
theorem keeps_listGeofences (hby : Handler.By v req caller) :
    Keeps caller mine .serving (listGeofences v query req) := by
  refine Handler.keeps_caller_bind hby ?_
  refine Handler.keeps_ofOption_bind fun all _ => ?_
  exact Handler.keeps_store_bind rfl fun _ _ => trivial

/-- A geofence is created for an administrator of its own tenant only. -/
theorem keeps_createGeofence (hby : Handler.By v req caller) :
    Keeps caller mine .serving (createGeofence v req) := by
  refine Handler.keeps_caller_bind hby ?_
  refine Handler.keeps_bind_of_run_eq rfl fun r _ => Handler.keeps_ofApi_bind fun _ hadmin => ?_
  refine Handler.keeps_ofApi_bind fun _ _ => Handler.keeps_ofApi_bind fun shape _ => ?_
  rw [Keeps, Prog.follows_run_bind, Prog.follows_run_lift]
  refine Prog.follows_act ⟨trivial, rfl⟩ fun id _ => Handler.keeps_now_bind fun now => ?_
  exact Handler.keeps_store_bind ⟨rfl, role_of_requireAdmin hadmin⟩ fun _ _ => trivial

/-- The handler of one geofence only serves its caller. -/
theorem keeps_getGeofence (hby : Handler.By v req caller) :
    Keeps caller mine .serving (getGeofence v segment req) := by
  refine Handler.keeps_caller_bind hby ?_
  refine Handler.keeps_ofOption_bind fun id _ => Handler.keeps_store_bind rfl fun found _ => ?_
  exact Handler.keeps_ofOption_bind fun _ _ => trivial

/-- A geofence is changed for an administrator of its own tenant only. -/
theorem keeps_updateGeofence (hby : Handler.By v req caller) :
    Keeps caller mine .serving (updateGeofence v segment req) := by
  refine Handler.keeps_caller_bind hby ?_
  refine Handler.keeps_ofOption_bind fun id _ => Handler.keeps_bind_of_run_eq rfl fun r _ => ?_
  refine Handler.keeps_ofApi_bind fun _ hadmin => Handler.keeps_ofApi_bind fun _ _ => ?_
  refine Handler.keeps_store_bind rfl fun found hfits => ?_
  refine Handler.keeps_ofOption_bind fun old hold => Handler.keeps_now_bind fun now => ?_
  refine Handler.keeps_ofApi_bind fun g happlied => ?_
  -- The tenant finds its own geofences only, and a change keeps the tenant.
  have htenant : g.tenant = caller.tenant :=
    (UpdateGeofence.tenant_apply (Handler.ok_of_mapError (Handler.ok_of_mapError happlied))).trans
      (hfits old hold)
  refine Handler.keeps_store_bind ⟨htenant, role_of_requireAdmin hadmin⟩ fun updated _ => ?_
  split <;> trivial

/-- A geofence is deleted for an administrator of its own tenant only. -/
theorem keeps_deleteGeofence (hby : Handler.By v req caller) :
    Keeps caller mine .serving (deleteGeofence v segment req) := by
  refine Handler.keeps_caller_bind hby ?_
  refine Handler.keeps_ofOption_bind fun id _ => Handler.keeps_ofApi_bind fun _ hadmin => ?_
  refine Handler.keeps_store_bind ⟨rfl, role_of_requireAdmin hadmin⟩ fun deleted _ => ?_
  split <;> trivial

/-- The handler of the history only serves its caller. -/
theorem keeps_listEvents (hby : Handler.By v req caller) :
    Keeps caller mine .serving (listEvents v query req) := by
  refine Handler.keeps_caller_bind hby ?_
  refine Handler.keeps_ofOption_bind fun q _ => Handler.keeps_ofApi_bind fun q' hq' => ?_
  have hactor := staff_or_eq_of_entitled hq'
  refine Handler.keeps_store_bind ⟨rfl, hactor⟩ fun events _ => ?_
  exact Handler.keeps_store_bind ⟨rfl, hactor⟩ fun _ _ => trivial

/-- Reports are purged for an administrator of their own tenant only. -/
theorem keeps_purgeLocations {policy : RetentionPolicy} (hby : Handler.By v req caller) :
    Keeps caller mine .serving (purgeLocations v policy req) := by
  refine Handler.keeps_caller_bind hby ?_
  refine Handler.keeps_ofApi_bind fun _ hadmin => Handler.keeps_serve_bind ?_
  exact Tracker.follows_purge (role_of_requireAdmin hadmin) fun _ _ _ => trivial

end Api

/-! ## Requests -/

namespace App

variable {app : App} {req : Request}

/-- Every route's handler keeps to the errand of its resource. -/
theorem keeps_handler? (hby : Handler.By app.verifier req caller) {query : List Char}
    {asked : Method} {resource : Resource} {h : Handler Response}
    (hh : app.handler? req query asked resource = some h) :
    Handler.Keeps caller mine resource.errand h := by
  rw [handler?.eq_def] at hh
  split at hh
  case h_14 => cases hh
  all_goals cases hh
  · exact Api.keeps_submitLocation hby
  · exact Api.keeps_currentGeofences hby
  · exact Api.keeps_listGeofences hby
  · exact Api.keeps_createGeofence hby
  · exact Api.keeps_getGeofence hby
  · exact Api.keeps_updateGeofence hby
  · exact Api.keeps_deleteGeofence hby
  · exact Api.keeps_listEvents hby
  · exact Api.keeps_purgeLocations hby
  · trivial
  · trivial
  · trivial
  · rw [Handler.Keeps, Prog.follows_run_lift, metricsPage]
    split
    · exact Prog.follows_act ⟨rfl, rfl⟩ fun _ _ => trivial
    · trivial

/-- Whatever is done for a request, the caller is entitled to it. -/
theorem follows_handle (hby : Handler.By app.verifier req caller) :
    (app.handle req).Follows (Errand.Moves caller mine) mine req.errand fun _ _ => True := by
  -- First what answers the request, then what counts it, then what names it.
  have hanswer : ((Resource.ofSegments? req.target.segments).elim (pure (Response.bare 404))
      (app.answer req)).Follows (Errand.Moves caller mine) mine req.errand fun _ _ => True := by
    unfold Request.errand
    cases Resource.ofSegments? req.target.segments with
    | none => trivial
    | some resource =>
      rw [Option.elim_some, Option.elim_some, answer, ← asked]
      cases hh : app.handler? req req.target.query (asked req) resource with
      | none => trivial
      | some h =>
        simp only [settle, Prog.follows_bind]
        refine (keeps_handler? hby hh).imp fun result _ _ => ?_
        cases result <;> trivial
  have hrespond : (app.respond req (Resource.ofSegments? req.target.segments)).Follows
      (Errand.Moves caller mine) mine req.errand fun _ _ => True := by
    simp only [respond, Prog.follows_bind]
    exact hanswer.imp fun r _ _ => Prog.follows_act ⟨trivial, rfl⟩ fun _ _ => trivial
  unfold handle
  dsimp only
  split
  · trivial
  · unfold requestId
    rw [Prog.follows_bind]
    cases givenRequestId? req.headers with
    | some id => exact Prog.follows_bind.2 (hrespond.imp fun _ _ _ => trivial)
    | none =>
      refine Prog.follows_bind.2 (Prog.follows_act ⟨trivial, rfl⟩ fun id _ => ?_)
      exact Prog.follows_bind.2 (hrespond.imp fun _ _ _ => trivial)

end App

end Http

end Geofencing
