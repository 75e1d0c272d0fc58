import Geofencing.Proofs.Isolation

/-!
# Authorization

Everything that is there for tenants asks who is calling before it does anything else. A caller
has to prove it with a bearer token (`Caller.Proven`); without such a token a request is refused,
and whatever is wrong with the token, the refusal says that the caller is unauthorized.

What a request may do to the store depends on the role of the caller and on nothing else: only
administrators change geofences and remove rows, nobody touches the rows of another tenant, and all
reports and events that are added are the caller's own (`Store.Change`). Both together are
`Http.App.authorization`.
-/

namespace Geofencing

/-! ## Tokens that are refused -/

/-- Whatever fails, the bearer of the token is told to be unauthorized. -/
def TokenError.Blames {α : Type} (r : Except TokenError α) : Prop :=
  ∀ e, r = .error e → (ApiError.ofToken e).status = 401

namespace TokenError.Blames

variable {α β : Type}

theorem ok (a : α) : Blames (.ok a) := by
  intro e h
  cases h

/-- An error with the status of the unauthorized blames the bearer. -/
theorem error {e : TokenError} (h : (ApiError.ofToken e).status = 401) :
    Blames (.error e : Except TokenError α) := by
  intro e' he
  cases he
  exact h

/-- If two checks blame the bearer, so does one after the other. -/
theorem bind {r : Except TokenError α} {f : α → Except TokenError β} (hr : Blames r)
    (hf : ∀ a, Blames (f a)) : Blames (r >>= f) := by
  cases r with
  | error e => exact error (hr e rfl)
  | ok a => exact hf a

end TokenError.Blames

open TokenError (Blames)

/-- A part of a token that cannot be read makes the bearer unauthorized. -/
theorem Token.blames_decodePart {α : Type} (d : Json.Decoder α) (cs : List Char) :
    Blames (decodePart d cs) := by
  unfold decodePart
  split
  · exact .error rfl
  · split
    · exact .ok _
    · exact .error rfl

theorem Token.blames_checkSignature (key : VerifyingKey) (signed given : List Char) :
    Blames (checkSignature key signed given) := by
  unfold checkSignature
  cases key with
  | secret bytes =>
    dsimp only
    split
    · exact .ok _
    · exact .error rfl
  | rsa key =>
    dsimp only
    split
    · exact .error rfl
    · split
      · exact .ok _
      · exact .error rfl

/-- A verifier has no errors of its own: a key that cannot be used is found out before there is a
verifier. -/
theorem Verifier.blames_verify (v : Verifier) (now : Instant) (token : List Char) :
    Blames (v.verify now token) := by
  unfold verify
  split
  · split
    · refine (Token.blames_decodePart _ _).bind fun algorithm => ?_
      dsimp only
      split
      · exact .error rfl
      refine (Token.blames_checkSignature _ _ _).bind fun _ => ?_
      refine (Token.blames_decodePart _ _).bind fun claims => ?_
      refine (Token.blames_decodePart _ _).bind fun audience => ?_
      -- Four checks of the claims are left: of the expiry twice, of the clock and of the audience.
      split
      · exact .error rfl
      split
      · exact .error rfl
      split
      · exact .error rfl
      split
      · exact .error rfl
      exact .ok claims
    · exact .error rfl
  · exact .error rfl

namespace Caller

variable {v : Verifier} {now : Instant} {headers : Http.Headers} {caller : Caller}

theorem blames_ofClaims (claims : Claims) : Blames (ofClaims claims) := by
  unfold ofClaims Claims.tenantId Claims.actorId
  refine Blames.bind ?_ fun tenant => Blames.bind ?_ fun actor => .ok _
  · split
    · exact .ok _
    · exact .error rfl
  · split
    · exact .ok _
    · exact .error rfl

/-- The headers carry a bearer token that the verifier accepts at an instant `now`, and that names
the caller: its tenant and its subject are identifiers. -/
def Proven (v : Verifier) (now : Instant) (headers : Http.Headers) (caller : Caller) : Prop :=
  ∃ rest claims, headers.visible? "authorization" = some (bearer ++ rest) ∧
    Text.trimChars rest ≠ [] ∧ v.verify now (Text.trimChars rest) = .ok claims ∧
    Uuid.parse? claims.tenant = some caller.tenant ∧
    Uuid.parse? claims.subject = some caller.actor ∧ claims.role = caller.role

/-- The token is what follows the scheme in the header, without the blanks around it. -/
theorem token_eq_ok_iff {cs : List Char} :
    token headers = .ok cs ↔ ∃ rest, headers.visible? "authorization" = some (bearer ++ rest) ∧
      Text.trimChars rest ≠ [] ∧ Text.trimChars rest = cs := by
  unfold token
  cases headers.visible? "authorization" with
  | none => simp
  | some value =>
    simp only [Option.some.injEq]
    constructor
    · intro h
      split at h
      · rename_i hbearer
        -- What is dropped from the header is the scheme.
        obtain ⟨rest, rfl⟩ := List.isPrefixOf_iff_prefix.1 hbearer.1
        rw [List.drop_left] at hbearer h
        exact ⟨rest, rfl, hbearer.2, Except.ok.inj h⟩
      · cases h
    · rintro ⟨rest, rfl, hne, rfl⟩
      rw [List.drop_left, if_pos ⟨List.isPrefixOf_iff_prefix.2 (List.prefix_append _ _), hne⟩]

/-- Claims name the caller of their tenant, subject and role. -/
theorem ofClaims_eq_ok_iff {claims : Claims} :
    ofClaims claims = .ok caller ↔ Uuid.parse? claims.tenant = some caller.tenant ∧
      Uuid.parse? claims.subject = some caller.actor ∧ claims.role = caller.role := by
  obtain ⟨tenant, actor, role⟩ := caller
  unfold ofClaims Claims.tenantId Claims.actorId
  cases Uuid.parse? claims.tenant <;> cases Uuid.parse? claims.subject <;>
    simp [bind, Except.bind, pure, Except.pure]

/-- Just the callers that are proven are identified. -/
theorem identify_eq_ok_iff : identify v now headers = .ok caller ↔ Proven v now headers caller := by
  rw [identify_eq_ok_iff_claims, Proven]
  constructor
  · rintro ⟨cs, claims, htoken, hverify, hclaims⟩
    obtain ⟨rest, hvalue, hne, rfl⟩ := token_eq_ok_iff.1 htoken
    exact ⟨rest, claims, hvalue, hne, hverify, ofClaims_eq_ok_iff.1 hclaims⟩
  · rintro ⟨rest, claims, hvalue, hne, hverify, hclaims⟩
    exact ⟨_, claims, token_eq_ok_iff.2 ⟨rest, hvalue, hne, rfl⟩, hverify,
      ofClaims_eq_ok_iff.2 hclaims⟩

/-- Whoever is not identified is unauthorized. -/
theorem status_of_identify {e : ApiError} (h : identify v now headers = .error e) :
    e.status = 401 := by
  unfold identify at h
  cases htoken : token headers with
  | error e' =>
    rw [htoken] at h
    cases h
    -- There is no token, or what stands in the header is none.
    unfold token at htoken
    dsimp only at htoken
    split at htoken
    · cases htoken
      rfl
    · split at htoken
      · cases htoken
      · cases htoken
        rfl
  | ok cs =>
    cases hverify : v.verify now cs with
    | error cause =>
      have hcause : ApiError.ofToken cause = e := by
        simpa [htoken, hverify, bind, Except.bind] using h
      rw [← hcause]
      exact v.blames_verify now cs cause hverify
    | ok claims =>
      cases hclaims : ofClaims claims with
      | error cause =>
        have hcause : ApiError.ofToken cause = e := by
          simpa [htoken, hverify, hclaims, bind, Except.bind] using h
        rw [← hcause]
        exact blames_ofClaims claims cause hclaims
      | ok caller => simp [htoken, hverify, hclaims, bind, Except.bind] at h

end Caller

/-! ## Changes on behalf of a caller -/

/-- Recording a crossing leaves the rows of other tenants alone. -/
theorem World.sameRows_noted {env : Surroundings} {w : World} {e : Event} {attends : Bool}
    {of : Uuid → Bool} (he : of e.tenant = false) :
    Store.SameRows of w.store (w.noted env e attends).store := by
  have hstored : Store.SameRows of w.store (w.store.after (.insertEvent e)) :=
    Store.sameRows_after rfl he fun hdelicate => by cases hdelicate
  cases attends with
  | false => exact hstored
  | true =>
    rw [noted, if_pos rfl, store_attended]
    refine hstored.trans ?_
    -- The event to be marked is looked for among those of the tenant.
    cases (w.stored e).mark? env e with
    | none => exact .refl of _
    | some t =>
      have hmarked : Store.SameRows of (w.stored e).store
          ((w.stored e).store.after (.markProcessed e.tenant e.id t)) :=
        Store.sameRows_after rfl he fun hdelicate => by cases hdelicate
      rw [Store.after_markProcessed] at hmarked
      exact hmarked

/-- Recording leaves the rows of other tenants alone. -/
theorem Recorder.Recorded.sameRows {env : Surroundings} {tenant actor : Uuid}
    {location : Coordinate} {occurredAt : Instant} {w w' : World} {fs : List Finding}
    {log : List (Finding × Event)} {of : Uuid → Bool}
    (h : Recorded env tenant actor location occurredAt w fs log w') (hof : of tenant = false) :
    Store.SameRows of w.store w'.store := by
  induction h with
  | nil => exact .refl of _
  | skip _ _ ih => exact ih
  | cons _ _ made _ ih =>
    subst made
    exact (World.sameRows_noted hof).trans ih

namespace Caller

variable {α : Type} {caller : Caller} {own : α → Prop} {rows rows' added : List α}

/-- Rows change on behalf of a caller: only an administrator removes any of them, and all that are
added are the caller's own. -/
def Alters (caller : Caller) (own : α → Prop) (rows rows' : List α) : Prop :=
  ∃ kept added, rows' = kept ++ added ∧ kept.Sublist rows ∧
    (kept ≠ rows → caller.role = .admin) ∧ ∀ row ∈ added, own row

theorem Alters.same (rows : List α) : caller.Alters own rows rows := by
  refine ⟨rows, [], ?_, List.Sublist.refl _, fun hne => absurd rfl hne, nofun⟩
  simp

/-- A caller may add rows of its own. -/
theorem Alters.append (h : ∀ row ∈ added, own row) : caller.Alters own rows (rows ++ added) :=
  ⟨rows, added, rfl, List.Sublist.refl _, fun hne => absurd rfl hne, h⟩

/-- An administrator may remove rows. -/
theorem Alters.of_admin (hadmin : caller.role = .admin) (h : rows'.Sublist rows) :
    caller.Alters own rows rows' :=
  ⟨rows', [], by simp, h, fun _ => hadmin, by simp⟩

end Caller

namespace Store

/-- The store changes on behalf of a caller. -/
structure Change (caller : Caller) (s s' : Store) : Prop where
  /-- No row of another tenant changes. -/
  others : SameRows (· != caller.tenant) s s'
  /-- Only an administrator changes geofences. -/
  geofences : s'.geofences ≠ s.geofences → caller.role = .admin
  /-- Only an administrator removes reports, and those that are added are the caller's own. -/
  reports : caller.Alters (fun r => r.tenant = caller.tenant ∧ r.actor = caller.actor)
    s.reports s'.reports
  /-- Only an administrator removes events, and those that are added are the caller's own. -/
  events : caller.Alters (fun e => e.tenant = caller.tenant ∧ e.actor = caller.actor)
    (s.events.map Event.unmarked) (s'.events.map Event.unmarked)

variable {caller : Caller} {s s' : Store}

theorem Change.refl (caller : Caller) (s : Store) : s.Change caller s := by
  refine ⟨.refl _ s, fun h => absurd rfl h, ?_, ?_⟩
  · exact .same _
  · exact .same _

/-- An administrator changes geofences and takes rows away. -/
theorem Change.of_admin (hadmin : caller.role = .admin)
    (hothers : SameRows (· != caller.tenant) s s') (hreports : s'.reports.Sublist s.reports)
    (hevents : s'.events.Sublist s.events) : s.Change caller s' :=
  ⟨hothers, fun _ => hadmin, .of_admin hadmin hreports, .of_admin hadmin (hevents.map _)⟩

end Store

/-- What is recorded for a caller changes the store on behalf of that caller. -/
theorem Tracker.change_of_recorded {env : Surroundings} {w w' : World} {caller : Caller}
    {o : Observation} {fs : List Finding} {log : List (Finding × Event)}
    (h : Recorder.Recorded env caller.tenant caller.actor o.coordinate o.recordedAt
      (w.reported env caller.tenant caller.actor o) fs log w') :
    w.store.Change caller w'.store := by
  -- The rows of other tenants stay, and what is added is about the caller.
  have hother : (caller.tenant != caller.tenant) = false := bne_self_eq_false _
  refine ⟨?_, fun hne => absurd h.geofences hne, ?_, ?_⟩
  · have hreported : Store.SameRows (· != caller.tenant) w.store
        (w.store.after (.insertReport (w.report env caller.tenant caller.actor o))) :=
      Store.sameRows_after rfl hother fun hdelicate => by cases hdelicate
    exact hreported.trans (h.sameRows hother)
  · rw [h.reports]
    apply Caller.Alters.append
    simp [World.report]
  · rw [h.map_unmarked]
    apply Caller.Alters.append
    intro e he
    obtain ⟨p, hp, rfl⟩ := List.mem_map.1 he
    exact ⟨(h.tellsOf p hp).tenant, (h.tellsOf p hp).actor⟩

namespace Http

/-- A deed changes nothing, or it is done on behalf of the caller. -/
theorem Deed.change {app : App} {env : Surroundings} {req : Request} {w w' : World}
    {asked : Method} {resource : Option Resource} {result : Option (Except Refusal Response)}
    (h : Deed app env req w asked resource result w') (howned : w.store.Owned) :
    w'.store = w.store ∨ ∃ caller,
      Caller.identify app.verifier (env.clock w.readings) req.headers = .ok caller ∧
        w.store.Change caller w'.store := by
  have hother : ∀ caller : Caller, (caller.tenant != caller.tenant) = false :=
    fun _ => bne_self_eq_false _
  cases h with
  | nothing store _ => exact .inl store
  | @submitted caller r o _ w' caller_eq _ _ _ submitted =>
    cases submitted with
    | invalid => exact .inl rfl
    | rejected store => exact .inl store
    | accepted _ recorded =>
      have hchange := Tracker.change_of_recorded recorded
      exact .inr ⟨caller, caller_eq, hchange⟩
    | interrupted _ _ _ recorded _ =>
      have hchange := Tracker.change_of_recorded recorded
      exact .inr ⟨caller, caller_eq, hchange⟩
  | @created caller r shape g caller_eq admin _ _ _ made unused =>
    have hothers : Store.SameRows (· != caller.tenant) w.store (w.store.after (.create g)) :=
      Store.sameRows_after (congrArg some (by rw [made]; rfl)) (hother caller) fun _ => howned
    rw [Store.after_create, unused] at hothers
    exact .inr ⟨caller, caller_eq, .of_admin admin hothers (List.Sublist.refl _)
      (List.Sublist.refl _)⟩
  | @updated caller segment id r old g caller_eq admin _ _ _ found applied stored =>
    -- A tenant finds its own geofences only, and a change does not give them away.
    have htenant : g.tenant = caller.tenant :=
      (UpdateGeofence.tenant_apply applied).trans (Store.find_eq_some_iff.1 found).2
    have hothers : Store.SameRows (· != caller.tenant) w.store (w.store.after (.update g)) :=
      Store.sameRows_after (congrArg some htenant) (hother caller) fun _ => howned
    rw [Store.after_update, if_pos stored] at hothers
    exact .inr ⟨caller, caller_eq, .of_admin admin hothers (List.Sublist.refl _)
      (List.Sublist.refl _)⟩
  | @deleted caller segment id caller_eq admin _ found =>
    have hothers : Store.SameRows (· != caller.tenant) w.store
        (w.store.after (.delete caller.tenant id)) :=
      Store.sameRows_after rfl (hother caller) fun _ => howned
    rw [Store.after_delete, if_pos found] at hothers
    exact .inr ⟨caller, caller_eq, .of_admin admin hothers (List.Sublist.refl _)
      List.filter_sublist⟩
  | @purged caller cutoff caller_eq admin _ =>
    have hothers : Store.SameRows (· != caller.tenant) w.store
        (w.store.after (.deleteBefore (some caller.tenant) cutoff)) :=
      Store.sameRows_after rfl (hother caller) fun _ => howned
    exact .inr ⟨caller, caller_eq, .of_admin admin hothers List.filter_sublist
      (List.Sublist.refl _)⟩

/-! ## Requests -/

/-- Whether a resource is there for tenants, and not for those who look after the service. -/
def Resource.isTenants (resource : Resource) : Bool :=
  "/api/v1/".toList.isPrefixOf resource.pattern.toList

/-- A refusal never looks like a success. -/
theorem Refusal.le_status_response (refusal : Refusal) : 400 ≤ refusal.response.status := by
  cases refusal with
  | api e =>
    change 400 ≤ e.status
    cases e <;> simp [ApiError.status]
  | path | query | mediaType | tooLong | malformed | mismatch => decide

/-- A caller is served or refused, one clock reading later. -/
theorem Handler.run_caller_bind {β : Type} (v : Verifier) (req : Request) (f : Caller → Handler β)
    (env : Surroundings) (w : World) :
    (Handler.caller v req >>= f).run.run env w =
      match Caller.identify v (env.clock w.readings) req.headers with
      | .ok caller => (f caller).run.run env { w with readings := w.readings + 1 }
      | .error e => (some (.error (.api e)), { w with readings := w.readings + 1 }) := by
  have hcaller : (Handler.caller v req).run.run env w =
      (some ((Caller.identify v (env.clock w.readings) req.headers).mapError .api),
        { w with readings := w.readings + 1 }) := rfl
  rw [Prog.run_run_bind, hcaller]
  cases Caller.identify v (env.clock w.readings) req.headers <;> rfl

/-- A store call that is carried out is answered, and the handler goes on in the world after it. -/
theorem Handler.run_store_bind {β : Type} {env : Surroundings} {w : World} {call : StoreCall}
    {f : call.Value → Handler β} {value : call.Value} {s : Store}
    (hgranted : env.refuses w.calls call.method = false)
    (hs : w.store.perform call = .ok (value, s)) :
    (serve (Service.store call) >>= f).run.run env w =
      (f value).run.run env { w with calls := call.method :: w.calls, store := s } := by
  have hserved : (serve (Service.store call)).run.run env w =
      (some ((w.callStore env call).1.mapError fun e => .api (.ofDomain e)),
        (w.callStore env call).2) := rfl
  rw [Prog.run_run_bind, hserved, World.callStore_of_ok hgranted hs]
  rfl

/-- Where all refusals are alike, only store calls that are carried out have to be looked at. -/
theorem Handler.ensures_store_bind {β : Type} {env : Surroundings} {w : World} {call : StoreCall}
    {f : call.Value → Handler β} {Q : Option (Except Refusal β) → World → Prop}
    (hrefused : ∀ refusal w', Q (some (.error refusal)) w')
    (hok : ∀ value s, w.store.perform call = .ok (value, s) →
      (f value).run.Ensures env { w with calls := call.method :: w.calls, store := s } Q) :
    (serve (Service.store call) >>= f).run.Ensures env w Q := by
  rw [Prog.ensures_run_bind, Handler.ensures_serve, Prog.ensures_run_store]
  obtain ⟨-, h⟩ | ⟨-, e, -, h⟩ | ⟨-, value, s, hs, h⟩ := World.callStore_cases env w call
  · rw [h]
    exact hrefused _ _
  · rw [h]
    exact hrefused _ _
  · rw [h]
    exact hok value s hs

namespace App

variable {app : App} {env : Surroundings} {req : Request} {w : World} {resource : Resource}
  {h : Handler Response}

/-- The response as it is sent. -/
def delivered (app : App) (env : Surroundings) (req : Request) (w : World)
    (result : Except Refusal Response) : Response :=
  app.origins.tell req.headers
    ((sent req (settled result)).withHeader "x-request-id" (named env req w).1)

/-- Sending a response does not change its status. -/
@[simp]
theorem status_delivered (result : Except Refusal Response) :
    (app.delivered env req w result).status = (settled result).status := by
  rw [delivered, status_tell]
  exact status_sent req (settled result)

/-- Unless only the headers are asked for, the body is sent as it is. -/
theorem body_delivered (hmethod : req.method ≠ .head) (result : Except Refusal Response) :
    (app.delivered env req w result).body = (settled result).body := by
  have htell : ∀ r : Response, (app.origins.tell req.headers r).body = r.body := by
    intro r
    rw [Origins.tell, Response.withHeader?]
    cases app.origins.allowed req.headers <;> rfl
  have hsent : (sent req (settled result)).body = (settled result).body := by
    rw [sent, if_neg hmethod, Response.negotiated]
    split <;> rfl
  rw [delivered, htell]
  exact hsent

/-- The world after a request was counted. One whose handler broke down is not. -/
def counted (req : Request) (resource : Resource) :
    Option (Except Refusal Response) → World → World
  | none, w => w
  | some result, w =>
    { w with counters := World.bump (.requests req.method.label resource.pattern
        (sent req (settled result)).status) 1 w.counters }

@[simp]
theorem store_counted {result : Option (Except Refusal Response)} :
    (counted req resource result w).store = w.store := by
  cases result <;> rfl

@[simp]
theorem readings_named : (named env req w).2.readings = w.readings := by
  unfold named
  split <;> rfl

/-- A request that has a handler is answered with what its handler comes to. -/
theorem run_handle (hresource : Resource.ofSegments? req.target.segments = some resource)
    (hh : app.handler? req req.target.query (asked req) resource = some h) :
    (app.handle req).run env w =
      ((h.run.run env (named env req w).2).1.map (app.delivered env req w),
        counted req resource (h.run.run env (named env req w).2).1
          (h.run.run env (named env req w).2).2) := by
  have hid : (requestId req.headers).run env w =
      (some (named env req w).1, (named env req w).2) := by
    rw [requestId, named]
    cases givenRequestId? req.headers <;> rfl
  rw [handle_eq_around hresource hh, around, Prog.run_bind, hid]
  simp only [settle, Prog.run_bind]
  generalize h.run.run env (named env req w).2 = out
  obtain ⟨result, w'⟩ := out
  -- A breakdown is not answered at all; a refusal and a response are sent alike.
  rcases result with _ | _ | _ <;> rfl

/-- A refusal of the handler is the answer to the request. -/
theorem status_of_refused (hresource : Resource.ofSegments? req.target.segments = some resource)
    (hh : app.handler? req req.target.query (asked req) resource = some h) {refusal : Refusal}
    (hrefused : (h.run.run env (named env req w).2).1 = some (.error refusal)) :
    ((app.handle req).run env w).1.map Response.status = some refusal.response.status := by
  rw [run_handle hresource hh, hrefused, Option.map_some, Option.map_some, status_delivered]
  rfl

/-- A response that looks like a success is one. -/
theorem exists_ok_of_status (hresource : Resource.ofSegments? req.target.segments = some resource)
    (hh : app.handler? req req.target.query (asked req) resource = some h) {r : Response}
    (hr : ((app.handle req).run env w).1 = some r) (hstatus : r.status < 400) :
    ∃ r', (h.run.run env (named env req w).2).1 = some (.ok r') ∧
      r = app.delivered env req w (.ok r') := by
  rw [run_handle hresource hh] at hr
  obtain ⟨result, hresult, rfl⟩ := Option.map_eq_some_iff.1 hr
  cases result with
  | ok r' => exact ⟨r', hresult, rfl⟩
  | error refusal =>
    rw [status_delivered] at hstatus
    exact absurd refusal.le_status_response (Nat.not_le.2 hstatus)

/-- A resource has a handler for each of the methods that it announces. Requests for the headers
alone have none of their own. -/
theorem isSome_handler? (app : App) (req : Request) (query : List Char) (m : Method)
    (resource : Resource) : (app.handler? req query m resource).isSome =
      decide (m ∈ resource.methods ∧ m ≠ .head) := by
  cases resource <;> cases m <;> rfl

/-- Every method that a resource offers has a handler. -/
theorem exists_handler (app : App) (hmethod : req.method ∈ resource.methods) :
    ∃ h, app.handler? req req.target.query (asked req) resource = some h := by
  rw [← Option.isSome_iff_exists, isSome_handler?, decide_eq_true_eq, asked]
  split
  · rename_i hhead
    rw [hhead] at hmethod
    cases resource <;> simp [Resource.methods] at hmethod ⊢
  · exact ⟨hmethod, by assumption⟩

/-- Whatever is there for tenants first of all asks who is calling. -/
theorem handler?_eq_caller_bind {query : List Char} {asked : Method}
    (htenants : resource.isTenants = true)
    (hh : app.handler? req query asked resource = some h) :
    ∃ f, h = Handler.caller app.verifier req >>= f := by
  rw [handler?.eq_def] at hh
  split at hh
  case h_10 | h_11 | h_12 | h_13 => exact absurd htenants (by decide)
  case h_14 => cases hh
  all_goals exact ⟨_, (Option.some.inj hh).symm⟩

/-- Without a token that is accepted and names a caller, the resources of tenants are closed. -/
theorem handle_of_not_proven (hresource : Resource.ofSegments? req.target.segments = some resource)
    (htenants : resource.isTenants = true) (hmethod : req.method ∈ resource.methods)
    (hnobody : ¬∃ caller, Caller.Proven app.verifier (env.clock w.readings) req.headers caller) :
    ((app.handle req).run env w).1.map Response.status = some 401 ∧
      ((app.handle req).run env w).2.store = w.store := by
  obtain ⟨h, hh⟩ := exists_handler app hmethod
  -- Every handler for tenants begins with the caller.
  obtain ⟨f, rfl⟩ := handler?_eq_caller_bind htenants hh
  cases hidentify : Caller.identify app.verifier (env.clock w.readings) req.headers with
  | ok caller => exact absurd ⟨caller, Caller.identify_eq_ok_iff.1 hidentify⟩ hnobody
  | error e =>
    have hrefused := Handler.run_caller_bind app.verifier req f env (named env req w).2
    rw [readings_named, hidentify] at hrefused
    constructor
    · rw [status_of_refused hresource hh (congrArg Prod.fst hrefused)]
      exact congrArg some (Caller.status_of_identify hidentify)
    · rw [run_handle hresource hh, hrefused, store_counted]
      exact (named_same env req w).1

/-- A request leaves the world as it is, or it leaves what one deed left. -/
theorem handle_cases (app : App) (env : Surroundings) (req : Request) (w : World) :
    ((app.handle req).run env w).2 = w ∨
      ∃ result w', Deed app env req (named env req w).2 (asked req)
          (Resource.ofSegments? req.target.segments) result w' ∧
        ((app.handle req).run env w).2.store = w'.store ∧
        ((app.handle req).run env w).2.entries = w'.entries ∧
        ((app.handle req).run env w).2.drawn = w'.drawn := by
  have hhandled := handle_deed app env req w
  unfold Prog.Ensures at hhandled
  generalize (app.handle req).run env w = out at hhandled ⊢
  obtain ⟨answer, w'⟩ := out
  cases hhandled with
  | options => exact .inl rfl
  | answered deed => exact .inr ⟨_, _, deed, rfl, rfl, rfl⟩
  | broken deed => exact .inr ⟨_, _, deed, rfl, rfl, rfl⟩

/-- Whatever is asked for, the store changes only on behalf of the caller that the token proves. -/
theorem change_of_proven {caller : Caller} (howned : w.store.Owned)
    (hproven : Caller.Proven app.verifier (env.clock w.readings) req.headers caller) :
    w.store.Change caller ((app.handle req).run env w).2.store := by
  have hstore : (named env req w).2.store = w.store := (named_same env req w).1
  obtain hsame | ⟨result, w', deed, hw', -⟩ := handle_cases app env req w
  · rw [hsame]
    exact .refl caller _
  · rw [hw', ← hstore]
    obtain hsame | ⟨caller', hcaller', hchange⟩ := deed.change (hstore ▸ howned)
    · rw [hsame]
      exact .refl caller _
    · -- The deed was done for whoever is identified, and that is the one caller.
      rw [readings_named, Caller.identify_eq_ok_iff.2 hproven] at hcaller'
      cases hcaller'
      exact hchange

/-- Authorization. Whatever is asked of the resources of tenants, without a bearer token that is
accepted and names a caller the answer is 401 and the store stays as it is; and with one the store
changes only as the role of that caller permits. -/
theorem authorization (hreachable : app.Reachable env w)
    (hresource : Resource.ofSegments? req.target.segments = some resource)
    (htenants : resource.isTenants = true) (hmethod : req.method ∈ resource.methods) :
    let out := (app.handle req).run env w
    let now := env.clock w.readings
    ((¬∃ caller, Caller.Proven app.verifier now req.headers caller) →
      out.1.map Response.status = some 401 ∧ out.2.store = w.store) ∧
    ∀ caller, Caller.Proven app.verifier now req.headers caller →
      w.store.Change caller out.2.store := by
  intro out now
  refine ⟨fun hnobody => ?_, fun caller hproven => ?_⟩
  · exact handle_of_not_proven hresource htenants hmethod hnobody
  · exact change_of_proven hreachable.indexed_owned.2 hproven

end App

end Http

/-! ### The museum and a stranger -/

/-- The museum proves who it is when it opens: otherwise nothing would be stored. -/
theorem Campus.exists_proven : ∃ caller,
    Caller.Proven app.verifier (neighbourhood.clock 0) opening.headers caller := by
  by_contra hnobody
  obtain ⟨g, w, hw, hstore, -⟩ := store_opening
  have hsame := (Http.App.handle_of_not_proven (w := .start .empty) rfl
    (by decide) (by decide) hnobody).2
  rw [← hw, hstore] at hsame
  cases hsame

/-- A stranger is turned away, and the museum adds a geofence of its own as its administrator. -/
theorem Http.App.authorization_campus :
    ((Campus.app.handle Campus.stranger).run Campus.surroundings (.start .empty)).1.map
      Response.status = some 401 ∧
    ∃ caller w,
      w = ((Campus.app.handle Campus.opening).run Campus.neighbourhood (.start .empty)).2 ∧
      caller.tenant = Campus.museum ∧ caller.role = .admin ∧ Store.empty.Change caller w.store := by
  constructor
  · refine ((@authorization _ _ Campus.stranger _ .locations .start rfl (by decide)
      (by decide)).1 ?_).1
    rintro ⟨caller, rest, claims, hvalue, -⟩
    cases hvalue
  · obtain ⟨g, w, hw, hstore, htenant, -⟩ := Campus.store_opening
    obtain ⟨caller, hproven⟩ := Campus.exists_proven
    have hchange : Store.empty.Change caller w.store := by
      rw [hw]
      exact (@authorization _ _ Campus.opening _ .geofences .start rfl (by decide)
        (by decide)).2 caller hproven
    refine ⟨caller, w, hw, ?_, hchange.geofences ?_, hchange⟩
    · -- The geofence was not there before, so it is not one of another tenant.
      by_contra hother
      have hsame := hchange.others.geofences (.ofNat 101)
      have hshown : (g.tenant != caller.tenant) = true :=
        bne_iff_ne.2 fun h => hother (h.symm.trans htenant)
      rw [hstore] at hsame
      simp [Store.geofence?, Store.empty, Option.filter_some, hshown] at hsame
    · rw [hstore]
      exact List.cons_ne_nil _ _

end Geofencing
