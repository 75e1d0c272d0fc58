import Geofencing.Proofs.History
import Geofencing.Proofs.Query
import Geofencing.Proofs.Shown

/-!
# Administering geofences

What a tenant is shown of its geofences follows from the responses that it got before. A geofence
that was created or changed is shown as it was in the last of these responses, until it is deleted
(`Http.known`). Whatever else happened, and whatever other tenants tried with the same identifiers,
does not matter: `Http.App.administration`.

* `Http.Api.Edited` lists the successful edits, each with its response and with what it does.
* `Http.App.find_handle` follows a geofence through one request, and `Http.App.History.find_eq`
  through all of them.
-/

namespace Geofencing

namespace Http

/-! ## What responses tell -/

/-- The JSON value in a response. -/
def Response.json? (r : Response) : Option Json :=
  match r.body with
  | .json value => some value
  | _ => none

/-- The identifier that a response shows. -/
def Response.shownId? (r : Response) : Option String :=
  (r.json?.bind (Json.get? "id")).bind Json.str?

/-- A response that lists the geofences whose bodies satisfy a property, each once, with their
count. -/
def Response.Lists (r : Response) (property : Json → Prop) : Prop :=
  r.status = 200 ∧ ∃ bodies,
    r.body = .json (.object [("geofences", .arr bodies), ("total", .nat bodies.length)]) ∧
    (bodies.map (Json.get? "id")).Nodup ∧ ∀ body, body ∈ bodies ↔ property body

/-- A listing is the same for properties that agree. -/
theorem Response.Lists.congr {r : Response} {property property' : Json → Prop}
    (h : r.Lists property) (hsame : ∀ body, property body ↔ property' body) :
    r.Lists property' := by
  obtain ⟨hstatus, bodies, hbody, hnodup, hmem⟩ := h
  exact ⟨hstatus, bodies, hbody, hnodup, fun body => (hmem body).trans (hsame body)⟩

/-- What the response to a method on a resource tells about a geofence: nothing, that there is none
any more, or how it is shown from now on. -/
def Response.news (r : Response) (id : Uuid) : Method → Resource → Option (Option Json)
  | .post, .geofences =>
    if r.status = 201 ∧ r.shownId? = some id.toText then some r.json? else none
  | .patch, .geofence segment =>
    if r.status = 200 ∧ segmentId? segment = some id then some r.json? else none
  | .delete, .geofence segment =>
    if r.status = 204 ∧ segmentId? segment = some id then some none else none
  | _, _ => none

/-- What a request and its response tell about a geofence of a tenant. -/
def Exchange.news (x : Exchange) (tenant id : Uuid) : Option (Option Json) :=
  match Caller.named? x.request.headers, Resource.ofSegments? x.request.target.segments,
    x.response with
  | some caller, some resource, some r =>
    if caller.tenant = tenant then r.news id x.request.method resource else none
  | _, _, _ => none

/-- How a geofence of a tenant is shown after some requests, as far as they tell: the last news
count. -/
def known (past : List Exchange) (tenant id : Uuid) : Option Json :=
  (past.reverse.findSome? fun x => x.news tenant id).join

/-- The news of the last request come first, and otherwise the older ones count. -/
theorem known_concat (past : List Exchange) (x : Exchange) (tenant id : Uuid) :
    known (past ++ [x]) tenant id = (x.news tenant id).getD (known past tenant id) := by
  unfold known
  rw [List.reverse_append, List.reverse_singleton, List.singleton_append, List.findSome?_cons]
  cases x.news tenant id <;> rfl

end Http

/-! ## One geofence in the store -/

namespace Store

variable {s : Store} {g : Geofence} {tenant owner id removed : Uuid}

/-- A geofence that was added is found by its tenant, and all others as before. -/
theorem find_insert (hnew : s.geofence? g.id = none) : (s.insert g).find tenant id =
    if g.tenant = tenant ∧ g.id = id then some g else s.find tenant id := by
  unfold find
  rw [geofence?_insert hnew]
  by_cases hid : id = g.id
  · subst hid
    by_cases htenant : g.tenant = tenant <;> simp [htenant, hnew, Option.filter_some]
  · simp [hid, Ne.symm hid]

/-- Whoever else asks for a geofence of somebody does not find it. -/
theorem find_eq_none_of_ne (hfound : (s.find owner id).isSome = true) (hne : owner ≠ tenant) :
    s.find tenant id = none := by
  obtain ⟨old, hold⟩ := Option.isSome_iff_exists.1 hfound
  obtain ⟨hstored, howner⟩ := find_eq_some_iff.1 hold
  unfold find
  rw [hstored, Option.filter_some, howner]
  simp [hne]

/-- A geofence that was replaced is found as it is now, and all others as before. -/
theorem find_replace (hfound : (s.find g.tenant g.id).isSome = true) :
    (s.replace g).find tenant id =
      if g.tenant = tenant ∧ g.id = id then some g else s.find tenant id := by
  by_cases hid : id = g.id
  · subst hid
    obtain ⟨old, hold⟩ := Option.isSome_iff_exists.1 hfound
    have hreplaced : (s.replace g).geofence? g.id = some g := by
      rw [geofence?_replace, if_pos rfl, (find_eq_some_iff.1 hold).1, Option.map_some]
    by_cases htenant : g.tenant = tenant
    · rw [if_pos ⟨htenant, rfl⟩]
      exact find_eq_some_iff.2 ⟨hreplaced, htenant⟩
    · rw [if_neg fun h => htenant h.1, find_eq_none_of_ne hfound htenant, find, hreplaced]
      simp [Option.filter_some, htenant]
  · rw [if_neg fun h => hid h.2.symm]
    unfold find
    rw [geofence?_replace, if_neg hid]

/-- A geofence that was removed is not found, and all others as before. -/
theorem find_remove (hfound : (s.find owner removed).isSome = true) :
    (s.remove removed).find tenant id =
      if owner = tenant ∧ removed = id then none else s.find tenant id := by
  have hfind : (s.remove removed).find tenant id =
      if id = removed then none else s.find tenant id := by
    unfold find
    rw [geofence?_remove]
    split <;> rfl
  rw [hfind]
  by_cases hid : id = removed
  · subst hid
    by_cases htenant : owner = tenant
    · simp [htenant]
    · simp [htenant, find_eq_none_of_ne hfound htenant]
  · simp [hid, Ne.symm hid]

/-- No geofence is shown twice. -/
theorem nodup_shown (h : s.Indexed) {all : Bool} :
    (((s.list tenant all).map Geofence.response).map (Json.get? "id")).Nodup := by
  have hids : ((s.list tenant all).map Geofence.response).map (Json.get? "id") =
      ((s.list tenant all).map Geofence.id).map fun id => some id.toJson := by
    rw [List.map_map, List.map_map]
    exact List.map_congr_left fun g _ => g.get?_id_response
  rw [hids]
  refine (nodup_list h all).map fun id id' hsame => ?_
  exact Uuid.toJson_injective (Option.some_inj.1 hsame)

/-- All geofences that a tenant finds are shown to it, unless they are inactive. -/
theorem mem_shown_iff (h : s.Indexed) {all : Bool} {body : Json} :
    body ∈ (s.list tenant all).map Geofence.response ↔
      ∃ id, (s.find tenant id).map Geofence.response = some body ∧
        (all = true ∨ body.get? "active" = some (.bool true)) := by
  rw [List.mem_map]
  constructor
  · rintro ⟨g, hg, rfl⟩
    obtain ⟨hfound, hactive⟩ := (mem_list_iff h).1 hg
    rw [Geofence.get?_active_response]
    exact ⟨g.id, by rw [hfound]; rfl, hactive.imp_right fun h => by rw [h]⟩
  · rintro ⟨id, hbody, hactive⟩
    obtain ⟨g, hfound, rfl⟩ := Option.map_eq_some_iff.1 hbody
    -- A geofence is stored under its own identifier.
    have hid : g.id = id := h.id_eq (find_eq_some_iff.1 hfound).1
    rw [Geofence.get?_active_response] at hactive
    refine ⟨g, (mem_list_iff h).2 ⟨hid ▸ hfound, hactive.imp_right fun h => ?_⟩, rfl⟩
    exact Json.bool.inj (Option.some_inj.1 h)

/-- A geofence is created under an identifier that no other has. -/
theorem of_perform_create {value : Unit} {s' : Store}
    (h : s.perform (.create g) = .ok (value, s')) : s.geofence? g.id = none ∧ s' = s.insert g := by
  rw [perform] at h
  split at h
  · cases h
  · rename_i hunused
    cases h
    exact ⟨Option.not_isSome_iff_eq_none.1 hunused, rfl⟩

/-- A geofence is updated if its tenant finds it. -/
theorem of_perform_update {s' : Store} (h : s.perform (.update g) = .ok (true, s')) :
    (s.find g.tenant g.id).isSome = true ∧ s' = s.replace g := by
  rw [perform] at h
  split at h
  · rename_i hfound
    cases h
    exact ⟨hfound, rfl⟩
  · cases h

/-- A geofence is deleted if its tenant finds it. -/
theorem of_perform_delete {s' : Store} (h : s.perform (.delete tenant id) = .ok (true, s')) :
    (s.find tenant id).isSome = true ∧ s' = s.remove id := by
  rw [perform] at h
  split at h
  · rename_i hfound
    cases h
    exact ⟨hfound, rfl⟩
  · cases h

end Store

/-- A change keeps the identifier of a geofence. -/
theorem UpdateGeofence.id_apply {r : UpdateGeofence} {now : Instant} {old g : Geofence}
    (h : r.apply now old = .ok g) : g.id = old.id := by
  rw [apply] at h
  split at h
  · cases h
  · cases h
    rfl

/-- Identifiers with the same text are the same. -/
theorem Uuid.toText_inj {id id' : Uuid} : id.toText = id'.toText ↔ id = id' :=
  ⟨fun h => Uuid.toJson_injective (congrArg Json.str h), congrArg Uuid.toText⟩

namespace Http

/-- A response that shows a geofence shows its identifier. -/
theorem Response.shownId?_json (status : Nat) (g : Geofence) :
    (Response.json status g.response).shownId? = some g.id.toText := by
  rw [shownId?, json?, json, Option.bind_some, Geofence.get?_id_response]
  rfl

/-! ## Edits -/

namespace Api

/-- An edit of the geofences of a tenant that succeeds, with the response to it. -/
inductive Edited (tenant : Uuid) (s : Store) : Method → Resource → Response → Store → Prop
  /-- A geofence was added under an identifier that none had. -/
  | created {g : Geofence} (tenant_eq : g.tenant = tenant) (unused : s.geofence? g.id = none) :
      Edited tenant s .post .geofences (.json 201 g.response) (s.insert g)
  /-- A geofence that its tenant finds was replaced. -/
  | updated {segment : List Char} {g : Geofence} (id_eq : segmentId? segment = some g.id)
      (tenant_eq : g.tenant = tenant) (found : (s.find g.tenant g.id).isSome = true) :
      Edited tenant s .patch (.geofence segment) (.json 200 g.response) (s.replace g)
  /-- A geofence that its tenant finds was removed. -/
  | deleted {segment : List Char} {id : Uuid} (id_eq : segmentId? segment = some id)
      (found : (s.find tenant id).isSome = true) :
      Edited tenant s .delete (.geofence segment) (.bare 204) (s.remove id)

/-- Whether a method edits geofences. -/
def edits : Method → Resource → Bool
  | .post, .geofences | .patch, .geofence _ | .delete, .geofence _ => true
  | _, _ => false

/-- What a handler succeeds with is the response to an edit. -/
def Edits (v : Verifier) (env : Surroundings) (req : Request) (w : World) (asked : Method)
    (resource : Resource) (result : Option (Except Refusal Response)) (w' : World) : Prop :=
  ∀ r, result = some (.ok r) →
    ∃ caller, Caller.identify v (env.clock w.readings) req.headers = .ok caller ∧
      Edited caller.tenant w.store asked resource r w'.store

variable {v : Verifier} {env : Surroundings} {req : Request} {w : World} {segment : List Char}

/-- A refused request edits nothing. -/
theorem Edits.refused {asked : Method} {resource : Resource} {refusal : Refusal} {w' : World} :
    Edits v env req w asked resource (some (.error refusal)) w' := by
  intro r hr
  cases hr

/-- The handler of new geofences succeeds with an edit. -/
theorem createGeofence_edits :
    (createGeofence v req).run.Ensures env w (Edits v env req w .post .geofences) := by
  refine Handler.ensures_caller_bind (fun _ => .refused) fun caller hcaller => ?_
  refine Handler.ensures_body_bind (fun _ => .refused) fun r _ => ?_
  refine Handler.ensures_ofApi_bind (fun _ => .refused) fun _ _ => ?_
  refine Handler.ensures_check_bind (fun _ => .refused) fun _ => ?_
  refine Handler.ensures_ofDomain_bind (fun _ => .refused) fun shape _ => ?_
  rw [Prog.ensures_run_bind, Prog.ensures_run_lift, Prog.ensures_fresh]
  refine Prog.ensures_run_bind.2 (Prog.ensures_run_lift.2 (Prog.ensures_now.2 ?_))
  refine Handler.ensures_store_bind (fun _ _ => .refused) fun _ s hs => ?_
  obtain ⟨hunused, rfl⟩ := Store.of_perform_create hs
  rintro _ ⟨⟩
  exact ⟨caller, hcaller, .created rfl hunused⟩

theorem updateGeofence_edits (hindexed : w.store.Indexed) :
    (updateGeofence v segment req).run.Ensures env w
      (Edits v env req w .patch (.geofence segment)) := by
  refine Handler.ensures_caller_bind (fun _ => .refused) fun caller hcaller => ?_
  refine Handler.ensures_ofOption_bind (fun _ => .refused) fun id hid => ?_
  refine Handler.ensures_body_bind (fun _ => .refused) fun r _ => ?_
  refine Handler.ensures_ofApi_bind (fun _ => .refused) fun _ _ => ?_
  refine Handler.ensures_check_bind (fun _ => .refused) fun _ => ?_
  refine Handler.ensures_store_bind (fun _ _ => .refused) fun found s hs => ?_
  cases hs
  refine Handler.ensures_ofOption_bind (fun _ => .refused) fun old hold => ?_
  refine Prog.ensures_run_bind.2 (Prog.ensures_run_lift.2 (Prog.ensures_now.2 ?_))
  refine Handler.ensures_ofDomain_bind (fun _ => .refused) fun g hg => ?_
  refine Handler.ensures_store_bind (fun _ _ => .refused) fun updated s hs => ?_
  cases updated with
  | false => exact .refused
  | true =>
    obtain ⟨hfound, rfl⟩ := Store.of_perform_update hs
    rintro _ ⟨⟩
    -- The geofence stays under the identifier that was asked for, and with its tenant.
    have happlied := Handler.ok_of_mapError hg
    obtain ⟨hstored, howner⟩ := Store.find_eq_some_iff.1 hold
    have hsame : g.id = id :=
      (UpdateGeofence.id_apply happlied).trans (hindexed.id_eq hstored)
    have htenant : g.tenant = caller.tenant :=
      (UpdateGeofence.tenant_apply happlied).trans howner
    exact ⟨caller, hcaller, .updated (hsame ▸ hid) htenant hfound⟩

theorem deleteGeofence_edits :
    (deleteGeofence v segment req).run.Ensures env w
      (Edits v env req w .delete (.geofence segment)) := by
  refine Handler.ensures_caller_bind (fun _ => .refused) fun caller hcaller => ?_
  refine Handler.ensures_ofOption_bind (fun _ => .refused) fun id hid => ?_
  refine Handler.ensures_ofApi_bind (fun _ => .refused) fun _ _ => ?_
  refine Handler.ensures_store_bind (fun _ _ => .refused) fun deleted s hs => ?_
  cases deleted with
  | false => exact .refused
  | true =>
    obtain ⟨hfound, rfl⟩ := Store.of_perform_delete hs
    rintro _ ⟨⟩
    exact ⟨caller, hcaller, .deleted hid hfound⟩

/-- What an edit does to a geofence is what the response to it tells. -/
theorem Edited.find_eq {owner tenant id : Uuid} {s s' : Store} {asked : Method}
    {resource : Resource} {r : Response} (h : Edited owner s asked resource r s') :
    (s'.find tenant id).map Geofence.response =
      (if owner = tenant then r.news id asked resource else none).getD
        ((s.find tenant id).map Geofence.response) := by
  cases h with
  | @created g htenant hunused =>
    -- Only the tenant of the edit sees a difference, and only at this identifier.
    rw [Store.find_insert hunused, htenant, Response.news, Response.shownId?_json]
    by_cases howner : owner = tenant <;> by_cases hid : g.id = id <;>
      simp [howner, hid, Uuid.toText_inj, Response.json, Response.json?]
  | @updated segment g hid htenant hfound =>
    rw [Store.find_replace hfound, htenant, Response.news, hid]
    by_cases howner : owner = tenant <;> by_cases hid : g.id = id <;>
      simp [howner, hid, Response.json, Response.json?]
  | @deleted segment removed hid hfound =>
    rw [Store.find_remove hfound, Response.news, hid]
    by_cases howner : owner = tenant <;> by_cases hid : removed = id <;>
      simp [howner, hid, Response.bare]

end Api

/-- An edit that fails tells nothing, and neither does any other request. -/
theorem Response.news_eq_none {r : Response} {asked : Method} {resource : Resource}
    (h : Api.edits asked resource = true → 400 ≤ r.status) (id : Uuid) :
    r.news id asked resource = none := by
  unfold news
  split
  case h_4 => rfl
  all_goals
    refine if_neg fun hok => ?_
    exact absurd (h rfl) (by omega)

/-- A request that is refused or edits nothing is no news. -/
theorem Exchange.news_eq_none {x : Exchange}
    (h : ∀ resource r, Resource.ofSegments? x.request.target.segments = some resource →
      x.response = some r → Api.edits x.request.method resource = true → 400 ≤ r.status)
    (tenant id : Uuid) : x.news tenant id = none := by
  unfold news
  split
  · rename_i caller resource r _ hresource hr
    rw [Response.news_eq_none (h resource r hresource hr), ite_self]
  · rfl

/-- Geofences change only where an edit succeeds. -/
theorem Deed.geofences_eq {app : App} {env : Surroundings} {req : Request} {w w' : World}
    {asked : Method} {resource : Option Resource} {result : Option (Except Refusal Response)}
    (h : Deed app env req w asked resource result w') :
    w'.store.geofences = w.store.geofences ∨
      resource.any (Api.edits asked) = true ∧ ∃ r, result = some (.ok r) := by
  cases h with
  | nothing store => exact .inl (congrArg Store.geofences store)
  | submitted _ _ _ _ submitted => exact .inl submitted.geofences
  | created | updated | deleted => exact .inr ⟨rfl, _, rfl⟩
  | purged => exact .inl rfl

namespace App

variable {app : App} {env : Surroundings} {req : Request} {w : World} {resource : Resource}
  {past : List Exchange}

/-- Each request for an edit has a handler, which succeeds with that edit. -/
theorem exists_edits (app : App) (env : Surroundings) (req : Request) (query : List Char)
    {asked : Method} (hindexed : w.store.Indexed) (hedits : Api.edits asked resource = true) :
    ∃ h, app.handler? req query asked resource = some h ∧
      h.run.Ensures env w (Api.Edits app.verifier env req w asked resource) := by
  unfold Api.edits at hedits
  split at hedits
  · exact ⟨_, rfl, Api.createGeofence_edits⟩
  · exact ⟨_, rfl, Api.updateGeofence_edits hindexed⟩
  · exact ⟨_, rfl, Api.deleteGeofence_edits⟩
  · cases hedits

/-- No edit is asked for with the headers alone. -/
theorem ne_head_of_edits (hedits : Api.edits req.method resource = true) :
    req.method ≠ .head := by
  intro hhead
  rw [hhead] at hedits
  cases resource <;> cases hedits

/-- A request is an edit by its own method. -/
theorem edits_asked : Api.edits (asked req) resource = Api.edits req.method resource := by
  unfold asked
  split
  · rename_i hhead
    rw [hhead]
    cases resource <;> rfl
  · rfl

/-- Where nothing is edited, nothing happens to geofences. -/
theorem geofences_handle
    (hedits : (Resource.ofSegments? req.target.segments).any (Api.edits req.method) = false) :
    ((app.handle req).run env w).2.store.geofences = w.store.geofences := by
  have hasked : (Resource.ofSegments? req.target.segments).any (Api.edits (asked req)) = false := by
    rw [← hedits]
    exact congrArg (Option.any · _) (funext fun resource => edits_asked)
  obtain hsame | ⟨result, w', deed, hstore, -⟩ := handle_cases app env req w
  · rw [hsame]
  · obtain hkept | hedited := deed.geofences_eq
    · rw [hstore, hkept, (named_same env req w).1]
    · rw [hasked] at hedited
      cases hedited.1

/-- An edit fails and leaves the geofences as they are, or it succeeds. -/
theorem handle_edits (app : App) (env : Surroundings) (hindexed : w.store.Indexed)
    (hresource : Resource.ofSegments? req.target.segments = some resource)
    (hedits : Api.edits req.method resource = true) :
    let out := (app.handle req).run env w
    (out.2.store.geofences = w.store.geofences ∧ ∀ r, out.1 = some r → 400 ≤ r.status) ∨
      ∃ caller r, Caller.named? req.headers = some caller ∧
        out.1 = some (app.delivered env req w (.ok r)) ∧
        Api.Edited caller.tenant w.store req.method resource r out.2.store := by
  obtain ⟨hstore, -⟩ := named_same env req w
  have hindexed₀ : (named env req w).2.store.Indexed := hstore ▸ hindexed
  obtain ⟨h, hh, hedit⟩ := exists_edits app env req req.target.query hindexed₀ hedits
  have hasked : asked req = req.method := if_neg (ne_head_of_edits hedits)
  rw [← hasked] at hh hedit ⊢
  have hdeed : h.run.Ensures env (named env req w).2 _ := handler?_deed hh
  unfold Prog.Ensures at hdeed hedit
  rw [run_handle hresource hh]
  simp only [store_counted]
  -- The deed says that a failure changes no geofence, and the edit what a success is.
  generalize h.run.run env (named env req w).2 = ran at hdeed hedit ⊢
  obtain ⟨result, w'⟩ := ran
  have hfailed : (∀ r, result ≠ some (.ok r)) → w'.store.geofences = w.store.geofences := by
    intro hnone
    rw [← hstore]
    exact hdeed.geofences_eq.resolve_right fun ⟨_, r, hr⟩ => hnone r hr
  rcases result with _ | refusal | r
  · exact .inl ⟨hfailed nofun, nofun⟩
  · refine .inl ⟨hfailed nofun, ?_⟩
    rintro _ ⟨⟩
    rw [status_delivered]
    exact refusal.le_status_response
  · obtain ⟨caller, hcaller, hedited⟩ := hedit r rfl
    exact .inr ⟨caller, r, Caller.named?_of_identify hcaller, rfl, hstore ▸ hedited⟩

/-- A response is sent with its body, unless the headers alone were asked for. -/
theorem json?_delivered {r : Response} (hmethod : req.method ≠ .head) :
    (app.delivered env req w (.ok r)).json? = r.json? := by
  rw [Response.json?, body_delivered hmethod]
  rfl

/-- A response tells the same before and after it is delivered. -/
theorem news_delivered {r : Response} (hmethod : req.method ≠ .head) (id : Uuid) (asked : Method) :
    (app.delivered env req w (.ok r)).news id asked resource = r.news id asked resource := by
  have hstatus : (app.delivered env req w (.ok r)).status = r.status := status_delivered _
  unfold Response.news Response.shownId?
  rw [hstatus, json?_delivered hmethod]

/-- What a request does to a geofence is what its response tells. -/
theorem find_handle (hindexed : w.store.Indexed) (tenant id : Uuid) :
    (((app.handle req).run env w).2.store.find tenant id).map Geofence.response =
      ((app.exchange env req w).news tenant id).getD
        ((w.store.find tenant id).map Geofence.response) := by
  have hkept : ((app.handle req).run env w).2.store.geofences = w.store.geofences →
      (app.exchange env req w).news tenant id = none →
      (((app.handle req).run env w).2.store.find tenant id).map Geofence.response =
        ((app.exchange env req w).news tenant id).getD
          ((w.store.find tenant id).map Geofence.response) := by
    intro hgeofences hnews
    rw [hnews, Option.getD_none, Store.find_of_geofences hgeofences]
  -- Requests either edit geofences or leave all of them as they are.
  cases hedits : (Resource.ofSegments? req.target.segments).any (Api.edits req.method) with
  | false =>
    refine hkept (geofences_handle hedits) (Exchange.news_eq_none ?_ tenant id)
    intro resource r hresource _ h
    exact absurd ((Option.any_eq_true _ _).2 ⟨resource, hresource, h⟩) (Bool.eq_false_iff.1 hedits)
  | true =>
    obtain ⟨resource, hresource, hedits⟩ := (Option.any_eq_true _ _).1 hedits
    obtain ⟨hgeofences, hstatus⟩ | ⟨caller, r, hcaller, hr, hedited⟩ :=
      handle_edits app env hindexed hresource hedits
    · refine hkept hgeofences (Exchange.news_eq_none ?_ tenant id)
      exact fun _ r _ hr _ => hstatus r hr
    · -- Only the caller's own edits count, and the response is read as it was delivered.
      rw [hedited.find_eq, Exchange.news, exchange]
      dsimp only
      rw [hcaller, hresource, hr]
      dsimp only
      rw [news_delivered (ne_head_of_edits hedits)]

/-- What is stored of a tenant's geofence is what the responses so far tell. -/
theorem History.find_eq (h : app.History env past w) (tenant id : Uuid) :
    (w.store.find tenant id).map Geofence.response = known past tenant id := by
  -- Each request changes what is found as its response tells, and cleanups touch reports only.
  induction h with
  | start => rfl
  | @request past w hw req ih =>
    rw [find_handle hw.reachable.indexed_owned.1, known_concat, ih]
  | @cleanup past w hw ih =>
    rw [← ih]
    obtain hsame | ⟨cutoff, hstore⟩ := store_cleanup env w app.retention
    · rw [hsame]
    · rw [hstore]
      rfl

end App

/-! ## What tenants are shown -/

variable {app : App} {env : Surroundings} {req : Request} {w : World} {caller : Caller}
  {past : List Exchange}

namespace Api

variable {v : Verifier}

/-- A tenant is shown its geofence as it is in the store. -/
theorem run_getGeofence
    (hcaller : Caller.identify v (env.clock w.readings) req.headers = .ok caller)
    {segment : List Char} {id : Uuid} (hid : segmentId? segment = some id)
    (hgranted : env.refuses w.calls .find = false) :
    ((getGeofence v segment req).run.run env w).1 =
      some (match (w.store.find caller.tenant id).map Geofence.response with
        | some body => .ok (.json 200 body)
        | none => .error (noGeofence id)) := by
  rw [getGeofence, Handler.run_caller_bind, hcaller]
  dsimp only
  rw [hid, Handler.ofOption, pure_bind, Handler.run_store_bind hgranted rfl]
  cases w.store.find caller.tenant id <;> rfl

/-- A tenant is shown its listing as it is in the store, with the number of its items. -/
theorem run_listGeofences
    (hcaller : Caller.identify v (env.clock w.readings) req.headers = .ok caller)
    {query : List Char} {all : Bool} (hall : listingQuery? query = some all)
    (hgranted : env.refuses w.calls .list = false) :
    ((listGeofences v query req).run.run env w).1 =
      some (.ok (.json 200 (.object
        [("geofences", .arr ((w.store.list caller.tenant all).map Geofence.response)),
          ("total", .nat (w.store.list caller.tenant all).length)]))) := by
  rw [listGeofences, Handler.run_caller_bind, hcaller]
  dsimp only
  rw [hall, Handler.ofOption, pure_bind, Handler.run_store_bind hgranted rfl]
  rfl

end Api

namespace App

variable {resource : Resource}

/-- A request to read gets the response of its handler. -/
theorem exists_of_get (hget : req.method = .get)
    (hresource : Resource.ofSegments? req.target.segments = some resource) {h : Handler Response}
    (hh : app.handler? req req.target.query .get resource = some h)
    {result : Except Refusal Response}
    (hresult : (h.run.run env (named env req w).2).1 = some result) :
    ∃ r, ((app.handle req).run env w).1 = some r ∧ r.status = (settled result).status ∧
      r.body = (settled result).body := by
  have hasked : asked req = .get := asked_of_reads (.inl hget)
  rw [run_handle hresource (hasked ▸ hh), hresult]
  exact ⟨_, rfl, status_delivered _, body_delivered (by rw [hget]; decide) _⟩

/-- Administration. Whatever was asked for since the service started, a tenant who looks at a
geofence is shown the body of the last response to its own successful edits of it, and 404 if there
was none or the last of them deleted it. A listing shows the same geofences, each once: all of them
with `includeInactive=true`, and the active ones with `includeInactive=false` or without a query.
The same holds of any other query that can be read. -/
theorem administration (h : app.History env past w)
    (hproven : Caller.Proven app.verifier (env.clock w.readings) req.headers caller)
    (hget : req.method = .get) :
    let out := (app.handle req).run env w
    (∀ segment id, Resource.ofSegments? req.target.segments = some (.geofence segment) →
      segmentId? segment = some id → env.refuses w.calls .find = false →
      ∃ r, out.1 = some r ∧
        match known past caller.tenant id with
        | some body => r.status = 200 ∧ r.body = .json body
        | none => r.status = 404) ∧
    (Resource.ofSegments? req.target.segments = some .geofences →
      env.refuses w.calls .list = false →
      (req.target.query = "includeInactive=true".toList →
        ∃ r, out.1 = some r ∧ r.Lists fun body => ∃ id, known past caller.tenant id = some body) ∧
      (req.target.query = "includeInactive=false".toList ∨ req.target.query = [] →
        ∃ r, out.1 = some r ∧ r.Lists fun body => ∃ id, known past caller.tenant id = some body ∧
          body.get? "active" = some (.bool true)) ∧
      ∀ all, listingQuery? req.target.query = some all →
        ∃ r, out.1 = some r ∧ r.Lists fun body => ∃ id, known past caller.tenant id = some body ∧
          (all = true ∨ body.get? "active" = some (.bool true))) := by
  intro out
  -- A request is named before its handler starts, which changes neither clock nor calls nor
  -- store.
  have hidentify : Caller.identify app.verifier (env.clock (named env req w).2.readings)
      req.headers = .ok caller := by
    rw [readings_named]
    exact Caller.identify_eq_ok_iff.2 hproven
  have hcalls : (named env req w).2.calls = w.calls := by
    unfold named
    split <;> rfl
  obtain ⟨hstore, -⟩ := named_same env req w
  constructor
  · intro segment id hresource hid hgranted
    have hresult := Api.run_getGeofence hidentify hid (hcalls ▸ hgranted)
    obtain ⟨r, hr, hstatus, hbody⟩ := exists_of_get hget hresource rfl hresult
    rw [hstore, h.find_eq] at hstatus hbody
    refine ⟨r, hr, ?_⟩
    -- The store shows what the requests so far tell.
    cases hknown : known past caller.tenant id with
    | some body =>
      rw [hknown] at hstatus hbody
      exact ⟨hstatus, hbody⟩
    | none =>
      rw [hknown] at hstatus
      exact hstatus
  · intro hresource hgranted
    have hindexed : w.store.Indexed := h.reachable.indexed_owned.1
    -- What the query asks for is read first, and then the texts are read.
    have hlists : ∀ all, listingQuery? req.target.query = some all →
        ∃ r, out.1 = some r ∧ r.Lists fun body => ∃ id, known past caller.tenant id = some body ∧
          (all = true ∨ body.get? "active" = some (.bool true)) := by
      intro all hall
      have hresult := Api.run_listGeofences hidentify hall (hcalls ▸ hgranted)
      obtain ⟨r, hr, hstatus, hbody⟩ := exists_of_get hget hresource rfl hresult
      rw [hstore] at hbody
      refine ⟨r, hr, hstatus, (w.store.list caller.tenant all).map Geofence.response, ?_, ?_, ?_⟩
      · rw [List.length_map]
        exact hbody
      · exact Store.nodup_shown hindexed
      · intro body
        rw [Store.mem_shown_iff hindexed]
        simp only [h.find_eq]
    refine ⟨fun hquery => ?_, fun hquery => ?_, hlists⟩
    · have hall : listingQuery? req.target.query = some true := by
        rw [hquery]
        decide +kernel
      simpa using hlists true hall
    · have hactive : listingQuery? req.target.query = some false := by
        rcases hquery with hquery | hquery <;> rw [hquery] <;> decide +kernel
      simpa using hlists false hactive

end App

end Http

/-! ### At the museum -/

namespace Campus

/-- The museum's surroundings, with a clock that stands still. -/
def standing (seconds : Int) : Surroundings :=
  { surroundings with clock := fun _ => ⟨seconds, 0⟩ }

/-- The museum looks at its geofences. -/
def overview : Http.Request := { opening with method := .get, body := [] }

/-- The token of the overview is valid in the season. -/
theorem proven_overview : Caller.Proven app.verifier ⟨2, 0⟩ overview.headers
    ⟨museum, .ofNat 3, .admin⟩ :=
  Caller.identify_eq_ok_iff.1
    (Caller.identify_of_earlier identify_opening (by decide) (by decide))

/-- What the museum asks about one of its geofences. -/
def regarding (method : Http.Method) (id : Uuid) (body : String) : Http.Request :=
  { opening with
    method, body := Utf8.encode body.toList
    target := ⟨["".toList, "api".toList, "v1".toList, "geofences".toList, id.toText.toList], []⟩ }

/-- The museum takes the first of its halls out of use. -/
def suspending : Http.Request := regarding .patch (.ofNat 101) "\x7b\"active\":false\x7d"

/-- The museum removes its second hall. -/
def razing : Http.Request := regarding .delete (.ofNat 103) ""

/-- The museum looks at its geofences with a query. -/
def querying (query : String) : Http.Request :=
  { overview with target := ⟨overview.target.segments, query.toList⟩ }

/-- The museum opens three halls, takes the first out of use and removes the second. -/
theorem exists_season : ∃ w first third, app.Reachable (standing 2) w ∧
    w.store.geofences = [(.ofNat 101, first), (.ofNat 105, third)] ∧
    (first.tenant = museum ∧ first.active = false) ∧
    third.tenant = museum ∧ third.active = true := by
  have hopening : app.handle opening = app.around opening .geofences
      (Http.Api.createGeofence app.verifier opening) := Http.App.handle_eq_around rfl rfl
  have hsuspending : app.handle suspending =
      app.around suspending (.geofence (Uuid.ofNat 101).toText.toList)
        (Http.Api.updateGeofence app.verifier (Uuid.ofNat 101).toText.toList suspending) :=
    Http.App.handle_eq_around (by decide +kernel) rfl
  have hrazing : app.handle razing = app.around razing (.geofence (Uuid.ofNat 103).toText.toList)
      (Http.Api.deleteGeofence app.verifier (Uuid.ofNat 103).toText.toList razing) :=
    Http.App.handle_eq_around (by decide +kernel) rfl
  have hrun : ∃ w, app.Reachable (standing 2) w ∧
      (w.store.geofences.map fun entry => (entry.1, entry.2.tenant, entry.2.active)) =
        [(.ofNat 101, museum, false), (.ofNat 105, museum, true)] := by
    refine ⟨_, .request (.request (.request (.request (.request .start opening) opening) opening)
      suspending) razing, ?_⟩
    simp only [hopening, hsuspending, hrazing, Http.Api.createGeofence, Http.Api.updateGeofence,
      Http.Api.deleteGeofence, @caller_opening opening rfl, @caller_opening suspending rfl,
      @caller_opening razing rfl]
    decide +kernel
  obtain ⟨w, hreachable, hgeofences⟩ := hrun
  simp only [List.map_eq_cons_iff, List.map_eq_nil_iff, Prod.mk.injEq] at hgeofences
  obtain ⟨⟨id, first⟩, _, hgeofences, ⟨rfl, hfirst⟩, ⟨id', third⟩, _, rfl, ⟨rfl, hthird⟩, rfl⟩ :=
    hgeofences
  exact ⟨w, first, third, hreachable, hgeofences, hfirst, hthird⟩

end Campus

/-- Three halls were opened, the first was taken out of use and the second removed. The first is
shown if it is asked for and in a listing of all halls, the second not at all, and the third in
every listing. -/
theorem Http.App.administration_campus : ∃ past w first third,
    Campus.app.History (Campus.standing 2) past w ∧
    first.get? "active" = some (.bool false) ∧ third.get? "active" = some (.bool true) ∧
    let answer := fun req => ((Campus.app.handle req).run (Campus.standing 2) w).1
    (∃ r, answer (Campus.regarding .get (.ofNat 101) "") = some r ∧ r.status = 200 ∧
      r.body = .json first) ∧
    (∃ r, answer (Campus.regarding .get (.ofNat 103) "") = some r ∧ r.status = 404) ∧
    (∃ r, answer (Campus.querying "includeInactive=true") = some r ∧
      r.Lists fun body => body = first ∨ body = third) ∧
    ∀ query ∈ ["includeInactive=false", ""], ∃ r,
      answer (Campus.querying query) = some r ∧ r.Lists fun body => body = third := by
  obtain ⟨w, first, third, hreachable, hgeofences, hfirst, hthird⟩ := Campus.exists_season
  obtain ⟨past, hpast⟩ := hreachable.exists_history
  -- What the requests tell is what is in the store, so it is looked up there.
  have hknown : ∀ id, known past Campus.museum id =
      if id = .ofNat 101 then some first.response
      else if id = .ofNat 105 then some third.response else none := by
    intro id
    rw [← hpast.find_eq, Store.find, Store.geofence?, hgeofences, List.lookup_cons,
      List.lookup_cons]
    by_cases h101 : id = .ofNat 101
    · simp [h101, Option.filter_some, hfirst.1]
    · rw [if_neg h101, beq_eq_false_iff_ne.2 h101]
      by_cases h105 : id = .ofNat 105
      · simp [h105, Option.filter_some, hthird.1]
      · rw [if_neg h105, beq_eq_false_iff_ne.2 h105]
        rfl
  have hshown : ∀ body, (∃ id, known past Campus.museum id = some body) ↔
      body = first.response ∨ body = third.response := by
    intro body
    constructor
    · rintro ⟨id, hid⟩
      rw [hknown] at hid
      split at hid
      · exact .inl (Option.some_inj.1 hid).symm
      · split at hid
        · exact .inr (Option.some_inj.1 hid).symm
        · cases hid
    · rintro (rfl | rfl)
      · exact ⟨.ofNat 101, by rw [hknown, if_pos rfl]⟩
      · exact ⟨.ofNat 105, by rw [hknown, if_neg (by decide), if_pos rfl]⟩
  have hactive : first.response.get? "active" = some (.bool false) ∧
      third.response.get? "active" = some (.bool true) := by
    rw [first.get?_active_response, third.get?_active_response, hfirst.2, hthird.2]
    exact ⟨rfl, rfl⟩
  -- The overview and the requests that look at halls carry the same token.
  have hproven : ∀ req : Http.Request, req.headers = Campus.overview.headers →
      Caller.Proven Campus.app.verifier ((Campus.standing 2).clock w.readings) req.headers
        ⟨Campus.museum, .ofNat 3, .admin⟩ := by
    intro req hheaders
    rw [hheaders]
    exact Campus.proven_overview
  refine ⟨past, w, first.response, third.response, hpast, hactive.1, hactive.2, ?_, ?_, ?_, ?_⟩
  · obtain ⟨r, hr, hshown⟩ := (administration hpast
      (hproven (Campus.regarding .get (.ofNat 101) "") rfl) rfl).1 _ (.ofNat 101)
        (by decide +kernel) (segmentId?_toText _) rfl
    rw [hknown, if_pos rfl] at hshown
    exact ⟨r, hr, hshown⟩
  · obtain ⟨r, hr, hshown⟩ := (administration hpast
      (hproven (Campus.regarding .get (.ofNat 103) "") rfl) rfl).1 _ (.ofNat 103)
        (by decide +kernel) (segmentId?_toText _) rfl
    rw [hknown, if_neg (by decide), if_neg (by decide)] at hshown
    exact ⟨r, hr, hshown⟩
  · obtain ⟨r, hr, hlists⟩ := ((administration hpast
      (hproven (Campus.querying "includeInactive=true") rfl) rfl).2 rfl rfl).1 rfl
    exact ⟨r, hr, hlists.congr hshown⟩
  · intro query hquery
    -- Both texts ask for the active halls only.
    have htext : query.toList = "includeInactive=false".toList ∨ query.toList = [] := by
      rw [List.mem_cons, List.mem_singleton] at hquery
      exact hquery.imp (fun h => by rw [h]) fun h => by rw [h]; rfl
    obtain ⟨r, hr, hlists⟩ := ((administration hpast
      (hproven (Campus.querying query) rfl) rfl).2 rfl rfl).2.1 htext
    refine ⟨r, hr, hlists.congr fun body => ?_⟩
    rw [exists_and_right, hshown]
    constructor
    · rintro ⟨rfl | rfl, hbody⟩
      · rw [hactive.1] at hbody
        cases hbody
      · rfl
    · rintro rfl
      exact ⟨.inr rfl, hactive.2⟩

end Geofencing
