import Geofencing.Proofs.Administration
import Geofencing.Proofs.Interleaving

/-!
# Looking up, changing and writing back

A change of a geofence takes two store calls: one that looks the geofence up and one that writes it
back as a whole. What happens in between is not seen by the second call. `Prog.Revises` says that a
program is of this form, and that it succeeds only after it has written back what it looked up,
changed: handling a request for a change does so (`Http.App.revises_handle`).

For threads, `Revision.Turn` lists all that one turn can do to a revision and to the store.
-/

namespace Geofencing

variable {α β : Type}

/-! ## Stages of a revision -/

/-- How far a program has come that looks up a geofence and writes it back. -/
inductive Revision where
  /-- The geofence was not looked up yet. -/
  | asking
  /-- The geofence was looked up. -/
  | loaded (g : Geofence)
  /-- The geofence was written back. -/
  | written (g : Geofence)
  /-- One of the two calls has failed, or the geofence was not there. -/
  | failed

namespace Revision

/-- Where the lookup leads. -/
def ofFind : Except DomainError (Option Geofence) → Revision
  | .ok (some g) => .loaded g
  | .ok none | .error _ => .failed

/-- Where writing back leads. -/
def ofUpdate (g : Geofence) : Except DomainError Bool → Revision
  | .ok true => .written g
  | .ok false | .error _ => .failed

/-- The store calls that lead to a stage, the last one first. -/
def Calls : Revision → List StoreMethod → Prop
  | .asking, calls => calls = []
  | .loaded _, calls => calls = [.find]
  | .written _, calls => calls = [.update, .find]
  | .failed, _ => True

/-- What one turn can do to a revision and to the store. -/
inductive Turn (tenant id : Uuid) (changes : Geofence → Geofence → Prop) (s : Store) :
    Revision → Revision → Store → Prop
  /-- Nothing happens to either. -/
  | idle {st : Revision} : Turn tenant id changes s st st s
  /-- The revision fails and leaves the store alone. -/
  | fail {st : Revision} : Turn tenant id changes s st .failed s
  /-- The geofence is found as it is in the store. -/
  | load {g : Geofence} (found : s.find tenant id = some g) :
      Turn tenant id changes s .asking (.loaded g) s
  /-- The geofence that was found is written back, changed. -/
  | write {g g' : Geofence} (change : changes g g')
      (found : (s.find g'.tenant g'.id).isSome = true) :
      Turn tenant id changes s (.loaded g) (.written g') (s.replace g')

end Revision

/-! ## Programs that revise a geofence -/

namespace Prog

/-- A program looks up a geofence of a tenant once and writes it back changed, and does nothing else
with the store. `Q` says what holds of its value and of how far it came. -/
inductive Revises (tenant id : Uuid) (changes : Geofence → Geofence → Prop)
    (Q : α → Revision → Prop) : Revision → Prog α → Prop
  | done {st : Revision} {a : α} (h : Q a st) : Revises tenant id changes Q st (.done a)
  | abort {st : Revision} : Revises tenant id changes Q st .abort
  /-- An action that is no store call belongs to any stage. -/
  | aside {st : Revision} {a : Action} {next : a.Reply → Prog α} (apart : a.aside = true)
      (h : ∀ reply, Revises tenant id changes Q st (next reply)) :
      Revises tenant id changes Q st (.step a next)
  /-- The geofence is looked up. -/
  | find {next : Except DomainError (Option Geofence) → Prog α}
      (h : ∀ reply, Revises tenant id changes Q (.ofFind reply) (next reply)) :
      Revises tenant id changes Q .asking (.step (.store (.find tenant id)) next)
  /-- It is written back, changed. -/
  | update {g g' : Geofence} {next : Except DomainError Bool → Prog α} (change : changes g g')
      (h : ∀ reply, Revises tenant id changes Q (.ofUpdate g' reply) (next reply)) :
      Revises tenant id changes Q (.loaded g) (.step (.store (.update g')) next)

namespace Revises

variable {ε : Type} {tenant id : Uuid} {changes : Geofence → Geofence → Prop} {st : Revision}

theorem imp {x : Prog α} {Q Q' : α → Revision → Prop} (h : x.Revises tenant id changes Q st)
    (himp : ∀ a st, Q a st → Q' a st) : x.Revises tenant id changes Q' st := by
  induction h with
  | done h => exact .done (himp _ _ h)
  | abort => exact .abort
  | aside apart _ ih => exact .aside apart ih
  | find _ ih => exact .find ih
  | update change _ ih => exact .update change ih

/-- One program after another revises a geofence if the second goes on where the first one ends. -/
theorem bind {x : Prog α} {f : α → Prog β} {Q : β → Revision → Prop}
    (h : x.Revises tenant id changes (fun a st => (f a).Revises tenant id changes Q st) st) :
    (x >>= f).Revises tenant id changes Q st := by
  induction h with
  | done h => exact h
  | abort => exact .abort
  | aside apart _ ih => exact .aside apart ih
  | find _ ih => exact .find ih
  | update change _ ih => exact .update change ih

/-- A revision is composed of two parts if the second takes it up where the first succeeds. -/
theorem run_bind {x : ExceptT ε Prog α} {f : α → ExceptT ε Prog β}
    {Q : Except ε β → Revision → Prop}
    (h : x.run.Revises tenant id changes (fun r st => match r with
      | .ok a => (f a).run.Revises tenant id changes Q st
      | .error e => Q (.error e) st) st) : (x >>= f).run.Revises tenant id changes Q st := by
  rw [ExceptT.run_bind]
  refine bind (h.imp fun r st hr => ?_)
  cases r with
  | ok a => exact hr
  | error e => exact .done hr

end Revises

end Prog

/-! ## Threads -/

namespace Thread

variable {tenant id : Uuid} {changes : Geofence → Geofence → Prop} {Q : α → Revision → Prop}
  {st : Revision} {t : Thread α}

/-- A thread has come to a stage of its revision. -/
structure Revising (tenant id : Uuid) (changes : Geofence → Geofence → Prop)
    (Q : α → Revision → Prop) (t : Thread α) (st : Revision) : Prop where
  /-- What is left of the program goes on from there. -/
  revises : t.prog.Revises tenant id changes Q st
  /-- The calls of the thread led there. -/
  calls : st.Calls t.world.calls

/-- A thread that has returned has come to the end of its revision. -/
theorem Revising.of_returned (h : t.Revising tenant id changes Q st) {a : α}
    (hreturned : t.returned = some a) : Q a st := by
  obtain ⟨env, prog, world⟩ := t
  obtain ⟨hrevises, -⟩ := h
  cases hrevises with
  | done h =>
    cases hreturned
    exact h
  | abort | aside | find | update => cases hreturned

/-- A turn takes a thread to a stage of its revision, and it does to the store what this means. -/
theorem Revising.step (h : t.Revising tenant id changes Q st) (s : Store) :
    ∃ st', (t.step s).1.Revising tenant id changes Q st' ∧
      st.Turn tenant id changes s st' (t.step s).2 := by
  obtain ⟨env, prog, world⟩ := t
  obtain ⟨hrevises, hcalls⟩ := h
  cases hrevises with
  | done h => exact ⟨st, ⟨.done h, hcalls⟩, .idle⟩
  | abort => exact ⟨st, ⟨.abort, hcalls⟩, .idle⟩
  | @aside _ a next apart h =>
    refine ⟨st, ⟨h _, ?_⟩, ?_⟩
    · cases a with
      | store call => cases apart
      | attend | locate | readClock | freshId | count | readCounters => exact hcalls
    · cases a with
      | store call => cases apart
      | attend | locate | readClock | freshId | count | readCounters => exact .idle
  | find h =>
    -- The lookup sees the store as the turns of other threads have left it.
    rw [step_of_prog rfl, World.perform]
    obtain ⟨-, hcall⟩ | ⟨-, e, -, hcall⟩ | ⟨-, found, s', hs, hcall⟩ :=
      World.callStore_cases env (worldOver _ s) (.find tenant id)
    · rw [hcall]
      exact ⟨.failed, ⟨h (.error _), trivial⟩, .fail⟩
    · rw [hcall]
      exact ⟨.failed, ⟨h (.error e), trivial⟩, .fail⟩
    · have hfound : s.find tenant id = found ∧ s' = s := by
        cases hs
        exact ⟨rfl, rfl⟩
      obtain ⟨hfound, rfl⟩ := hfound
      rw [hcall]
      cases found with
      | none => exact ⟨.failed, ⟨h (.ok none), trivial⟩, .fail⟩
      | some g =>
        exact ⟨.loaded g, ⟨h (.ok (some g)), congrArg (StoreMethod.find :: ·) hcalls⟩, .load hfound⟩
  | @update _ g' next change h =>
    rw [step_of_prog rfl, World.perform]
    obtain ⟨-, hcall⟩ | ⟨-, e, -, hcall⟩ | ⟨-, updated, s', hs, hcall⟩ :=
      World.callStore_cases env (worldOver _ s) (.update g')
    · rw [hcall]
      exact ⟨.failed, ⟨h (.error _), trivial⟩, .fail⟩
    · rw [hcall]
      exact ⟨.failed, ⟨h (.error e), trivial⟩, .fail⟩
    · rw [hcall]
      cases updated with
      | true =>
        obtain ⟨hfound, rfl⟩ := Store.of_perform_update hs
        exact ⟨.written g', ⟨h (.ok true), congrArg (StoreMethod.update :: ·) hcalls⟩,
          .write change hfound⟩
      | false =>
        -- The geofence has gone away in the meantime, and nothing is written.
        obtain rfl : s' = s := by
          rw [Store.perform] at hs
          split at hs
          · cases hs
          · cases hs
            rfl
        exact ⟨.failed, ⟨h (.ok false), trivial⟩, .fail⟩

end Thread

/-! ## Requests -/

namespace Http

namespace Handler

variable {tenant id : Uuid} {changes : Geofence → Geofence → Prop} {st : Revision}
  {f : α → Handler β}

/-- A handler revises a geofence and succeeds only after it has written it back. -/
abbrev Revises (tenant id : Uuid) (changes : Geofence → Geofence → Prop) (st : Revision)
    (h : Handler β) : Prop :=
  h.run.Revises tenant id changes (fun r st => ∀ b, r = .ok b → ∃ g, st = .written g) st

/-- A handler that refuses a request need not have written anything. -/
theorem revises_refused {h : Handler β} {refusal : Refusal} (hh : h.run = pure (.error refusal)) :
    Revises tenant id changes st h := by
  rw [Revises, hh]
  exact .done nofun

/-- What a handler takes from the request is no part of the revision. -/
theorem revises_bind_of_run_eq {x : Handler α} {r : Except Refusal α} (hx : x.run = pure r)
    (hok : ∀ a, r = .ok a → Revises tenant id changes st (f a)) :
    Revises tenant id changes st (x >>= f) := by
  refine .run_bind ?_
  rw [hx]
  refine .done ?_
  cases r with
  | error refusal => exact nofun
  | ok a => exact hok a rfl

theorem revises_now_bind {f : Instant → Handler β}
    (hok : ∀ now, Revises tenant id changes st (f now)) :
    Revises tenant id changes st (liftM Prog.now >>= f) :=
  .run_bind (.aside rfl fun now => .done (hok now))

/-- To find the caller is no part of the revision either, and the caller is of the tenant that the
token names. -/
theorem revises_caller_bind {v : Verifier} {req : Request} (htoken : For v req tenant)
    {f : Caller → Handler β}
    (hok : ∀ caller, caller.tenant = tenant → Revises tenant id changes st (f caller)) :
    Revises tenant id changes st (caller v req >>= f) := by
  rw [caller, bind_assoc]
  refine revises_now_bind fun now => revises_bind_of_run_eq rfl fun found hfound => ?_
  exact hok found (htoken now found (ok_of_mapError hfound))

/-- The lookup finds a geofence to change, or the request is refused. -/
theorem revises_find_bind {f : Option Geofence → Handler β}
    (hnone : ∃ refusal, (f none).run = pure (.error refusal))
    (hsome : ∀ g, Revises tenant id changes (.loaded g) (f (some g))) :
    Revises tenant id changes .asking (serve (Service.store (.find tenant id)) >>= f) := by
  refine .run_bind (.find fun reply => .done ?_)
  rcases reply with e | _ | g
  · exact nofun
  · obtain ⟨refusal, hrefusal⟩ := hnone
    exact revises_refused hrefusal
  · exact hsome g

/-- A changed geofence is written back, or the request is refused. -/
theorem revises_update_bind {f : Bool → Handler β} {g g' : Geofence} (change : changes g g')
    (hfalse : ∃ refusal, (f false).run = pure (.error refusal))
    (htrue : Revises tenant id changes (.written g') (f true)) :
    Revises tenant id changes (.loaded g) (serve (Service.store (.update g')) >>= f) := by
  refine .run_bind (.update change fun reply => .done ?_)
  rcases reply with e | _ | _
  · exact nofun
  · obtain ⟨refusal, hrefusal⟩ := hfalse
    exact revises_refused hrefusal
  · exact htrue

end Handler

variable {tenant id : Uuid}

/-- The handler of changes revises the geofence that the path names, as the body asks for. -/
theorem Api.revises_updateGeofence {v : Verifier} {req : Request} {segment : List Char}
    {r : UpdateGeofence} (htoken : Handler.For v req tenant) (hid : segmentId? segment = some id)
    (hbody : Handler.readBody UpdateGeofence.decoder req = .ok r) :
    Handler.Revises tenant id (fun g g' => ∃ now, r.apply now g = .ok g') .asking
      (updateGeofence v segment req) := by
  refine Handler.revises_caller_bind htoken fun caller htenant => ?_
  rw [htenant, hid]
  refine Handler.revises_bind_of_run_eq rfl fun _ hsegment => ?_
  cases hsegment
  refine Handler.revises_bind_of_run_eq rfl fun _ hread => ?_
  obtain rfl := Except.ok.inj (hread.symm.trans hbody)
  -- The checks of the role and of the body do not touch the store.
  refine Handler.revises_bind_of_run_eq rfl fun _ _ => ?_
  refine Handler.revises_bind_of_run_eq rfl fun _ _ => ?_
  refine Handler.revises_find_bind ⟨_, rfl⟩ fun g => ?_
  refine Handler.revises_bind_of_run_eq rfl fun _ hsome => ?_
  cases hsome
  refine Handler.revises_now_bind fun now => ?_
  refine Handler.revises_bind_of_run_eq rfl fun g' happlied => ?_
  have hchange := Handler.ok_of_mapError (Handler.ok_of_mapError (Handler.ok_of_mapError happlied))
  refine Handler.revises_update_bind ⟨now, hchange⟩ ⟨_, rfl⟩ ?_
  exact .done fun _ _ => ⟨g', rfl⟩

namespace App

variable {app : App} {req : Request} {resource : Resource} {h : Handler Response}

/-- Handling a request revises a geofence if its handler does, and succeeds only after it was
written back. -/
theorem revises_handle {changes : Geofence → Geofence → Prop}
    (hresource : Resource.ofSegments? req.target.segments = some resource)
    (hh : app.handler? req req.target.query (asked req) resource = some h)
    (hrevises : Handler.Revises tenant id changes .asking h) :
    (app.handle req).Revises tenant id changes
      (fun r st => r.status = 200 → ∃ g, st = .written g) .asking := by
  -- Refusals have the status of an error, so only a value can have the status 200.
  have hsettle : (settle h).Revises tenant id changes
      (fun r st => r.status = 200 → ∃ g, st = .written g) .asking := by
    refine .bind (hrevises.imp fun result st hresult => ?_)
    cases result with
    | ok r => exact .done fun _ => hresult r rfl
    | error refusal =>
      refine .done fun hstatus => ?_
      have hrefused := refusal.le_status_response
      omega
  have hname : (requestId req.headers).Revises tenant id changes (fun _ st => st = .asking)
      .asking := by
    unfold requestId
    cases givenRequestId? req.headers with
    | some name => exact .done rfl
    | none => exact .bind (.aside rfl fun name => .done (.done rfl))
  rw [handle_eq_around hresource hh]
  refine .bind (hname.imp fun name st hst => ?_)
  subst hst
  refine .bind (hsettle.imp fun r st hr => .bind (.aside rfl fun _ => .done (.done ?_)))
  intro hstatus
  rw [status_tell] at hstatus
  exact hr ((status_sent req r).symm.trans hstatus)

end App

end Http

end Geofencing
