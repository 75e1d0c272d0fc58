import Geofencing.Http.Api
import Geofencing.Http.Monitor

/-!
# The service as a whole

Every request passes the same layers: questions about allowed origins are answered first, then the
request gets an identifier, is answered and counted.
-/

namespace Geofencing.Http

/-- Which origins may read responses. -/
inductive Origins where
  /-- All of them. -/
  | any
  /-- Those on a list. -/
  | listed (origins : List String)
  deriving DecidableEq, Repr

namespace Origins

/-- The origins that a list in the settings stands for: without entries all of them, else those
that can be the value of a header. A star among them cannot be honoured. -/
def ofList? (origins : List String) : Option Origins :=
  if origins.isEmpty then some .any
  else
    let usable := origins.filter Headers.isValue
    if usable.contains "*" then none else some (.listed usable)

/-- The origin that is told to the client. -/
def allowed (o : Origins) (headers : Headers) : Option String :=
  match o with
  | .any => some "*"
  | .listed origins => (headers.get? "origin").filter fun s => origins.contains s

/-- Responses vary with everything that questions about origins ask. -/
def vary : String := "origin, access-control-request-method, access-control-request-headers"

/-- Tell the client which origin may read a response. -/
def tell (o : Origins) (headers : Headers) (r : Response) : Response :=
  (r.andHeader "vary" vary).withHeader? "access-control-allow-origin" (o.allowed headers)

end Origins

/-- Everything that stays the same while the service runs. -/
structure App where
  /-- Checks tokens. -/
  verifier : Verifier
  /-- How long reports are kept. -/
  retention : RetentionPolicy
  /-- Which origins may read responses. -/
  origins : Origins
  /-- The database behind the service. -/
  database : Database
  /-- Whether counters are exposed. -/
  exposesMetrics : Bool

namespace App

/-- The longest request identifier that is taken over from a client. -/
def maxRequestId : Nat := 128

/-- Whether a character may stand in a request identifier. -/
def isRequestIdChar (c : Char) : Bool :=
  c.isAlphanum || c == '-' || c == '_' || c == '.'

/-- The identifier that a client gave its request, if it is well formed. -/
def givenRequestId? (headers : Headers) : Option String :=
  let given := (headers.visible? "x-request-id").map Text.trimChars
  (given.filter fun cs => !cs.isEmpty && cs.length ≤ maxRequestId && cs.all isRequestIdChar).map
    String.ofList

/-- The identifier of a request: the given one, or a fresh one. -/
def requestId (headers : Headers) : Prog String :=
  match givenRequestId? headers with
  | some id => pure id
  | none => do return (← Prog.fresh).toText

/-- The handler for a method on a resource, if there is one. -/
def handler? (app : App) (req : Request) (query : List Char) :
    Method → Resource → Option (Handler Response)
  | .post, .locations => some (Api.submitLocation app.verifier req)
  | .get, .actorGeofences actor => some (Api.currentGeofences app.verifier actor req)
  | .get, .geofences => some (Api.listGeofences app.verifier query req)
  | .post, .geofences => some (Api.createGeofence app.verifier req)
  | .get, .geofence id => some (Api.getGeofence app.verifier id req)
  | .patch, .geofence id => some (Api.updateGeofence app.verifier id req)
  | .delete, .geofence id => some (Api.deleteGeofence app.verifier id req)
  | .get, .events => some (Api.listEvents app.verifier query req)
  | .post, .purge => some (Api.purgeLocations app.verifier app.retention req)
  | .get, .health => some (pure (health app.database app.retention))
  | .get, .readiness => some (pure (readiness app.database))
  | .get, .liveness => some (pure liveness)
  | .get, .metrics => some (metricsPage app.exposesMetrics : Prog Response)
  | _, _ => none

/-- Run a handler; a refusal is a response too. -/
def settle (h : Handler Response) : Prog Response := do
  match ← h.run with
  | .ok r => return r
  | .error refusal => return refusal.response

/-- Answer a request to a resource. -/
def answer (app : App) (req : Request) (resource : Resource) : Prog Response :=
  let asked := if req.method = .head then .get else req.method
  match app.handler? req req.target.query asked resource with
  | some h => settle h
  | none => pure ((Response.bare 405).withHeader "allow" resource.allow)

/-- Answer a request, and count it by method, route and status. -/
def respond (app : App) (req : Request) (resource : Option Resource) : Prog Response := do
  let r ← resource.elim (pure (Response.bare 404)) (app.answer req)
  let r := if req.method = .head then r.negotiated.withoutBody else r.negotiated
  let route := resource.elim "unmatched" Resource.pattern
  Prog.count (.requests req.method.label route r.status) 1
  return r

/-- The answer to a question about what may be done. It is the only response that states its
length. -/
def options (app : App) (req : Request) (resource : Option Resource) : Response :=
  app.origins.tell req.headers
    ((Response.bare 200).withHeader? "allow" (resource.map Resource.allow)
      |>.withHeader "access-control-allow-methods" "*"
      |>.withHeader "access-control-allow-headers" "*"
      |>.withHeader "content-length" "0")

/-- Handle a request. -/
def handle (app : App) (req : Request) : Prog Response := do
  let resource := Resource.ofSegments? req.target.segments
  if req.method = .options then return app.options req resource
  else
    let id ← requestId req.headers
    let r ← app.respond req resource
    return app.origins.tell req.headers (r.withHeader "x-request-id" id)

end App

end Geofencing.Http
