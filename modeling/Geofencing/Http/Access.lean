import Geofencing.Http.ApiError
import Geofencing.Text
import Geofencing.Token.Verifier

/-!
# Who is calling

A caller proves who it is with a token in the authorization header. The token decides the tenant,
the actor and the role; nothing else in a request does.
-/

namespace Geofencing

/-- Who is calling. -/
structure Caller where
  /-- The tenant on whose data the call works. -/
  tenant : Uuid
  /-- The calling actor. -/
  actor : Uuid
  /-- The role of the actor. -/
  role : Role
  deriving DecidableEq, Repr

namespace Caller

/-- The caller that claims speak for. -/
def ofClaims (c : Claims) : Except TokenError Caller := do
  let tenant ← c.tenantId
  let actor ← c.actorId
  return { tenant, actor, role := c.role }

/-- What stands before a token in the authorization header. -/
def bearer : List Char := "Bearer ".toList

/-- The token in the authorization header. -/
def token (headers : Http.Headers) : Except ApiError (List Char) :=
  match headers.visible? "authorization" with
  | none => .error (.unauthorized "Missing Authorization header")
  | some value =>
    let token := Text.trimChars (value.drop bearer.length)
    if bearer.isPrefixOf value ∧ token ≠ [] then .ok token
    else .error (.unauthorized "Invalid Authorization header format")

/-- The caller that the headers of a request prove at an instant `now`. -/
def identify (v : Verifier) (now : Instant) (headers : Http.Headers) : Except ApiError Caller := do
  let token ← Caller.token headers
  match v.verify now token >>= ofClaims with
  | .ok caller => .ok caller
  | .error e => .error (.ofToken e)

/-- Only administrators change geofences and purge reports. -/
def requireAdmin (c : Caller) : Except ApiError Unit :=
  if c.role = .admin then .ok () else .error (.forbidden "Admin role required")

/-- Students look at themselves only, staff at every actor of the tenant. -/
def mayAccess (c : Caller) (actor : Uuid) : Except ApiError Unit :=
  if c.role.isStaff ∨ c.actor = actor then .ok ()
  else .error (.forbidden "Students may only access their own locations")

end Caller

end Geofencing
