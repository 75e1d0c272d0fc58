import Geofencing.Uuid

/-!
# Claims of access tokens

Who a token speaks for, in which tenant and with which role.
-/

namespace Geofencing

/-- The role of an actor in a tenant. -/
inductive Role where
  /-- Is tracked. -/
  | student
  /-- May look at all actors. -/
  | teacher
  /-- May also change geofences. -/
  | admin
  deriving DecidableEq, Repr

namespace Role

/-- The name of a role. -/
def text : Role → String
  | .student => "student"
  | .teacher => "teacher"
  | .admin => "admin"

/-- The role with a given name. -/
def parse? (s : String) : Option Role :=
  [student, teacher, admin].find? fun r => r.text == s

/-- Reading the name of a role gives the role. -/
@[simp]
theorem parse?_text (r : Role) : parse? r.text = some r := by
  cases r <;> decide

/-- Whether a role belongs to the staff. -/
def isStaff (r : Role) : Bool := r != .student

/-- Decode a role. -/
def decoder : Json.Decoder Role := Json.Decoder.named parse?

end Role

/-- Why a token or key is refused. -/
inductive TokenError where
  /-- The token is well signed but too old. -/
  | expired
  /-- The token has no three parts, a wrong signature, or no identifiers in it. -/
  | invalid
  /-- A part of the token cannot be read; the cause is named. -/
  | undecodable (cause : String)
  /-- The leeway of the verifier reaches back before the epoch. -/
  | beforeEpoch
  /-- The key cannot be used; the cause is named. -/
  | badKey (cause : String)
  deriving DecidableEq, Repr

namespace TokenError

/-- The text of an error. -/
def message : TokenError → String
  | .expired => "Token has expired"
  | .invalid => "Invalid token"
  | .undecodable cause => "Failed to decode token: " ++ cause
  | .beforeEpoch => "Leeway reaches back before the epoch"
  | .badKey cause => "Invalid key: " ++ cause

end TokenError

/-- What a token claims. -/
structure Claims where
  /-- The actor, as text. -/
  subject : String
  /-- The tenant, as text. -/
  tenant : String
  /-- The role. -/
  role : Role
  /-- When the token expires, in seconds since the epoch. -/
  expiry : Int
  /-- When the token was issued, in seconds since the epoch. -/
  issuedAt : Int
  /-- The identifier of the token. -/
  tokenId : String
  deriving DecidableEq, Repr

namespace Claims

/-- The members of claims, in the order in which they are written into tokens. -/
def members (c : Claims) : List (String × Json) :=
  [("sub", .str c.subject), ("tenant_id", .str c.tenant), ("role", .str c.role.text),
   ("exp", .int c.expiry), ("iat", .int c.issuedAt), ("jti", .str c.tokenId)]

/-- Claims in JSON. -/
def toJson (c : Claims) : Json := .object c.members

open Json.Decoder in
/-- Decode claims. -/
def decoder : Json.Decoder Claims :=
  record
    [.always "sub" string, .always "tenant_id" string, .always "role" Role.decoder,
     .always "exp" int64, .always "iat" int64, .always "jti" string]
    fun mode get => do
      let subject ← required mode get "sub" string
      let tenant ← required mode get "tenant_id" string
      let role ← required mode get "role" Role.decoder
      let expiry ← required mode get "exp" int64
      let issuedAt ← required mode get "iat" int64
      let tokenId ← required mode get "jti" string
      return { subject, tenant, role, expiry, issuedAt, tokenId }

/-- The actor that a token speaks for. -/
def actorId (c : Claims) : Except TokenError Uuid :=
  match Uuid.parse? c.subject with
  | some id => .ok id
  | none => .error .invalid

/-- The tenant that a token speaks for. -/
def tenantId (c : Claims) : Except TokenError Uuid :=
  match Uuid.parse? c.tenant with
  | some id => .ok id
  | none => .error .invalid

end Claims

end Geofencing
