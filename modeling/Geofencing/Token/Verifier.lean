import Geofencing.Instant.Basic
import Geofencing.Json.Attempt
import Geofencing.Token.Claims
import Geofencing.Token.Header
import Geofencing.Token.PublicKey

/-!
# Signing and verifying tokens

A token has three parts joined by points: a header that names the algorithm, the claims, and a
signature over both. Signing and verifying agree on the header, on how claims are written and on
the authentication code.
-/

namespace Geofencing

open Base64 (Bytes)

/-- What signatures are checked with. -/
inductive VerifyingKey where
  /-- A shared secret. -/
  | secret (bytes : Bytes)
  /-- An RSA key. -/
  | rsa (key : PublicKey)
  deriving DecidableEq

/-- Checks tokens. -/
structure Verifier where
  /-- The key. -/
  key : VerifyingKey
  /-- For how many seconds after its expiry a token is still accepted. -/
  leeway : Nat
  deriving DecidableEq

namespace Token

/-- Split at the last point. -/
def splitLast? (cs : List Char) : Option (List Char × List Char) :=
  let tail := (cs.reverse.takeWhile (· != '.')).reverse
  if tail.length < cs.length then some (cs.take (cs.length - tail.length - 1), tail) else none

/-- The header that is written into signed tokens. -/
def header : Json := .obj [("typ", .str "JWT"), ("alg", .str "HS256")]

/-- The signed part of a token: header and claims. -/
def signedPart (claims : Claims) : List Char :=
  Base64.encode (Utf8.encode header.chars) ++ '.' ::
    Base64.encode (Utf8.encode (Json.obj claims.members).chars)

/-- The signature of a text under a secret. -/
def signature (secret : Bytes) (cs : List Char) : List Char :=
  Base64.encode (Sha256.authenticate secret (Utf8.encode cs))

/-- The token that carries claims, signed with a secret. -/
def sign (secret : Bytes) (claims : Claims) : List Char :=
  signedPart claims ++ '.' :: signature secret (signedPart claims)

/-- The claims of a token for an actor that is valid for some seconds from `now` on. -/
def claimsFor (actor tenant : Uuid) (role : Role) (now : Instant) (seconds : Int) (tokenId : Uuid) :
    Claims :=
  { subject := actor.toText, tenant := tenant.toText, role, expiry := now.seconds + seconds,
    issuedAt := now.seconds, tokenId := tokenId.toText }

/-- Decode one of the first two parts of a token. -/
def decodePart {α : Type} (d : Json.Decoder α) (cs : List Char) : Except TokenError α :=
  match Base64.decode cs with
  | none => .error (.undecodable "Base64 error")
  | some bytes =>
    match Json.decodeBytes d bytes with
    | .ok a => .ok a
    | .error _ => .error (.undecodable "JSON error")

/-- Whether an audience is given as a text or as a list of texts. -/
def namesAudience : Json → Bool
  | .str _ => true
  | .arr items => items.all fun j => j.str?.isSome
  | _ => false

open Json.Decoder in
/-- Decode whether claims are meant for a particular audience. Entries that are not of their kind
count as absent, as long as the reader finds the next entry after them. -/
def audienceDecoder : Json.Decoder Bool :=
  record
    [.always "exp" passNumber, .always "nbf" passNumber, .always "sub" attempt,
     .always "iss" attempt, .always "aud" attempt]
    fun mode get => do
      let audience ← optional mode get "aud" attempt
      return audience.join.any namesAudience

/-- Whether the leeway reaches back before the epoch, where no clock can be. -/
def outOfReach (leeway : Nat) (now : Instant) : Bool :=
  now.seconds < leeway

/-- Whether claims have expired: their expiry lies more than the leeway before `now`. -/
def isExpired (leeway : Nat) (now : Instant) (claims : Claims) : Bool :=
  claims.expiry < now.seconds - leeway

/-- Check a signature over the signed part of a token. -/
def checkSignature (key : VerifyingKey) (signed given : List Char) : Except TokenError Unit :=
  match key with
  | .secret bytes => if given = signature bytes signed then .ok () else .error .invalid
  | .rsa key =>
    match Base64.decode given with
    | none => .error (.undecodable "Base64 error")
    | some s => if key.verify (Utf8.encode signed) s then .ok () else .error .invalid

end Token

namespace Verifier

/-- The algorithm that a verifier asks for. -/
def algorithm (v : Verifier) : Algorithm :=
  match v.key with
  | .secret _ => .hs256
  | .rsa _ => .rs256

/-- The verifier for a shared secret, without leeway. -/
def ofSecret (secret : String) : Verifier :=
  ⟨.secret (Utf8.encode secret.toList), 0⟩

/-- For how many seconds tokens are accepted after their expiry by default. -/
def defaultLeeway : Nat := 30

/-- The verifier for an RSA key given as text. -/
def ofPublicKey (text : String) (leeway : Nat) : Except TokenError Verifier :=
  match PublicKey.ofText? text with
  | some key => .ok ⟨.rsa key, leeway⟩
  | none => .error (.badKey "Invalid public key")

/-- A short description, without the key. -/
def describe (v : Verifier) : String :=
  let name := match v.key with
    | .secret _ => "HS256"
    | .rsa _ => "RS256"
  "JwtConfig \x7b algorithm: " ++ name ++ ", leeway_secs: " ++ toString v.leeway ++ " \x7d"

/-- The claims of a token, if it is well formed, signed with the right key, not expired at `now` and
meant for no particular audience. -/
def verify (v : Verifier) (now : Instant) (token : List Char) : Except TokenError Claims := do
  let some (signed, given) := Token.splitLast? token | .error .invalid
  let some (head, payload) := Token.splitLast? signed | .error .invalid
  let algorithm ← Token.decodePart Token.headerDecoder head
  if algorithm ≠ v.algorithm then .error (.undecodable "InvalidAlgorithm")
  Token.checkSignature v.key signed given
  let claims ← Token.decodePart Claims.decoder payload
  let audience ← Token.decodePart Token.audienceDecoder payload
  if claims.expiry < 0 then .error (.undecodable "Missing required claim")
  if Token.outOfReach v.leeway now then .error .beforeEpoch
  if Token.isExpired v.leeway now claims then .error .expired
  if audience then .error (.undecodable "InvalidAudience")
  return claims

end Verifier

end Geofencing
