import Geofencing.Http.Access
import Geofencing.Http.MediaType
import Geofencing.Http.Resource

/-!
# Handlers and what they need from a request

A handler is a program that ends with a response or refuses the request. Before it does its work it
takes from the request what it needs: the caller, an identifier, a query, a body. The first thing
that is missing decides the refusal.
-/

namespace Geofencing.Http

/-- Why a request is refused. -/
inductive Refusal where
  /-- With an error of the interface. -/
  | api (error : ApiError)
  /-- An identifier in the path is none. -/
  | path
  /-- The query cannot be read. -/
  | query
  /-- The body is not announced as JSON. -/
  | mediaType
  /-- The body is too long. -/
  | tooLong
  /-- The body is no JSON. -/
  | malformed
  /-- The body is JSON of the wrong form. -/
  | mismatch
  deriving DecidableEq, Repr

namespace Refusal

/-- The media type of refusals in words. -/
def plain : String := "text/plain; charset=utf-8"

/-- The response to a refused request. -/
def response : Refusal → Response
  | .api e => e.response
  | .path => .explained 400 plain "Invalid URL"
  | .query => .explained 400 plain "Failed to deserialize query string"
  | .mediaType => .text 415 plain "Expected request with `Content-Type: application/json`"
  | .tooLong => .explained 413 plain "Failed to buffer the request body"
  | .malformed => .explained 400 plain "Failed to parse the request body as JSON"
  | .mismatch => .explained 422 plain "Failed to deserialize the JSON body into the target type"

/-- How a fault of a body refuses a request. -/
def ofFault : Json.Fault → Refusal
  | .malformed => .malformed
  | .mismatch => .mismatch

end Refusal

/-- A program that ends with a value or refuses the request. -/
abbrev Handler := ExceptT Refusal Prog

namespace Handler

variable {α : Type}

/-- Go on with a value, or refuse with an error of the interface. -/
def ofApi (r : Except ApiError α) : Handler α :=
  ExceptT.mk (pure (r.mapError .api))

/-- Go on with a value, or refuse for a given reason. -/
def ofOption (refusal : Refusal) (r : Option α) : Handler α :=
  match r with
  | some a => pure a
  | none => throw refusal

/-- Run a program of the service; its errors are shown to the client. -/
def serve (p : Service α) : Handler α :=
  ExceptT.adapt (fun e => .api (.ofDomain e)) p

/-- Go on with a value, or refuse with an error of the domain. -/
def ofDomain (r : Except DomainError α) : Handler α :=
  ofApi (r.mapError .ofDomain)

/-- The caller of a request. -/
def caller (v : Verifier) (req : Request) : Handler Caller := do
  let now ← Prog.now
  ofApi (Caller.identify v now req.headers)

/-- The longest body that is read, in bytes: 2 MiB. -/
def maxBody : Nat := 2 * 1024 * 1024

/-- The value that the body of a request describes. -/
def readBody (d : Json.Decoder α) (req : Request) : Except Refusal α :=
  if ¬ (req.headers.visible? "content-type").any MediaType.isJson then .error .mediaType
  else if maxBody < req.body.length then .error .tooLong
  else (Json.decodeLeading d req.body).mapError .ofFault

/-- The value that the body of a request describes. -/
def body (d : Json.Decoder α) (req : Request) : Handler α :=
  ExceptT.mk (pure (readBody d req))

/-- Refuse a request that breaks rules. -/
def check (violations : Violations) : Handler Unit :=
  ofApi (if violations.isEmpty then .ok () else .error (.ofViolations violations))

end Handler

end Geofencing.Http
