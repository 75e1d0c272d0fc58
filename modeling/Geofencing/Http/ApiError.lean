import Geofencing.Geofence.Request
import Geofencing.Http.Message
import Geofencing.Token.Claims

/-!
# Errors shown to clients

Every error that a client gets to see has a kind, which decides the status, and a detail. Internal
errors keep their detail to themselves.
-/

namespace Geofencing

/-- An error that is shown to a client. -/
inductive ApiError where
  /-- The client did not prove who it is. -/
  | unauthorized (detail : String)
  /-- The client may not do this. -/
  | forbidden (detail : String)
  /-- What was asked for does not exist. -/
  | notFound (detail : String)
  /-- What was to be made exists already. -/
  | conflict (detail : String)
  /-- The request makes no sense. -/
  | validation (detail : String)
  /-- The service failed. -/
  | internal (detail : String)
  /-- The service cannot answer now. -/
  | unavailable (detail : String)
  deriving DecidableEq, Repr

/-- What a database reports when a statement fails. -/
inductive DatabaseError where
  /-- A row that has to be there is missing. -/
  | noRow
  /-- The pool of connections is closed. -/
  | poolClosed
  /-- The server refused the statement, with a code of five characters as a rule. -/
  | refused (code : Option String) (text : String)
  deriving DecidableEq, Repr

/-- The text of a database error. -/
def DatabaseError.text : DatabaseError → String
  | .noRow => "no rows returned by a query that expected to return at least one row"
  | .poolClosed => "attempted to acquire a connection on a closed pool"
  | .refused _ text => text

namespace ApiError

/-- The kind and the detail, as they are logged. -/
def message : ApiError → String
  | .unauthorized d => "Unauthorized: " ++ d
  | .forbidden d => "Forbidden: " ++ d
  | .notFound d => "Not found: " ++ d
  | .conflict d => "Conflict: " ++ d
  | .validation d => "Validation error: " ++ d
  | .internal d => "Internal error: " ++ d
  | .unavailable d => "Service unavailable: " ++ d

/-- The status of the response. -/
def status : ApiError → Nat
  | .unauthorized _ => 401
  | .forbidden _ => 403
  | .notFound _ => 404
  | .conflict _ => 409
  | .validation _ => 400
  | .internal _ => 500
  | .unavailable _ => 503

/-- The name of the kind. -/
def code : ApiError → String
  | .unauthorized _ => "unauthorized"
  | .forbidden _ => "forbidden"
  | .notFound _ => "not_found"
  | .conflict _ => "conflict"
  | .validation _ => "validation_error"
  | .internal _ => "internal_error"
  | .unavailable _ => "service_unavailable"

/-- The detail as far as clients get to see it. -/
def shown : ApiError → String
  | .internal _ => "An internal error occurred"
  | .unauthorized d | .forbidden d | .notFound d | .conflict d | .validation d | .unavailable d => d

/-- The body of the response. -/
def body (e : ApiError) : Json :=
  .object [("error", .str e.code), ("message", .str e.shown)]

/-- The response to a client. -/
def response (e : ApiError) : Http.Response :=
  .json e.status e.body

/-- How an error of the domain is shown. -/
def ofDomain : DomainError → ApiError
  | .invalidCoordinate d | .invalidGeofence d | .invalidReport d => .validation d
  | .notFound d => .notFound d
  | .spatialEngine d => .internal ("Spatial engine error: " ++ d)
  | .persistence d => .internal ("Persistence error: " ++ d)

/-- How a refused token is shown. -/
def ofToken : TokenError → ApiError
  | .expired => .unauthorized "Token has expired"
  | .badKey cause => .internal ("JWT error: " ++ cause)
  | .invalid | .undecodable _ | .beforeEpoch => .unauthorized "Invalid or expired token"

/-- How a database error is shown: a row that exists already is a conflict, a missing one or a
missing reference was not found. -/
def ofDatabase : DatabaseError → ApiError
  | .noRow => .notFound "Resource not found"
  | .refused (some "23505") _ => .conflict "Resource already exists"
  | .refused (some "23503") _ => .notFound "Referenced resource not found"
  | e => .internal ("Database error: " ++ e.text)

/-- How violations of a request are shown: a single one with its field, several by their number. -/
def ofViolations : Violations → ApiError
  | [(field, v)] => .validation (field ++ ": " ++ v.message)
  | vs => .validation (toString vs.length ++ " validation errors")

end ApiError

end Geofencing
