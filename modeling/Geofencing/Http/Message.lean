import Geofencing.Http.Target
import Geofencing.Service.Prog
import Geofencing.Text

/-!
# Requests and responses

A request has a method, a target, headers and a body. A response has a status, headers and, as a
rule, a body that is JSON, plain text, or the page of counters.
-/

namespace Geofencing.Http

/-- Whether a character may stand in a token, such as the name of a method, of a header or of a
media type. -/
def isToken (c : Char) : Bool :=
  c.isAlphanum || "!#$%&'*+-.^_`|~".toList.contains c

/-- Whether a text is a token. -/
def isTokenText (s : String) : Bool :=
  !s.isEmpty && s.toList.all isToken

/-- The method of a request. -/
inductive Method where
  /-- Read a resource. -/
  | get
  /-- Read a resource without its body. -/
  | head
  /-- Add to a resource. -/
  | post
  /-- Replace a resource. -/
  | put
  /-- Change a resource. -/
  | patch
  /-- Remove a resource. -/
  | delete
  /-- Ask what may be done with a resource. -/
  | options
  /-- Any other method. -/
  | other
  deriving DecidableEq, Repr

namespace Method

/-- The name of a method, as it is counted. -/
def label : Method → String
  | .get => "GET"
  | .head => "HEAD"
  | .post => "POST"
  | .put => "PUT"
  | .patch => "PATCH"
  | .delete => "DELETE"
  | .options => "OPTIONS"
  | .other => "OTHER"

/-- The method with a given name; upper and lower case differ. -/
def ofText (s : String) : Method :=
  (([get, head, post, put, patch, delete, options]).find? fun m => m.label == s).getD .other

end Method

/-- Headers: names with values, the first of equal names counting. -/
abbrev Headers := List (String × String)

namespace Headers

/-- The value of a header; names count in any case. -/
def get? (headers : Headers) (name : String) : Option String :=
  (headers.find? fun h => Text.inSmall h.1 == name).map Prod.snd

/-- Whether a text can be the value of a header: no control characters but the tab. -/
def isValue (s : String) : Bool :=
  s.toList.all fun c => (32 ≤ c.toNat && c.toNat != 127) || c == '\t'

/-- Whether all names and values can stand in a message. -/
def sound (headers : Headers) : Bool :=
  headers.all fun h => isTokenText h.1 && isValue h.2

/-- Whether a character is visible in a header value: printable ASCII or a tab. -/
def isVisible (c : Char) : Bool :=
  (32 ≤ c.toNat && c.toNat < 127) || c == '\t'

/-- The value of a header that consists of visible characters; any other counts as absent. -/
def visible? (headers : Headers) (name : String) : Option (List Char) :=
  ((headers.get? name).map String.toList).filter fun cs => cs.all isVisible

end Headers

/-- A request. -/
structure Request where
  /-- The method. -/
  method : Method
  /-- What the request is for. -/
  target : Target
  /-- The headers. -/
  headers : Headers
  /-- The bytes of the body, which need not encode a text. -/
  body : List UInt8

/-- The request that the parts of a message spell; a part that cannot stand in a message spells
none. -/
def Request.make? (method target : String) (headers : Headers) (body : List UInt8) :
    Option Request :=
  if isTokenText method && headers.sound then
    (Target.parse? target.toList).map fun target =>
      { method := .ofText method, target, headers, body }
  else none

/-- The body of a response. -/
inductive Body where
  /-- There is none. -/
  | none
  /-- A JSON value. -/
  | json (value : Json)
  /-- Plain text. -/
  | text (value : String)
  /-- A sentence in plain text that goes on with details. -/
  | explained (start : String)
  /-- All counters with their values. -/
  | counters (values : List (Series × Nat))

namespace Body

/-- How many bytes a body takes up, as far as that follows from what is known of it. -/
def size? : Body → Option Nat
  | .none => some 0
  | .json value => some value.render.utf8ByteSize
  | .text value => some value.utf8ByteSize
  | .explained _ => Option.none
  | .counters values => if values.isEmpty then some 0 else Option.none

/-- Bodies are compressed from this many bytes on, for clients that ask for it. -/
def compressionThreshold : Nat := 32

/-- Whether a body is long enough to be compressed. Explanations and pages of counters are. -/
def compressible (b : Body) : Bool :=
  b.size?.all fun n => compressionThreshold ≤ n

end Body

/-- A response. -/
structure Response where
  /-- The status. -/
  status : Nat
  /-- The media type of the body. -/
  contentType : Option String
  /-- The body. -/
  body : Body
  /-- Further headers. -/
  headers : Headers

namespace Response

/-- A response without a body. -/
def bare (status : Nat) : Response :=
  { status, contentType := none, body := .none, headers := [] }

/-- A response with a JSON body. -/
def json (status : Nat) (value : Json) : Response :=
  { status, contentType := some "application/json", body := .json value, headers := [] }

/-- A response with a text body of a given media type. -/
def text (status : Nat) (contentType value : String) : Response :=
  { status, contentType := some contentType, body := .text value, headers := [] }

/-- A response with an explanation in words. -/
def explained (status : Nat) (contentType start : String) : Response :=
  { status, contentType := some contentType, body := .explained start, headers := [] }

/-- Add a header. -/
def withHeader (r : Response) (name value : String) : Response :=
  { r with headers := (name, value) :: r.headers }

/-- Add a header if there is a value for it. -/
def withHeader? (r : Response) (name : String) (value : Option String) : Response :=
  value.elim r (r.withHeader name)

/-- Add a header after all others of the same name. -/
def andHeader (r : Response) (name value : String) : Response :=
  { r with headers := r.headers ++ [(name, value)] }

/-- A response whose body may be compressed varies with the encodings that a client accepts. -/
def negotiated (r : Response) : Response :=
  if r.body.compressible then r.andHeader "vary" "accept-encoding" else r

/-- The response as it answers a request for the headers alone. -/
def withoutBody (r : Response) : Response :=
  { r with body := .none }

/-- The value of a header, the media type included. -/
def header? (r : Response) (name : String) : Option String :=
  if name = "content-type" then r.contentType else r.headers.get? name

end Response

end Geofencing.Http
