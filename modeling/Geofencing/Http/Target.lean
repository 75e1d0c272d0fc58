import Geofencing.Event
import Geofencing.Number.Integer
import Geofencing.Text

/-!
# Targets of requests

A target is a path, after a question mark a query, and after a number sign a fragment, which is
ignored. A scheme and an authority may stand before the path, and an authority may also stand alone;
neither matters for what is asked, but both have to be well formed. Bytes may be written as a
percent sign and two hexadecimal digits.
-/

namespace Geofencing.Http

/-- The parts of a target that count. -/
structure Target where
  /-- The segments of the path, as written. A path that starts with a slash has an empty one in
  front. -/
  segments : List (List Char)
  /-- The query, as written. -/
  query : List Char
  deriving DecidableEq, Repr

namespace Target

/-- The longest target, in bytes. -/
def maxLength : Nat := 65534

/-- Whether a character may stand in a path. -/
def isPathChar (c : Char) : Bool :=
  let n := c.toNat
  c == '!' || c == '"' || c == '=' || c == '|' || c == '\x7b' || c == '\x7d' || n == 0x7E || 0x80 ≤ n ||
    (0x24 ≤ n && n ≤ 0x3B) || (0x40 ≤ n && n ≤ 0x5F) || (0x61 ≤ n && n ≤ 0x7A)

/-- Whether a character may stand in a query. -/
def isQueryChar (c : Char) : Bool :=
  let n := c.toNat
  c == '!' || c == '=' || (0x24 ≤ n && n ≤ 0x3B) || (0x3F ≤ n && n != 0x7F)

/-- A path with what follows it. -/
def ofPath? (cs : List Char) : Option Target :=
  let (path, query) := Text.cut '?' (Text.cut '#' cs).1
  let query := query.getD []
  if path.all isPathChar && query.all isQueryChar then some ⟨Text.splitOn '/' path, query⟩ else none

/-- Whether a character may stand in a scheme, or ends it. -/
def isSchemeChar (c : Char) : Bool :=
  c.isAlphanum || "+-.~:".toList.contains c

/-- The longest scheme. -/
def maxScheme : Nat := 64

/-- Where the schemes of the web end. -/
def webSchemes : List (List Char) := ["http://".toList, "https://".toList]

/-- Take away a scheme with the two slashes after it: `none` if there is no scheme, and `some none`
if it is too long. -/
def afterScheme (cs : List Char) : Option (Option (List Char)) :=
  match webSchemes.find? fun s => s.isPrefixOf (cs.map Text.small) with
  | some s => some (some (cs.drop s.length))
  | none =>
    let scheme := cs.takeWhile fun c => isSchemeChar c && c != ':'
    match cs.drop scheme.length with
    | ':' :: '/' :: '/' :: rest =>
      if scheme.length ≤ maxScheme then some (some rest) else some none
    | _ => none

/-- What has been seen of an authority. -/
structure Authority where
  /-- How many colons there are that may start a port. -/
  colons : Nat := 0
  /-- Whether an address in brackets has started. -/
  opened : Bool := false
  /-- Whether an address in brackets has ended. -/
  closed : Bool := false
  /-- Whether there is a percent sign outside of the user's part. -/
  percent : Bool := false
  /-- Whether the user's part ends right here. -/
  user : Bool := false

namespace Authority

/-- The most colons, those of an address in brackets and of its port. -/
def maxColons : Nat := 8

/-- Whether a character may stand in an authority without further ado. -/
def isPlain (c : Char) : Bool :=
  c.isAlphanum || "-._~!$&'()*+,;=".toList.contains c

/-- Read on by one character. -/
def next (a : Authority) (c : Char) : Option Authority :=
  let a := { a with user := c == '@' }
  if c = ':' then if a.colons < maxColons then some { a with colons := a.colons + 1 } else none
  else if c = '[' then if a.percent || a.opened then none else some { a with opened := true }
  else if c = ']' then
    if !a.opened || a.closed then none
    else some { a with closed := true, colons := 0, percent := false }
  else if c = '@' then some { a with colons := 0, percent := false }
  else if c = '%' then some { a with percent := true }
  else if isPlain c then some a
  else none

/-- Whether an authority may end here. -/
def mayEnd (a : Authority) : Bool :=
  a.opened == a.closed && a.colons ≤ 1 && !a.user && !a.percent

/-- Whether characters spell an authority, possibly an empty one. -/
def accepts (cs : List Char) : Bool :=
  (cs.foldlM next {}).any mayEnd

end Authority

/-- Whether a character ends an authority. -/
def endsAuthority (c : Char) : Bool :=
  c == '/' || c == '?' || c == '#'

/-- The target that characters spell. A target without a path, after an authority, is the root; an
authority alone has no path at all. -/
def parse? (cs : List Char) : Option Target :=
  if cs.isEmpty || maxLength < (String.ofList cs).utf8ByteSize then none
  else if cs = ['*'] then some ⟨[cs], []⟩
  else if cs.head? = some '/' then ofPath? cs
  else
    match if 3 < cs.length then afterScheme cs else none with
    | some none => none
    | none => if Authority.accepts cs then some ⟨[[]], []⟩ else none
    | some (some rest) =>
      let authority := rest.takeWhile fun c => !endsAuthority c
      let path := rest.drop authority.length
      if authority.isEmpty || !Authority.accepts authority then none
      else if path.head? = some '/' then ofPath? path
      else ofPath? ('/' :: path)

end Target

/-- The bytes that characters stand for; a percent sign without two hexadecimal digits stands for
itself. -/
def percentDecode : List Char → List UInt8
  | [] => []
  | '%' :: a :: b :: rest =>
    match Hex.digit? a, Hex.digit? b with
    | some x, some y => UInt8.ofNat (16 * x + y) :: percentDecode rest
    | _, _ => 37 :: percentDecode (a :: b :: rest)
  | c :: rest => String.utf8EncodeChar c ++ percentDecode rest

/-- The identifier that a path segment spells. -/
def segmentId? (cs : List Char) : Option Uuid :=
  (Utf8.decode? (percentDecode cs)).bind Uuid.parse?

/-- The text of a name or value in a query. A plus sign is a blank. Bytes that encode no text give
a text that no field accepts. -/
def formText (cs : List Char) : String :=
  let blanks := cs.map fun c => if c = '+' then ' ' else c
  (Utf8.decode? (percentDecode blanks)).getD "\uFFFD"

/-- The fields of a query. -/
def formFields (query : List Char) : List (String × String) :=
  ((Text.splitOn '&' query).filter fun part => !part.isEmpty).map fun part =>
    let (name, value) := Text.cut '=' part
    (formText name, formText (value.getD []))

/-- The value of a field that may be absent. It may not be repeated, and its value has to be
readable. -/
def formField {α : Type} (fields : List (String × String)) (name : String)
    (read : String → Option α) : Option (Option α) :=
  match fields.filter fun f => f.1 == name with
  | [] => some none
  | [f] => (read f.2).map some
  | _ => none

/-- A truth value in a query. -/
def formBool (s : String) : Option Bool :=
  if s = "true" then some true else if s = "false" then some false else none

/-- An integer of 64 bits in a query. -/
def formInt (s : String) : Option Int :=
  Integer.read? Width.int64Min Width.int64Max s.toList

/-- Whether a listing of geofences includes the inactive ones. -/
def listingQuery? (query : List Char) : Option Bool :=
  (formField (formFields query) "includeInactive" formBool).map fun b => b.getD false

/-- The query for a listing of events. -/
def eventQuery? (query : List Char) : Option EventQuery := do
  let fields := formFields query
  let actor ← formField fields "actorId" Uuid.parse?
  let geofence ← formField fields "geofenceId" Uuid.parse?
  let limit ← formField fields "limit" formInt
  return { actor, geofence, limit }

end Geofencing.Http
