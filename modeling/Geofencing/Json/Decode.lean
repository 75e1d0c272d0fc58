import Geofencing.Json.Reader
import Geofencing.Number.Integer

/-!
# Decoding JSON into typed values

A decoder walks a `Tree` from left to right and stops at its first fault: either the text is no
JSON there, or it is JSON of the wrong kind. Records may be written as objects or as arrays of all
their fields in order.
-/

namespace Geofencing.Json

/-- Why a text does not decode. -/
inductive Fault where
  /-- The text is no JSON, or nested too deeply. -/
  | malformed
  /-- The text is JSON, but not of the expected kind. -/
  | mismatch
  deriving Repr, DecidableEq

/-- How a tree is being decoded. -/
structure Mode where
  /-- How many more arrays and objects may be entered, if there is a limit. -/
  depth : Option Nat
  /-- Whether the tree was read as a whole before; surplus items are then no fault of the text. -/
  buffered : Bool

namespace Mode

/-- The mode for a text as it is read: at most 127 nested arrays and objects. -/
def streaming : Mode := ⟨some 127, false⟩

/-- The mode for a value that is already in memory. -/
def inMemory : Mode := ⟨none, true⟩

/-- Enter an array or object. -/
def enter (m : Mode) : Except Fault Mode :=
  match m.depth with
  | none => .ok m
  | some 0 => .error .malformed
  | some (n + 1) => .ok { m with depth := some n }

end Mode

/-- Reads a typed value off a tree. -/
abbrev Decoder (α : Type) := Mode → Tree → Except Fault α

namespace Decoder

/-- The fault of a value that has another kind than expected: a leaf is read first and may be
malformed, an array or object is refused at its opening bracket. -/
def refuse {α : Type} : Tree → Except Fault α
  | .fault | .excessive _ | .garbled _ => .error .malformed
  | _ => .error .mismatch

/-- A text. -/
def string : Decoder String
  | _, .text s => .ok s
  | _, t => refuse t

/-- A truth value. -/
def bool : Decoder Bool
  | _, .bool b => .ok b
  | _, t => refuse t

/-- A number of any kind, as a binary64 number. -/
def float : Decoder Float
  | _, .number n => .ok n.toFloat
  | _, t => refuse t

/-- An integer between two bounds, written without fraction and exponent. -/
def int (low high : Int) : Decoder Int
  | _, .number (.int i) => if low ≤ i ∧ i ≤ high then .ok i else .error .mismatch
  | _, t => refuse t

/-- A signed 64-bit integer. -/
def int64 : Decoder Int := int Width.int64Min Width.int64Max

/-- A signed 32-bit integer. -/
def int32 : Decoder Int := int Width.int32Min Width.int32Max

/-- A text that `parse` understands. -/
def parsed {α : Type} (parse : String → Option α) : Decoder α
  | mode, t =>
    match string mode t with
    | .error f => .error f
    | .ok s =>
      match parse s with
      | some a => .ok a
      | none => .error .mismatch

/-- A value or `null`. -/
def option {α : Type} (d : Decoder α) : Decoder (Option α)
  | _, .null => .ok none
  | mode, t => (d mode t).map some

mutual

/-- Any value. The last of several members with one name is kept. -/
def json (mode : Mode) : Tree → Except Fault Json
  | .null => .ok .null
  | .bool b => .ok (.bool b)
  | .number n => .ok (.num n)
  | .text s => .ok (.str s)
  | .array items closed =>
    match mode.enter with
    | .error f => .error f
    | .ok inner =>
      match jsonItems inner items with
      | .error f => .error f
      | .ok js => if closed then .ok (.arr js) else .error .malformed
  | .object members closed =>
    match mode.enter with
    | .error f => .error f
    | .ok inner =>
      match jsonMembers inner members with
      | .error f => .error f
      | .ok ms => if closed then .ok (.object ms) else .error .malformed
  | .fault | .excessive _ | .garbled _ => .error .malformed

/-- The items of an array. -/
def jsonItems (mode : Mode) : List Tree → Except Fault (List Json)
  | [] => .ok []
  | t :: rest =>
    match json mode t with
    | .error f => .error f
    | .ok j =>
      match jsonItems mode rest with
      | .error f => .error f
      | .ok js => .ok (j :: js)

/-- The members of an object, in the order in which they stand. -/
def jsonMembers (mode : Mode) : List (Option String × Tree) → Except Fault (List (String × Json))
  | [] => .ok []
  | (none, _) :: _ => .error .malformed
  | (some k, t) :: rest =>
    match json mode t with
    | .error f => .error f
    | .ok j =>
      match jsonMembers mode rest with
      | .error f => .error f
      | .ok ms => .ok ((k, j) :: ms)

end

/-- One of several named constants, written as its name or as an object with that name and
`null`. -/
def named {α : Type} (parse : String → Option α) : Decoder α
  | _, .text s =>
    match parse s with
    | some a => .ok a
    | none => .error .mismatch
  | mode, .object members closed => do
    let _ ← mode.enter
    match members with
    | [] => .error .malformed
    | (none, _) :: _ => .error .malformed
    | (some k, t) :: rest =>
      match parse k with
      | none => .error .mismatch
      | some a =>
        match t with
        | .null =>
          if rest.isEmpty && closed then .ok a
          else if mode.buffered then .error .mismatch else .error .malformed
        | t => refuse t
  | mode, t => if mode.buffered then refuse t else .error .malformed

/-- Whatever a decoder finds, only its fault matters. -/
def check {α : Type} (d : Decoder α) : Decoder Unit :=
  fun mode t => (d mode t).map fun _ => ()

/-- One field of a record. -/
structure Field where
  /-- The name of the field's member. -/
  name : String
  /-- What the field's value has to satisfy. -/
  check : Decoder Unit
  /-- Whether the field may be missing at the end of the array form. -/
  trailing : Bool

/-- A field that the array form always has. -/
def Field.always {α : Type} (name : String) (d : Decoder α) : Field :=
  ⟨name, d.check, false⟩

/-- A field with a default, which the array form may leave out at its end. -/
def Field.atEnd {α : Type} (name : String) (d : Decoder α) : Field :=
  ⟨name, d.check, true⟩

/-- Check the members of a record from left to right: unknown ones only have to be JSON, a known
one must not come twice. -/
def checkMembers (fields : List Field) (mode : Mode) (seen : List String) :
    List (Option String × Tree) → Except Fault Unit
  | [] => .ok ()
  | (none, _) :: _ => .error .malformed
  | (some k, t) :: rest =>
    match fields.find? fun f => f.name == k with
    | none => if t.wellFormed then checkMembers fields mode seen rest else .error .malformed
    | some f =>
      if seen.contains k then .error .mismatch
      else
        match f.check mode t with
        | .error e => .error e
        | .ok () => checkMembers fields mode (k :: seen) rest

/-- Check the items of a record's array form against its fields. -/
def checkItems (mode : Mode) (closed : Bool) : List Field → List Tree → Except Fault Unit
  | [], [] => if closed then .ok () else .error .malformed
  | [], _ :: _ => if mode.buffered then .error .mismatch else .error .malformed
  | f :: fields, [] =>
    if ¬ closed then .error .malformed
    else if f.trailing then checkItems mode closed fields [] else .error .mismatch
  | f :: fields, t :: rest =>
    match f.check mode t with
    | .error e => .error e
    | .ok () => checkItems mode closed fields rest

/-- Look up the value of a field by name. -/
abbrev Lookup := String → Option Tree

/-- A record with the given fields. All fields are checked in the order of the text, then `build`
collects their values. -/
def record {α : Type} (fields : List Field) (build : Mode → Lookup → Except Fault α) : Decoder α
  | mode, .object members closed => do
    let inner ← mode.enter
    checkMembers fields inner [] members
    if ¬ closed then .error .malformed
    else build inner fun name => members.lookup (some name)
  | mode, .array items closed => do
    let inner ← mode.enter
    checkItems inner closed fields items
    build inner fun name => ((fields.map Field.name).zip items).lookup name
  | _, t => refuse t

/-- The value of a field that has to be there. -/
def required {α : Type} (mode : Mode) (get : Lookup) (name : String) (d : Decoder α) :
    Except Fault α :=
  match get name with
  | some t => d mode t
  | none => .error .mismatch

/-- The value of a field that may be absent or `null`. -/
def optional {α : Type} (mode : Mode) (get : Lookup) (name : String) (d : Decoder α) :
    Except Fault (Option α) :=
  match get name with
  | some t => option d mode t
  | none => .ok none

/-- The value of a field that has a default. -/
def defaulted {α : Type} (mode : Mode) (get : Lookup) (name : String) (default : α)
    (d : Decoder α) : Except Fault α :=
  match get name with
  | some t => d mode t
  | none => .ok default

end Decoder

/-- Decode the value at the front of some bytes, whatever follows it. -/
def decodeLeading {α : Type} (d : Decoder α) (bytes : List UInt8) : Except Fault α :=
  d .streaming (Reader.read bytes).1

/-- Decode bytes that hold one value and nothing else. -/
def decodeBytes {α : Type} (d : Decoder α) (bytes : List UInt8) : Except Fault α :=
  match Reader.read bytes with
  | (t, tail) =>
    match d .streaming t with
    | .error f => .error f
    | .ok a =>
      match tail.map Reader.skip with
      | some [] => .ok a
      | _ => .error .malformed

/-- Decode a text that holds one value and nothing else. -/
def decode {α : Type} (d : Decoder α) (s : String) : Except Fault α :=
  decodeBytes d (Utf8.encode s.toList)

/-- Decode a value that is already in memory. -/
def decodeValue {α : Type} (d : Decoder α) (j : Json) : Except Fault α :=
  d .inMemory (Tree.ofJson j)

/-- The value of a JSON text. -/
def parse? (s : String) : Option Json :=
  (decode Decoder.json s).toOption

end Geofencing.Json
