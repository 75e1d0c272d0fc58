import Geofencing.Json.Decode

/-!
# Attempts at decoding

An entry that is not of its kind need not spoil the whole text. When an attempt at reading it fails,
reading goes on where the attempt stopped, and that is all right only if it stopped right after the
entry. An array or object that is left because of one of its items is closed if its end follows.
-/

namespace Geofencing.Json.Decoder

mutual

/-- Attempt to read any value: `none` if there is none, but the reader stands right after it. -/
def attempt (mode : Mode) : Tree → Except Fault (Option Json)
  | .null => .ok (some .null)
  | .bool b => .ok (some (.bool b))
  | .number n => .ok (some (.num n))
  | .text s => .ok (some (.str s))
  | .excessive ended | .garbled ended => if ended then .ok none else .error .malformed
  | .array items closed =>
    match mode.enter with
    | .error f => .error f
    | .ok inner =>
      match attemptItems inner items with
      | .error f => .error f
      | .ok js => if closed then .ok (js.map .arr) else .error .malformed
  | .object members closed =>
    match mode.enter with
    | .error f => .error f
    | .ok inner =>
      match attemptMembers inner members with
      | .error f => .error f
      | .ok ms => if closed then .ok (ms.map .object) else .error .malformed
  | .fault => .error .malformed

/-- Attempt to read the items of an array. -/
def attemptItems (mode : Mode) : List Tree → Except Fault (Option (List Json))
  | [] => .ok (some [])
  | t :: rest =>
    match attempt mode t with
    | .error f => .error f
    | .ok none => if rest.isEmpty then .ok none else .error .malformed
    | .ok (some j) => (attemptItems mode rest).map fun js => js.map (j :: ·)

/-- Attempt to read the members of an object. -/
def attemptMembers (mode : Mode) :
    List (Option String × Tree) → Except Fault (Option (List (String × Json)))
  | [] => .ok (some [])
  | (none, _) :: _ => .error .malformed
  | (some k, t) :: rest =>
    match attempt mode t with
    | .error f => .error f
    | .ok none => if rest.isEmpty then .ok none else .error .malformed
    | .ok (some j) => (attemptMembers mode rest).map fun ms => ms.map ((k, j) :: ·)

end

/-- Attempt to read a number and pass on whatever stands there. An array or object is left at its
opening bracket, so only an empty one is passed. -/
def passNumber : Decoder Unit
  | _, .array items closed => if items.isEmpty && closed then .ok () else .error .malformed
  | _, .object members closed => if members.isEmpty && closed then .ok () else .error .malformed
  | mode, t => (attempt mode t).map fun _ => ()

end Geofencing.Json.Decoder
