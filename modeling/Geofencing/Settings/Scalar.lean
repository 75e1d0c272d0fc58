import Geofencing.Json.Value
import Geofencing.Number.Integer
import Geofencing.Text

/-!
# Single settings

A setting may be written in more than one way: numbers and truth values as text, truth values as
numbers, numbers with a fraction where a whole one is asked for. Nothing stands for a missing
setting but its absence.
-/

namespace Geofencing.Settings

/-- The nearest integer, a half away from zero; infinities and NaN have none. -/
def roundAway? (x : Float) : Option Int :=
  let p := Binary64.parts x
  p.magnitude?.map fun m =>
    let n : Int := ((2 * m.units + twoTo 1074) / twoTo 1075 : Nat)
    if p.negative then -n else n

/-- A number of a setting: an integer that does not fit signed 64 bits counts as a binary64
number. -/
def narrow : Number → Number
  | .int n => if Width.int64Min ≤ n ∧ n ≤ Width.int64Max then .int n else .float (Number.int n).toFloat
  | .float x => .float x

/-- The truth value that a word stands for. -/
def word? (s : String) : Option Bool :=
  let s := Text.inSmall s
  if s = "true" ∨ s = "on" ∨ s = "yes" then some true
  else if s = "false" ∨ s = "off" ∨ s = "no" then some false
  else none

/-- A whole number between bounds. Words for truth values count as one and zero, and a number with
a fraction is rounded and brought within the bounds. -/
def whole (lo hi : Int) : Json → Option Int
  | .num n =>
    match narrow n with
    | .int i => if lo ≤ i ∧ i ≤ hi then some i else none
    | .float x => (roundAway? x).map fun i => max lo (min hi i)
  | .bool b => some (if b then 1 else 0)
  | .str s =>
    match word? s with
    | some b => some (if b then 1 else 0)
    | none => Integer.read? lo hi s.toList
  | _ => none

/-- A whole number of signed 64 bits. -/
def signed64 : Json → Option Int :=
  whole Width.int64Min Width.int64Max

/-- A whole number of so many bits, without sign. It is read with 64 bits first, so a fraction is
never brought down to a smaller bound. -/
def unsigned (bits : Nat) (j : Json) : Option Nat :=
  ((whole 0 Width.nat64Max j).map Int.toNat).filter fun n => n < twoTo bits

/-- A text. -/
def text : Json → Option String
  | .str s => some s
  | .bool b => some (if b then "true" else "false")
  | .num n =>
    match narrow n with
    | .int i => some (toString i)
    | .float x => some (Binary64.plain x)
  | _ => none

/-- A list of texts. -/
def texts : Json → Option (List String)
  | .arr items => items.mapM text
  | _ => none

/-- One of several names, in any case: a text, or a table with that one entry. -/
def choice {α : Type} (names : List (String × α)) : Json → Option α
  | .str s => names.lookup (Text.inSmall s)
  | .obj [(s, _)] => names.lookup (Text.inSmall s)
  | _ => none

end Geofencing.Settings
