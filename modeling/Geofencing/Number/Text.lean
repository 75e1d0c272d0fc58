import Geofencing.Number.Decimal
import Geofencing.Number.Integer

/-!
# Texts of numbers

Three ways in which numbers are written: plainly in messages, as JSON numerals, and as distances
with three decimals.
-/

namespace Geofencing

namespace Decimal

/-- `n` zeros. -/
def zeros (n : Nat) : String :=
  String.ofList (List.replicate n '0')

/-- Positional text of a decimal, without a point when it is integral. -/
def positional (d : Decimal) : String :=
  let text := toString d.digits
  if 0 ≤ d.exponent then text ++ zeros d.exponent.toNat
  else
    let places := d.exponent.natAbs
    if text.length ≤ places then "0." ++ zeros (places - text.length) ++ text
    else
      let cs := text.toList
      String.ofList (cs.take (cs.length - places)) ++ "." ++
        String.ofList (cs.drop (cs.length - places))

/-- Scientific text of a decimal: one digit before the point, and no sign on a positive exponent. -/
def scientific (d : Decimal) : String :=
  let cs := (toString d.digits).toList
  let exponent := d.exponent + ((cs.length : Int) - 1)
  let lead := String.ofList (cs.take 1)
  let tail := String.ofList (cs.drop 1)
  (if tail.isEmpty then lead else lead ++ "." ++ tail) ++ "e" ++ toString exponent

/-- Text of a decimal as a JSON numeral that shows it is no integer type: positional when the point
falls within sixteen places after the first digit or five before it, else scientific. -/
def numeral (d : Decimal) : String :=
  let point := d.exponent + ((toString d.digits).length : Int)
  if d.digits = 0 then "0.0"
  else if -5 < point ∧ point ≤ 16 then
    if 0 ≤ d.exponent then d.positional ++ ".0" else d.positional
  else d.scientific

end Decimal

namespace Binary64

/-- Write a number through its shortest decimal; `finite` writes the decimal, infinities are `inf`
and a number that is none is `NaN`. -/
def render (finite : Decimal → String) (x : Float) : String :=
  let p := parts x
  match p.magnitude? with
  | some m => (if p.negative then "-" else "") ++ finite (Decimal.shortest m)
  | none => if p.fraction ≠ 0 then "NaN" else if p.negative then "-inf" else "inf"

/-- The text used in messages: fewest digits, never an exponent. -/
def plain (x : Float) : String :=
  render Decimal.positional x

/-- The text of a finite number in JSON. -/
def numeral (x : Float) : String :=
  render Decimal.numeral x

/-- The quotient rounded to the nearest integer, a half to the even one. -/
def roundDiv (num den : Nat) : Nat :=
  let q := num / den
  let r := num % den
  if 2 * r > den || (2 * r == den && q % 2 == 1) then q + 1 else q

/-- The exact value rounded to three decimals. -/
def thousandths (x : Float) : String :=
  let p := parts x
  match p.magnitude? with
  | some m =>
    let n := roundDiv (m.units * 1000) (twoTo 1074)
    let tail := toString (n % 1000)
    (if p.negative then "-" else "") ++ toString (n / 1000) ++ "." ++
      Decimal.zeros (3 - tail.length) ++ tail
  | none => if p.fraction ≠ 0 then "NaN" else if p.negative then "-inf" else "inf"

end Binary64

end Geofencing
