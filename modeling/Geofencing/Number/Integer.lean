/-!
# Integers

Powers and the bounds of integers of fixed width, and integers as text: decimal with an optional
sign, as they stand in settings and queries, and hexadecimal with a fixed count of digits.
-/

namespace Geofencing

/-! ## Powers and widths -/

/-- The power of two with a given exponent. -/
abbrev twoTo (n : Nat) : Nat := Nat.pow 2 n

/-- The power of ten with a given exponent. -/
abbrev tenTo (n : Nat) : Nat := Nat.pow 10 n

namespace Width

/-- The least integer of 32 bits with a sign. -/
def int32Min : Int := -2147483648

/-- The greatest integer of 32 bits with a sign. -/
def int32Max : Int := 2147483647

/-- The least integer of 64 bits with a sign. -/
def int64Min : Int := -9223372036854775808

/-- The greatest integer of 64 bits with a sign. -/
def int64Max : Int := 9223372036854775807

/-- The greatest integer of 64 bits without a sign. -/
def nat64Max : Nat := 18446744073709551615

end Width

/-! ## Decimal text -/

namespace Integer

/-- The number that digits spell after an accumulated front part. -/
def digitsFrom (acc : Nat) : List Char → Option Nat
  | [] => some acc
  | c :: rest => if c.isDigit then digitsFrom (acc * 10 + (c.toNat - 48)) rest else none

/-- The number that digits spell; there has to be one digit at least. -/
def digits? (cs : List Char) : Option Nat :=
  if cs.isEmpty then none else digitsFrom 0 cs

/-- The integer between bounds that characters spell. A plus sign may always stand in front, a minus
sign only where negative integers are among the bounds. -/
def read? (lo hi : Int) (cs : List Char) : Option Int :=
  let value := match cs with
    | '+' :: rest => (digits? rest).map Int.ofNat
    | '-' :: rest => if lo < 0 then (digits? rest).map fun n => -(n : Int) else none
    | cs => (digits? cs).map Int.ofNat
  value.filter fun n => lo ≤ n ∧ n ≤ hi

end Integer

/-! ## Hexadecimal text -/

namespace Hex

/-- The value of a hexadecimal digit, in either case. -/
def digit? (c : Char) : Option Nat :=
  if '0' ≤ c ∧ c ≤ '9' then some (c.toNat - '0'.toNat)
  else if 'a' ≤ c ∧ c ≤ 'f' then some (c.toNat - 'a'.toNat + 10)
  else if 'A' ≤ c ∧ c ≤ 'F' then some (c.toNat - 'A'.toNat + 10)
  else none

/-- Reading a digit that was written gives its value. -/
theorem digit?_digitChar : ∀ d < 16, digit? (Nat.digitChar d) = some d := by
  decide

/-- The lowest `count` hexadecimal digits of a number, most significant first. -/
def digits : (count : Nat) → Nat → List Char
  | 0, _ => []
  | count + 1, n => digits count (n / 16) ++ [Nat.digitChar (n % 16)]

/-- The number that hexadecimal digits spell after an accumulated front part. -/
def readFrom : (acc : Nat) → List Char → Option Nat
  | acc, [] => some acc
  | acc, c :: rest =>
    match digit? c with
    | some d => readFrom (acc * 16 + d) rest
    | none => none

/-- The number that hexadecimal digits spell. -/
def read (cs : List Char) : Option Nat :=
  readFrom 0 cs

end Hex

end Geofencing
