/-!
# Base64

Three bytes are written as four symbols of six bits each. The URL alphabet comes without padding,
the standard alphabet with it. Only canonical texts are read: bits that fall out must be zero.
-/

namespace Geofencing.Base64

/-- Bytes, as a list. -/
abbrev Bytes := List UInt8

/-- The numbers of six bits that make up bytes. -/
def sextets : List Nat → List Nat
  | a :: b :: c :: rest =>
    a / 4 :: (a % 4 * 16 + b / 16) :: (b % 16 * 4 + c / 64) :: (c % 64) :: sextets rest
  | [a, b] => [a / 4, a % 4 * 16 + b / 16, b % 16 * 4]
  | [a] => [a / 4, a % 4 * 16]
  | [] => []

/-- The bytes that numbers of six bits make up. -/
def octets : List Nat → Option (List Nat)
  | p :: q :: r :: s :: rest =>
    (octets rest).map fun tail => (p * 4 + q / 16) :: (q % 16 * 16 + r / 4) :: (r % 4 * 64 + s) :: tail
  | [p, q, r] => if r % 4 = 0 then some [p * 4 + q / 16, q % 16 * 16 + r / 4] else none
  | [p, q] => if q % 16 = 0 then some [p * 4 + q / 16] else none
  | [_] => none
  | [] => some []

/-- The two characters that differ between alphabets, for 62 and 63. -/
structure Alphabet where
  /-- The symbol for 62. -/
  plus : Char
  /-- The symbol for 63. -/
  slash : Char

/-- The alphabet that is safe in URLs. -/
def Alphabet.url : Alphabet := ⟨'-', '_'⟩

/-- The standard alphabet. -/
def Alphabet.standard : Alphabet := ⟨'+', '/'⟩

/-- The symbol of a number below 64. -/
def Alphabet.symbol (a : Alphabet) (n : Nat) : Char :=
  if n < 26 then Char.ofNat ('A'.toNat + n)
  else if n < 52 then Char.ofNat ('a'.toNat + (n - 26))
  else if n < 62 then Char.ofNat ('0'.toNat + (n - 52))
  else if n = 62 then a.plus
  else a.slash

/-- The number of a symbol. -/
def Alphabet.number? (a : Alphabet) (c : Char) : Option Nat :=
  if 'A' ≤ c ∧ c ≤ 'Z' then some (c.toNat - 'A'.toNat)
  else if 'a' ≤ c ∧ c ≤ 'z' then some (c.toNat - 'a'.toNat + 26)
  else if '0' ≤ c ∧ c ≤ '9' then some (c.toNat - '0'.toNat + 52)
  else if c = a.plus then some 62
  else if c = a.slash then some 63
  else none

/-- The numbers of symbols, if all are symbols. -/
def Alphabet.numbers? (a : Alphabet) : List Char → Option (List Nat)
  | [] => some []
  | c :: rest =>
    match a.number? c with
    | some n => (a.numbers? rest).map (n :: ·)
    | none => none

/-- Bytes in the URL alphabet, without padding. -/
def encode (bytes : Bytes) : List Char :=
  (sextets (bytes.map UInt8.toNat)).map Alphabet.url.symbol

/-- The bytes of a text in a given alphabet, without padding. -/
def decodeWith (a : Alphabet) (cs : List Char) : Option Bytes :=
  ((a.numbers? cs).bind octets).map fun ns => ns.map UInt8.ofNat

/-- The bytes of a text in the URL alphabet, without padding. -/
def decode (cs : List Char) : Option Bytes :=
  decodeWith .url cs

/-- The bytes of a text in the standard alphabet, padded to a multiple of four symbols. -/
def decodePadded (cs : List Char) : Option Bytes :=
  let symbols := cs.takeWhile (· != '=')
  let padding := cs.length - symbols.length
  if cs.length % 4 = 0 ∧ padding ≤ 2 ∧ cs.drop symbols.length = List.replicate padding '=' then
    decodeWith .standard symbols
  else none

end Geofencing.Base64
