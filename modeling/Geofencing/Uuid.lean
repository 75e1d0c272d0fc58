import Geofencing.Json.Decode
import Geofencing.Number.Integer

/-!
# Universally unique identifiers

An identifier is a number of 128 bits. It is written as five groups of hexadecimal digits joined by
hyphens, and also read without hyphens, in braces, or as a URN.
-/

namespace Geofencing

/-- An identifier of 128 bits. -/
structure Uuid where
  /-- The identifier as a number. -/
  value : Nat
  /-- The number has at most 128 bits. -/
  value_lt : value < twoTo 128
  deriving DecidableEq, Repr

namespace Uuid

/-- The identifier whose bits are all zero. -/
def nil : Uuid := ⟨0, by decide⟩

/-- The identifier made of the lowest 128 bits of a number. -/
def ofNat (n : Nat) : Uuid := ⟨n % twoTo 128, Nat.mod_lt n (by decide)⟩

/-- Whether one identifier comes before another, as numbers do. -/
def le (a b : Uuid) : Bool := a.value ≤ b.value

/-- The five groups of digits joined by hyphens. -/
def chars (u : Uuid) : List Char :=
  let ds := Hex.digits 32 u.value
  ds.take 8 ++ '-' :: ((ds.drop 8).take 4 ++ '-' :: ((ds.drop 12).take 4 ++ '-' ::
    ((ds.drop 16).take 4 ++ '-' :: ds.drop 20)))

/-- The written form: lower case with hyphens. -/
def toText (u : Uuid) : String :=
  String.ofList u.chars

/-- Thirty-two digits. -/
def ofSimple? (cs : List Char) : Option Uuid :=
  if cs.length = 32 then (Hex.read cs).map ofNat else none

/-- Five groups of 8, 4, 4, 4 and 12 digits, joined by hyphens. -/
def ofHyphenated? (cs : List Char) : Option Uuid :=
  if cs.length = 36 ∧ cs[8]? = some '-' ∧ cs[13]? = some '-' ∧ cs[18]? = some '-' ∧
      cs[23]? = some '-' then
    ofSimple? (cs.take 8 ++ ((cs.drop 9).take 4 ++ ((cs.drop 14).take 4 ++
      ((cs.drop 19).take 4 ++ cs.drop 24))))
  else none

/-- What stands in front of an identifier in a URN. -/
def urn : List Char := "urn:uuid:".toList

/-- Read an identifier in any of its four forms. -/
def ofChars? (cs : List Char) : Option Uuid :=
  if cs.length = 32 then ofSimple? cs
  else if cs.length = 36 then ofHyphenated? cs
  else if cs.length = 38 ∧ cs.head? = some '\x7b' ∧ cs.getLast? = some '\x7d' then
    ofHyphenated? ((cs.drop 1).take 36)
  else if cs.length = 45 ∧ (cs.take 9).map Char.toLower = urn then ofHyphenated? (cs.drop 9)
  else none

/-- Read an identifier in any of its four forms. -/
def parse? (s : String) : Option Uuid :=
  ofChars? s.toList

/-- An identifier in JSON. -/
def toJson (u : Uuid) : Json := .str u.toText

/-- Decode an identifier. -/
def decoder : Json.Decoder Uuid := Json.Decoder.parsed parse?

end Uuid

end Geofencing
