import Geofencing.Instant.Calendar
import Geofencing.Text
import Geofencing.Token.Base64

/-!
# Tagged encoding of keys

Keys are kept as values with a tag, a length and a content each. This reading is generous about
lengths and about which values are made up of others, but the contents of the common kinds of values
have to be right, and a sequence or set has to have items.
-/

namespace Geofencing.Der

open Base64 (Bytes)

/-- An encoded value, as far as keys are concerned. -/
inductive Value where
  /-- A sequence of values. -/
  | sequence (items : List Value)
  /-- The bits of a bit string, without the count of unused ones. -/
  | bitString (content : Bytes)
  /-- A string of bytes. -/
  | octetString (content : Bytes)
  /-- An object identifier. -/
  | identifier (arcs : List Nat)
  /-- Anything else. -/
  | other

/-- The number that big-endian bytes make up. -/
def number (bytes : Bytes) : Nat :=
  bytes.foldl (fun acc b => acc * 256 + b.toNat) 0

/-- Numbers in groups of seven bits, of which all but the last group of a number have the high bit
set; `begun` is the front of the first number, if there is one already. -/
def septetNumbers? (begun : Option Nat) : Bytes → Option (List Nat)
  | [] => if begun.isNone then some [] else none
  | b :: rest =>
    let n := begun.getD 0 * 128 + b.toNat % 128
    if b.toNat < 128 then (septetNumbers? none rest).map (n :: ·) else septetNumbers? (some n) rest

/-- The first number in groups of seven bits, after the front `acc`, and what follows it. -/
def septetNumber? (acc : Nat) : Bytes → Option (Nat × Bytes)
  | [] => none
  | b :: rest =>
    let n := acc * 128 + b.toNat % 128
    if b.toNat < 128 then some (n, rest) else septetNumber? n rest

/-- The arcs of an object identifier; its first byte stands for two of them. -/
def arcs? : Bytes → Option (List Nat)
  | [] => none
  | b :: rest =>
    let first := min (b.toNat / 40) 2
    (septetNumbers? none rest).map fun arcs => first :: (b.toNat - 40 * first) :: arcs

/-- A tag. -/
structure Tag where
  /-- Whether the tag is one of those that mean the same everywhere. -/
  universal : Bool
  /-- The number. -/
  number : Nat

/-- A tag, and what follows it. -/
def tag? : Bytes → Option (Tag × Bytes)
  | [] => none
  | b :: rest =>
    let universal := b.toNat < 64
    if b.toNat % 32 = 31 then (septetNumber? 0 rest).map fun (n, rest) => (⟨universal, n⟩, rest)
    else some (⟨universal, b.toNat % 32⟩, rest)

/-- A length of at most eight bytes, and what follows it. -/
def length? : Bytes → Option (Nat × Bytes)
  | [] => none
  | b :: rest =>
    if b.toNat < 128 then some (b.toNat, rest)
    else
      let count := b.toNat - 128
      if 8 < count ∨ rest.length < count then none
      else some (number (rest.take count), rest.drop count)

/-- Tag and content of the first value, and what follows it. -/
def first? (bytes : Bytes) : Option (Tag × Bytes × Bytes) := do
  let (tag, rest) ← tag? bytes
  let (n, body) ← length? rest
  if body.length < n then none else some (tag, body.take n, body.drop n)

/-- Whether a byte is a decimal digit. -/
def isDigit (b : UInt8) : Bool := 48 ≤ b && b ≤ 57

/-- The number that decimal digits spell. -/
def decimal (digits : Bytes) : Nat :=
  digits.foldl (fun acc b => acc * 10 + (b.toNat - 48)) 0

/-- Whether fourteen digits are a date and a time of day; `before` if the year has a minus sign. -/
def isClockReading (before : Bool) (digits : Bytes) : Bool :=
  let part (start length : Nat) : Nat := decimal ((digits.drop start).take length)
  let year : Int := if before then -(part 0 4 : Int) else part 0 4
  digits.length == 14 && digits.all isDigit && Date.exists? ⟨year, part 4 2, part 6 2⟩ &&
    part 8 2 < 24 && part 10 2 < 60 && part 12 2 < 60

/-- Whether a content is a time with a year of two digits, which lies between 1950 and 2049. -/
def isShortTime (content : Bytes) : Bool :=
  let century : Bytes := if content.headD 0 < 53 then [50, 48] else [49, 57]
  content.drop 12 == [90] && isClockReading false (century ++ content.take 12)

/-- The most digits that a fraction of a second has. -/
def maxFraction : Nat := 32

/-- Whether a content is a time with a year of four digits and possibly a fraction. The year may
have a sign if there is a point after the seconds, which may be left out otherwise. -/
def isLongTime (content : Bytes) : Bool :=
  let before := content.head? == some 45
  let signed := before || content.head? == some 43
  let reading := if signed then content.drop 1 else content
  let rest := reading.drop 14
  let pointed := rest.head? == some 46
  let fraction := if pointed then rest.drop 1 else rest
  (pointed || !signed) && fraction.dropWhile isDigit == [90] &&
    fraction.length ≤ maxFraction + 1 && isClockReading before (reading.take 14)

/-- Whether a byte may stand in a printable string. -/
def isPrintable (b : UInt8) : Bool :=
  let c := Char.ofNat b.toNat
  c.isAlphanum || " '()+,-./:=?".toList.contains c

/-- The value with a given universal tag and content, unless it has items. -/
def leaf? (tag : Nat) (content : Bytes) : Option Value :=
  let checked (good : Bool) : Option Value := if good then some .other else none
  match tag with
  | 1 => checked (content.length == 1)
  | 3 =>
    match content with
    | [] => some (.bitString [])
    | unused :: bits => if bits.length * 8 < unused.toNat then none else some (.bitString bits)
  | 4 => some (.octetString content)
  | 6 => (arcs? content).map .identifier
  | 12 | 20 | 28 | 30 => checked (Utf8.decode? content).isSome
  | 19 => checked (content.all isPrintable)
  | 23 => checked (isShortTime content)
  | 24 => checked (isLongTime content)
  | _ => some .other

/-- All values that bytes encode; `fuel` bounds their number and nesting. -/
def values? : (fuel : Nat) → Bytes → Option (List Value)
  | 0, _ => none
  | _ + 1, [] => some []
  | fuel + 1, bytes => do
    let (tag, content, rest) ← first? bytes
    let v ←
      if !tag.universal then some .other
      else if tag.number = 16 ∨ tag.number = 17 then do
        let items ← values? fuel content
        if items.isEmpty then none
        else some (if tag.number = 16 then .sequence items else .other)
      else leaf? tag.number content
    return v :: (← values? fuel rest)

/-- All values that bytes encode; there has to be one at least. -/
def parse? (bytes : Bytes) : Option (List Value) :=
  (values? (bytes.length + 1) bytes).filter fun vs => !vs.isEmpty

mutual

/-- The first bit or byte string within a value. -/
def Value.firstString? : Value → Option Bytes
  | .sequence items => firstStringOf? items
  | .bitString content | .octetString content => some content
  | _ => none

/-- The first bit or byte string within values. -/
def firstStringOf? : List Value → Option Bytes
  | [] => none
  | v :: rest =>
    match v.firstString? with
    | some b => some b
    | none => firstStringOf? rest

end

mutual

/-- The first object identifier within a value that is one of those given. -/
def Value.firstAmong? (known : List (List Nat)) : Value → Option (List Nat)
  | .sequence items => firstAmongOf? known items
  | .identifier arcs => if known.contains arcs then some arcs else none
  | _ => none

/-- The first object identifier within values that is one of those given. -/
def firstAmongOf? (known : List (List Nat)) : List Value → Option (List Nat)
  | [] => none
  | v :: rest =>
    match v.firstAmong? known with
    | some b => some b
    | none => firstAmongOf? known rest

end

end Geofencing.Der
