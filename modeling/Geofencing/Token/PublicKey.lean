import Geofencing.Token.Der
import Geofencing.Token.Pem
import Geofencing.Token.Sha256

/-!
# RSA public keys

A key is given as a block of text, and checks signatures over SHA-256 digests. Whether the block can
be a key is found out when it is read; whether the key itself is sound, with every signature.
-/

namespace Geofencing

open Base64 (Bytes)

/-- The bytes of an RSA key, as they were given. -/
structure PublicKey where
  /-- The encoded modulus and exponent. -/
  encoded : Bytes
  deriving DecidableEq

namespace PublicKey

/-- The object identifier of RSA keys. -/
def rsaIdentifier : List Nat := [1, 2, 840, 113549, 1, 1, 1]

/-- The object identifier of keys on elliptic curves. -/
def ecIdentifier : List Nat := [1, 2, 840, 10045, 2, 1]

/-- The object identifier of Edwards curve keys. -/
def edIdentifier : List Nat := [1, 3, 101, 112]

/-- The key in a block of text. A plain RSA key is taken as it is; a key that names its algorithm
has to name RSA. -/
def ofText? (text : String) : Option PublicKey := do
  let block ← Pem.parse? text
  let values ← Der.parse? block.content
  if ["RSA PUBLIC KEY", "RSA PRIVATE KEY"].contains block.label then some ⟨block.content⟩
  else if ["PUBLIC KEY", "PRIVATE KEY", "CERTIFICATE"].contains block.label then
    if Der.firstAmongOf? [rsaIdentifier, ecIdentifier, edIdentifier] values = some rsaIdentifier then
      (Der.firstStringOf? values).map PublicKey.mk
    else none
  else none

/-- A length in its shortest form and below `2 ^ 16`, and what follows it. -/
def length? : Bytes → Option (Nat × Bytes)
  | [] => none
  | b :: rest =>
    if b < 0x80 then some (b.toNat, rest)
    else
      match b, rest with
      | 0x81, c :: rest => if c < 0x80 then none else some (c.toNat, rest)
      | 0x82, c :: d :: rest =>
        let n := Der.number [c, d]
        if n < 256 then none else some (n, rest)
      | _, _ => none

/-- The content of a value with a given tag, and what follows it. -/
def content? (tag : UInt8) : Bytes → Option (Bytes × Bytes)
  | [] => none
  | b :: rest => do
    let (n, body) ← length? rest
    if b ≠ tag ∨ body.length < n then none else some (body.take n, body.drop n)

/-- The bytes of a positive integer, without the zero that tells it from a negative one. No other
zero may stand in front. -/
def positive? : Bytes → Option Bytes
  | [] => none
  | 0 :: b :: rest => if b < 0x80 then none else some (b :: rest)
  | b :: rest => if b = 0 ∨ 0x80 ≤ b then none else some (b :: rest)

/-- How many bytes a modulus takes up. -/
def modulusLength (n : Nat) : Nat := (n.log2 + 8) / 8

/-- Modulus and exponent of a key, if it is encoded strictly and strong enough: a modulus of 256
bytes at least and 8192 bits at most, and an odd exponent from 3 to `2 ^ 33 - 1`. -/
def numbers? (k : PublicKey) : Option (Nat × Nat) := do
  let (body, behind) ← content? 0x30 k.encoded
  let (n, rest) ← content? 0x02 body
  let (e, surplus) ← content? 0x02 rest
  let n := Der.number (← positive? n)
  let e := Der.number (← positive? e)
  if behind = [] ∧ surplus = [] ∧ 256 ≤ modulusLength n ∧ n.log2 < 8192 ∧ n % 2 = 1 ∧ 3 ≤ e ∧
      e < 8589934592 ∧ e % 2 = 1 then
    some (n, e)
  else none

/-- The remainder of `base ^ exponent`, by repeated squaring; `bits` bounds the exponent's
length. -/
def powMod (modulus : Nat) : (bits base exponent : Nat) → Nat
  | 0, _, _ => 1 % modulus
  | bits + 1, base, exponent =>
    let half := powMod modulus bits (base * base % modulus) (exponent / 2)
    if exponent % 2 = 1 then base * half % modulus else half

/-- What stands before a SHA-256 digest inside a signature. -/
def digestHeader : Bytes :=
  [0x30, 0x31, 0x30, 0x0d, 0x06, 0x09, 0x60, 0x86, 0x48, 0x01, 0x65, 0x03, 0x04, 0x02, 0x01, 0x05,
   0x00, 0x04, 0x20]

/-- The padded digest of a message, as long as the modulus. -/
def padded (length : Nat) (message : Bytes) : Bytes :=
  let tail := digestHeader ++ Sha256.digest message
  0 :: 1 :: (List.replicate (length - tail.length - 3) 0xff ++ 0 :: tail)

/-- Whether a signature belongs to a message under a key. -/
def verify (k : PublicKey) (message signature : Bytes) : Bool :=
  match k.numbers? with
  | none => false
  | some (n, e) =>
    let length := modulusLength n
    let s := Der.number signature
    signature.length == length && s < n &&
      powMod n 33 s e == Der.number (padded length message)

end PublicKey

end Geofencing
