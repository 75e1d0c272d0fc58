import Geofencing.Json.Decode

/-!
# Headers of tokens

The header of a token names the algorithm of its signature. It may also describe the key, and such a
description has to be right although it is not used.
-/

namespace Geofencing

/-- The algorithms that a token header may name. -/
inductive Algorithm where
  /-- Keyed digest with SHA-256. -/
  | hs256
  /-- RSA signature with SHA-256. -/
  | rs256
  /-- Any other known algorithm. -/
  | other
  deriving DecidableEq, Repr

/-- The algorithm with a given name. -/
def Algorithm.parse? (s : String) : Option Algorithm :=
  if s = "HS256" then some .hs256
  else if s = "RS256" then some .rs256
  else if ["HS384", "HS512", "ES256", "ES384", "RS384", "RS512", "PS256", "PS384", "PS512",
      "EdDSA"].contains s then some .other
  else none

namespace Token

open Json.Decoder

/-- A list of texts. -/
def strings : Json.Decoder (List String)
  | mode, t =>
    match t with
    | .array _ _ =>
      match json mode t with
      | .error f => .error f
      | .ok (.arr items) =>
        match items.mapM Json.str? with
        | some ss => .ok ss
        | none => .error .mismatch
      | .ok _ => .error .mismatch
    | t => refuse t

/-- One of several names. -/
def oneOf (names : List String) : Json.Decoder Unit :=
  named fun s => if names.contains s then some () else none

namespace Jwk

/-- Whether a name is that of an algorithm that a key may be meant for: one of signatures, or one of
some of encryption. -/
def known? (s : String) : Option Unit :=
  if (Algorithm.parse? s).isSome || ["RSA1_5", "RSA-OAEP", "RSA-OAEP-256"].contains s then some ()
  else none

/-- The algorithm that a key is meant for. An object may have an empty object by its name. -/
def algorithm : Json.Decoder Unit
  | mode, .object [(some name, .object [] true)] true =>
    named known? mode (.object [(some name, .null)] true)
  | mode, t => named known? mode t

/-- The curves of keys. -/
def curve : Json.Decoder Unit := oneOf ["P-256", "P-384", "P-521", "Ed25519"]

/-- What may be said about any key. -/
def common : Json.Decoder Unit :=
  record
    [.always "use" (option string), .always "key_ops" (option strings),
     .always "alg" (option algorithm), .always "kid" (option string), .always "x5u" (option string),
     .always "x5c" (option strings), .always "x5t" (option string),
     .always "x5t#S256" (option string)]
    fun _ _ => return ()

/-- The parts of a key of one kind: which kind it is, and the texts it consists of. -/
def parts (kind : String) (onCurve : Bool) (texts : List String) : Json.Decoder Unit :=
  record
    (.always "kty" (oneOf [kind]) :: (if onCurve then [.always "crv" curve] else []) ++
      texts.map fun name => .always name string)
    fun mode get => do
      required mode get "kty" (oneOf [kind])
      if onCurve then required mode get "crv" curve
      texts.forM fun name => (required mode get name string).map fun _ => ()

/-- The kinds of keys. -/
def kinds : List (Json.Decoder Unit) :=
  [parts "EC" true ["x", "y"], parts "RSA" false ["n", "e"], parts "oct" false ["k"],
   parts "OKP" true ["x"]]

/-- Check the description of a key. All of it is read before it is looked at. -/
def decoder : Json.Decoder Unit
  | mode, .object members closed => do
    let _ ← json mode (.object members closed)
    common .inMemory (.object members closed)
    if kinds.any fun d => (d .inMemory (.object members closed)).toOption.isSome then .ok ()
    else .error .mismatch
  | _, t => refuse t

end Jwk

/-- Decode a header: the algorithm has to be known, other entries have to be of their kind. -/
def headerDecoder : Json.Decoder Algorithm :=
  record
    [.always "typ" (option string), .always "alg" (named Algorithm.parse?),
     .always "cty" (option string), .always "jku" (option string),
     .always "jwk" (option Jwk.decoder), .always "kid" (option string),
     .always "x5u" (option string), .always "x5c" (option strings), .always "x5t" (option string),
     .always "x5t#S256" (option string)]
    fun mode get => required mode get "alg" (named Algorithm.parse?)

end Token

end Geofencing
