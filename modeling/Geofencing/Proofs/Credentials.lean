import Geofencing.Proofs.Authorization
import Geofencing.Proofs.Base64
import Geofencing.Proofs.Reach
import Geofencing.Proofs.Records
import Geofencing.Proofs.Rereading

/-!
# Who a signed token speaks for

A token is written and read in different places, through the same layers: identifiers are texts in
JSON, whose bytes are written in Base64 and joined by points, and the result stands in a header.
Each layer is undone by its reader, so a token speaks for whom it was signed for.

* `Json.Decoder.record_obj`: a record is decoded from the members of an object, in any order.
* `Token.splitLast?_sign`, `Token.decodePart_encode`: the parts of a token, and what is in them.
* `Verifier.verify_sign`: of a token that was signed with the secret of the verifier, only the times
  are still looked at.
* `Caller.identify_signed`: the bearer of such a token is the one it was signed for, up to and
  including the second in which it expires.
-/

namespace Geofencing

open Base64 (Bytes)

/-! ## Records -/

namespace Json.Decoder

/-- The mode in which the members of a text are decoded. -/
def inner : Mode := ⟨some 126, false⟩

/-- A record is built of the members of an object. -/
theorem record_obj {α : Type} {fields : List Field} {build : Mode → Lookup → Except Fault α}
    {members : List (String × Json)} (hnodup : (members.map Prod.fst).Nodup)
    (hchecked : ∀ m ∈ members, ∀ f ∈ fields, f.name = m.1 →
      f.check inner (Tree.ofJson m.2) = .ok ()) :
    record fields build .streaming (Tree.ofJson (.obj members)) =
      build inner fun name => (members.lookup name).map Tree.ofJson :=
  record_of_enter rfl hnodup hchecked

end Json.Decoder

/-! ## What is in a token -/

namespace Claims

/-- The times of claims are integers of 64 bits with a sign. -/
structure Timed (c : Claims) : Prop where
  expiry : Width.int64Min ≤ c.expiry ∧ c.expiry ≤ Width.int64Max
  issuedAt : Width.int64Min ≤ c.issuedAt ∧ c.issuedAt ≤ Width.int64Max

/-- No two members of the claims have the same name. -/
theorem nodup_members (c : Claims) : (c.members.map Prod.fst).Nodup := by
  change ["sub", "tenant_id", "role", "exp", "iat", "jti"].Nodup
  decide

variable {c : Claims}

/-- Claims with times within reach are written in integers. -/
theorem integral_members (h : c.Timed) : (Json.obj c.members).Integral := by
  have hfits : ∀ i : Int, Width.int64Min ≤ i ∧ i ≤ Width.int64Max → Numeral.Fits i := by
    simp only [Numeral.Fits, Width.int64Min, Width.int64Max, Width.nat64Max]
    omega
  exact ⟨trivial, trivial, trivial, hfits _ h.expiry, hfits _ h.issuedAt, trivial, trivial⟩

open Json.Decoder in
/-- Claims with times within reach are read back. -/
theorem decode_members (h : c.Timed) :
    decoder .streaming (Json.Tree.ofJson (.obj c.members)) = .ok c := by
  have hstring : ∀ s, string inner (Json.Tree.ofJson (.str s)) = .ok s := fun _ => rfl
  have hrole : Role.decoder inner (Json.Tree.ofJson (.str c.role.text)) = .ok c.role := by
    rw [Json.Tree.ofJson, Role.decoder, named, Role.parse?_text]
  have hexpiry : int64 inner (Json.Tree.ofJson (.int c.expiry)) = .ok c.expiry :=
    if_pos h.expiry
  have hissuedAt : int64 inner (Json.Tree.ofJson (.int c.issuedAt)) = .ok c.issuedAt :=
    if_pos h.issuedAt
  rw [decoder, record_obj c.nodup_members]
  · simp [required, members, List.lookup_cons, hstring, hrole, hexpiry, hissuedAt, pure,
      Except.pure, bind, Except.bind]
  · simp [members, Field.always, check, Except.map, hstring, hrole, hexpiry, hissuedAt]

/-- Claims are meant for no particular audience. -/
theorem decode_audience (c : Claims) :
    Token.audienceDecoder .streaming (Json.Tree.ofJson (.obj c.members)) = .ok false := by
  rw [Token.audienceDecoder, Json.Decoder.record_obj c.nodup_members]
  · rfl
  · simp only [members, List.forall_mem_cons, Json.Decoder.Field.always]
    simp
    exact ⟨rfl, rfl⟩

end Claims

/-- The header that is written is read as the algorithm it names. -/
theorem Token.decode_header :
    headerDecoder .streaming (Json.Tree.ofJson header) = .ok .hs256 := by
  rw [header, headerDecoder, Json.Decoder.record_obj (by decide)]
  · rfl
  · simp [Json.Decoder.Field.always]
    exact ⟨rfl, rfl⟩

/-! ## The parts of a token -/

namespace Token

/-- A text is split at its last point. -/
theorem splitLast?_append {a b : List Char} (h : '.' ∉ b) :
    splitLast? (a ++ '.' :: b) = some (a, b) := by
  have htail : ((a ++ '.' :: b).reverse.takeWhile (· != '.')).reverse = b := by
    rw [List.reverse_append, List.reverse_cons, List.append_assoc, List.takeWhile_append_of_pos]
    · simp
    · intro c hc
      rw [bne_iff_ne]
      rintro rfl
      exact h (List.mem_reverse.1 hc)
  have hlength : (a ++ '.' :: b).length = a.length + b.length + 1 := by
    rw [List.length_append, List.length_cons, Nat.add_assoc]
  have hfront : a.length + b.length + 1 - b.length - 1 = a.length := by omega
  simp only [splitLast?, htail, hlength, hfront, List.take_left]
  exact if_pos (by omega)

variable {secret : Bytes} {c : Claims}

/-- Encoded bytes contain no separator. -/
theorem point_notMem_encode (bytes : Bytes) : '.' ∉ Base64.encode bytes := by
  intro h
  obtain ⟨n, hn, hsymbol⟩ := Base64.exists_of_mem_encode h
  have hno : ∀ n < 64, Base64.Alphabet.url.symbol n ≠ '.' := by decide
  exact hno n hn hsymbol

/-- The signature follows the last point of a token. -/
theorem splitLast?_sign : splitLast? (sign secret c) =
    some (signedPart c, signature secret (signedPart c)) :=
  splitLast?_append (point_notMem_encode _)

/-- The claims follow the first point of a token. -/
theorem splitLast?_signedPart : splitLast? (signedPart c) =
    some (Base64.encode (Utf8.encode header.chars),
      Base64.encode (Utf8.encode (Json.obj c.members).chars)) :=
  splitLast?_append (point_notMem_encode _)

/-- What holds of points and of the symbols of the alphabet holds throughout a token. -/
theorem forall_mem_sign {P : Char → Prop} (hpoint : P '.')
    (hsymbol : ∀ n < 64, P (Base64.Alphabet.url.symbol n)) : ∀ d ∈ sign secret c, P d := by
  have hencode : ∀ bytes, ∀ d ∈ Base64.encode bytes, P d := by
    intro bytes d hd
    obtain ⟨n, hn, rfl⟩ := Base64.exists_of_mem_encode hd
    exact hsymbol n hn
  simp only [sign, signedPart, signature, List.forall_mem_append, List.forall_mem_cons]
  exact ⟨⟨hencode _, hpoint, hencode _⟩, hpoint, hencode _⟩

/-- A part that a value was written into is decoded as the value. -/
theorem decodePart_encode {α : Type} {d : Json.Decoder α} {a : α} {j : Json} (hj : j.Integral)
    (h : d .streaming (Json.Tree.ofJson j) = .ok a) :
    decodePart d (Base64.encode (Utf8.encode j.chars)) = .ok a := by
  rw [decodePart, Base64.decode_encode]
  simp only [Json.decodeBytes_chars d hj, h]

end Token

/-- A token that was signed with the secret of a verifier is in order but for its times. -/
theorem Verifier.verify_sign {v : Verifier} {secret : Bytes} {c : Claims}
    (hkey : v.key = .secret secret) (h : c.Timed) (now : Instant) :
    v.verify now (Token.sign secret c) =
      if c.expiry < 0 then .error (.undecodable "Missing required claim")
      else if Token.outOfReach v.leeway now then .error .beforeEpoch
      else if Token.isExpired v.leeway now c then .error .expired
      else .ok c := by
  have hheader := Token.decodePart_encode (j := Token.header) ⟨trivial, trivial, trivial⟩
    Token.decode_header
  have hclaims := Token.decodePart_encode (Claims.integral_members h) (Claims.decode_members h)
  have haudience := Token.decodePart_encode (Claims.integral_members h) c.decode_audience
  have halgorithm : v.algorithm = .hs256 := by rw [algorithm, hkey]
  have hsignature : Token.checkSignature v.key (Token.signedPart c)
      (Token.signature secret (Token.signedPart c)) = .ok () := by
    rw [hkey]
    exact if_pos rfl
  -- The parts are taken off from the end, and each is decoded as what was written into it.
  rw [verify, Token.splitLast?_sign]
  dsimp only
  rw [Token.splitLast?_signedPart]
  simp only [hheader, hclaims, haudience, hsignature, halgorithm, bind, Except.bind, pure,
    Except.pure, ne_eq, not_true, if_false, Bool.false_eq_true]

/-- Without leeway, a signed token is accepted up to and including the second in which it
expires. -/
theorem Verifier.verify_ofSecret (secret : String) {c : Claims} (h : c.Timed)
    (hexpiry : 0 ≤ c.expiry) (now : Instant) :
    let result := (ofSecret secret).verify now (Token.sign (Utf8.encode secret.toList) c)
    (0 ≤ now.seconds → now.seconds ≤ c.expiry → result = .ok c) ∧
      (c.expiry < now.seconds → result = .error .expired) := by
  intro result
  -- What is left of the verification is a comparison of the clock with the end of the token.
  have hresult : result = _ := verify_sign rfl h now
  have hreach : Token.outOfReach (ofSecret secret).leeway now = decide (now.seconds < 0) := rfl
  have hexpired : Token.isExpired (ofSecret secret).leeway now c =
      decide (c.expiry < now.seconds) := by
    simp [Token.isExpired, ofSecret]
  rw [hresult, hreach, hexpired, if_neg (Int.not_lt.2 hexpiry)]
  simp only [decide_eq_true_eq]
  constructor
  · intro hclock hvalid
    rw [if_neg (Int.not_lt.2 hclock), if_neg (Int.not_lt.2 hvalid)]
  · intro hpast
    have hclock : 0 ≤ now.seconds := by omega
    rw [if_neg (Int.not_lt.2 hclock), if_pos hpast]

/-! ## The bearer of a token -/

/-- Nothing is trimmed off a text without blanks. -/
theorem Text.trimChars_of_forall {cs : List Char} (h : ∀ c ∈ cs, isBlank c = false) :
    trimChars cs = cs := by
  have hfront : ∀ cs : List Char, (∀ c ∈ cs, isBlank c = false) → trimFront cs = cs := by
    rintro (_ | ⟨c, cs⟩) h
    · rfl
    · rw [trimFront, List.dropWhile_cons_of_neg]
      simp [h c List.mem_cons_self]
  rw [trimChars, hfront cs h, hfront cs.reverse fun c hc => h c (List.mem_reverse.1 hc),
    List.reverse_reverse]

namespace Caller

variable {secret : Bytes} {c : Claims} {headers : Http.Headers}

/-- The token that a header carries is found in it as it was signed. -/
theorem token_sign
    (h : headers.get? "authorization" = some ("Bearer " ++ String.ofList (Token.sign secret c))) :
    token headers = .ok (Token.sign secret c) := by
  have hchars : ("Bearer " ++ String.ofList (Token.sign secret c)).toList =
      bearer ++ Token.sign secret c := by
    rw [String.toList_append]
    exact congrArg (bearer ++ ·) String.toList_ofList
  -- Neither trimming nor the check for visible characters touches points and symbols.
  have hvisible : (bearer ++ Token.sign secret c).all Http.Headers.isVisible = true := by
    rw [List.all_append, Bool.and_eq_true, List.all_eq_true (l := Token.sign secret c)]
    exact ⟨by decide, Token.forall_mem_sign (by decide) (by decide)⟩
  have htrim : Text.trimChars (Token.sign secret c) = Token.sign secret c :=
    Text.trimChars_of_forall (Token.forall_mem_sign (by decide) (by decide))
  rw [token_eq_ok_iff, Http.Headers.visible?, h, Option.map_some, hchars, Option.filter_some,
    if_pos hvisible]
  refine ⟨Token.sign secret c, rfl, ?_, htrim⟩
  rw [htrim, Token.sign]
  simp

section Identify

variable {v : Verifier} {now : Instant} {cs : List Char}

/-- A token that is accepted identifies the caller its claims name. -/
theorem identify_of_accepted {caller : Caller} (htoken : token headers = .ok cs)
    (hverify : v.verify now cs = .ok c) (hclaims : ofClaims c = .ok caller) :
    identify v now headers = .ok caller := by
  obtain ⟨rest, hvalue, hne, rfl⟩ := token_eq_ok_iff.1 htoken
  exact identify_eq_ok_iff.2 ⟨rest, c, hvalue, hne, hverify, ofClaims_eq_ok_iff.1 hclaims⟩

/-- A token that is refused identifies nobody, and the error tells why. -/
theorem identify_of_refused {e : TokenError} (htoken : token headers = .ok cs)
    (hverify : v.verify now cs = .error e) :
    identify v now headers = .error (.ofToken e) := by
  simp [identify, htoken, hverify, bind, Except.bind]

end Identify

variable {actor tenant tokenId : Uuid} {role : Role} {s : Instant} {seconds : Int}

/-- The claims of a new token have times within reach if its issue and its end do. -/
theorem timed_claimsFor (hs : Instant.inRange s.seconds = true)
    (hexpiry : Instant.inRange (s.seconds + seconds) = true) :
    (Token.claimsFor actor tenant role s seconds tokenId).Timed := by
  rw [Instant.inRange_iff, Instant.minSeconds, Instant.maxSeconds] at hs hexpiry
  constructor
  · change _ ≤ s.seconds + seconds ∧ s.seconds + seconds ≤ _
    rw [Width.int64Min, Width.int64Max]
    omega
  · change _ ≤ s.seconds ∧ s.seconds ≤ _
    rw [Width.int64Min, Width.int64Max]
    omega

/-- The claims of a new token name whom it was issued for. -/
theorem ofClaims_claimsFor :
    ofClaims (Token.claimsFor actor tenant role s seconds tokenId) = .ok ⟨tenant, actor, role⟩ := by
  rw [ofClaims_eq_ok_iff]
  exact ⟨tenant.parse?_toText, actor.parse?_toText, rfl⟩

end Caller

/-- Let a token be signed at `s` to expire some seconds later, at an instant that is within reach
and not before the epoch. Its bearer is the actor it was signed for, in the tenant and with the
role, up to and including the second in which the token expires; the clock counts the seconds since
the epoch, so it shows none before it. After that second the bearer is answered that the token has
expired. -/
theorem Caller.identify_signed (secret : String) (actor tenant : Uuid) (role : Role) (s : Instant)
    (seconds : Int) (tokenId : Uuid) (now : Instant) (headers : Http.Headers)
    (hs : Instant.inRange s.seconds = true)
    (hexpiry : Instant.inRange (s.seconds + seconds) = true) (hnonneg : 0 ≤ s.seconds + seconds)
    (hheader : headers.get? "authorization" = some ("Bearer " ++ String.ofList
      (Token.sign (Utf8.encode secret.toList)
        (Token.claimsFor actor tenant role s seconds tokenId)))) :
    (0 ≤ now.seconds → now.seconds ≤ s.seconds + seconds →
      identify (.ofSecret secret) now headers = .ok ⟨tenant, actor, role⟩) ∧
    (s.seconds + seconds < now.seconds →
      ∃ e, identify (.ofSecret secret) now headers = .error e ∧
        e.response = .json 401
          (.object [("error", .str "unauthorized"), ("message", .str "Token has expired")])) := by
  have htimed : (Token.claimsFor actor tenant role s seconds tokenId).Timed :=
    timed_claimsFor hs hexpiry
  -- The verifier decides by the clock alone, since signature and claims are its own.
  obtain ⟨hvalid, hexpired⟩ := Verifier.verify_ofSecret secret htimed hnonneg now
  have htoken := token_sign hheader
  constructor
  · intro hclock hle
    exact identify_of_accepted htoken (hvalid hclock hle) ofClaims_claimsFor
  · intro hpast
    exact ⟨_, identify_of_refused htoken (hexpired hpast), rfl⟩

/-! ### A badge for an hour -/

namespace Campus

/-- The pupil's token, signed a minute after the epoch for an hour. -/
def badge : List Char :=
  Token.sign (Utf8.encode "chalk".toList)
    (Token.claimsFor pupil school .student ⟨60, 0⟩ 3600 (.ofNat 8))

/-- A request that carries the badge. -/
def badged : Http.Headers :=
  [("Host", "campus"), ("Authorization", "Bearer " ++ String.ofList badge)]

end Campus

/-- The badge is still good in the last second of the hour, and not in the next one. -/
theorem Caller.identify_signed_campus :
    identify (.ofSecret "chalk") ⟨3660, 999999999⟩ Campus.badged =
      .ok ⟨Campus.school, Campus.pupil, .student⟩ ∧
    ∃ e, identify (.ofSecret "chalk") ⟨3661, 0⟩ Campus.badged = .error e ∧
      e.response = .json 401
        (.object [("error", .str "unauthorized"), ("message", .str "Token has expired")]) :=
  ⟨(identify_signed "chalk" Campus.pupil Campus.school .student ⟨60, 0⟩ 3600 (.ofNat 8)
      ⟨3660, 999999999⟩ Campus.badged (by decide) (by decide) (by decide) rfl).1 (by decide)
      (by decide),
    (identify_signed "chalk" Campus.pupil Campus.school .student ⟨60, 0⟩ 3600 (.ofNat 8)
      ⟨3661, 0⟩ Campus.badged (by decide) (by decide) (by decide) rfl).2 (by decide)⟩

end Geofencing
