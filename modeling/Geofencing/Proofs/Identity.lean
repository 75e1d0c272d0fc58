import Geofencing.Proofs.Deed
import Geofencing.Proofs.Records

/-!
# Whom a token names

Who a token speaks for is written in it, whoever checks it and whenever
(`Caller.named?_of_identify`). Time only decides whether the token is accepted: one that is accepted
at some instant was accepted before (`Caller.identify_of_earlier`).

The signatures of the campus are computed once, for the last instant at which a token is valid. A
request with such a token is then answered without computing them again: `Campus.caller_eq_admitted`.
-/

namespace Geofencing

/-! ## What is written in a token -/

namespace Token

/-- The claims written in a token, whether or not anybody vouches for them. -/
def claims? (token : List Char) : Option Claims := do
  let (signed, _) ← splitLast? token
  let (_, payload) ← splitLast? signed
  (decodePart Claims.decoder payload).toOption

end Token

/-- What comes after a check that may fail is reached if the check does not. -/
theorem ite_error_bind_eq_ok_iff {ε α β : Type} {p : Prop} [Decidable p] {e : ε}
    {f : α → Except ε β} {x : Except ε β} {b : β} :
    (if p then Except.error e >>= f else x) = .ok b ↔ ¬p ∧ x = .ok b := by
  split
  · rename_i hp
    exact ⟨nofun, fun h => absurd hp h.1⟩
  · rename_i hp
    exact ⟨fun h => ⟨hp, h⟩, And.right⟩

namespace Verifier

variable {v : Verifier} {now earlier : Instant} {token : List Char} {c : Claims}

/-- A verifier accepts a token of three parts if it can read the first two of them, if the algorithm
and the signature are right, and if the claims are meant for nobody in particular and hold at the
instant. -/
theorem verify_eq_ok_iff : v.verify now token = .ok c ↔
    ∃ signed given head payload, Token.splitLast? token = some (signed, given) ∧
      Token.splitLast? signed = some (head, payload) ∧
      Token.decodePart Token.headerDecoder head = .ok v.algorithm ∧
      Token.checkSignature v.key signed given = .ok () ∧
      Token.decodePart Claims.decoder payload = .ok c ∧
      Token.decodePart Token.audienceDecoder payload = .ok false ∧
      0 ≤ c.expiry ∧ Token.outOfReach v.leeway now = false ∧
      Token.isExpired v.leeway now c = false := by
  rw [verify]
  constructor
  · intro h
    split at h
    · rename_i signed given hsplit
      split at h
      · rename_i head payload hsigned
        -- Three parts are read and the signature is checked, with five checks in between and after.
        obtain ⟨algorithm, halgorithm, h⟩ := exists_of_bind_eq_ok h
        obtain ⟨hagrees, h⟩ := ite_error_bind_eq_ok_iff.1 h
        obtain ⟨_, hsignature, h⟩ := exists_of_bind_eq_ok h
        obtain ⟨claims, hclaims, h⟩ := exists_of_bind_eq_ok h
        obtain ⟨audience, haudience, h⟩ := exists_of_bind_eq_ok h
        obtain ⟨hexpiry, h⟩ := ite_error_bind_eq_ok_iff.1 h
        obtain ⟨hreach, h⟩ := ite_error_bind_eq_ok_iff.1 h
        obtain ⟨hexpired, h⟩ := ite_error_bind_eq_ok_iff.1 h
        obtain ⟨hnobody, h⟩ := ite_error_bind_eq_ok_iff.1 h
        cases h
        refine ⟨signed, given, head, payload, hsplit, hsigned, ?_, hsignature, hclaims, ?_,
          Int.not_lt.1 hexpiry, Bool.eq_false_iff.2 hreach, Bool.eq_false_iff.2 hexpired⟩
        · rw [halgorithm, not_not.1 hagrees]
        · rw [haudience, Bool.eq_false_iff.2 hnobody]
      · cases h
    · cases h
  · rintro ⟨signed, given, head, payload, hsplit, hsigned, halgorithm, hsignature, hclaims,
      haudience, hexpiry, hreach, hexpired⟩
    simp [hsplit, hsigned, halgorithm, hsignature, hclaims, haudience, Int.not_lt.2 hexpiry,
      hreach, hexpired, bind, Except.bind, pure, Except.pure]

/-- Whoever accepts a token and whenever, the claims are those written in it. -/
theorem claims_of_verify (h : v.verify now token = .ok c) : Token.claims? token = some c := by
  obtain ⟨signed, given, head, payload, hsplit, hsigned, -, -, hclaims, -⟩ := verify_eq_ok_iff.1 h
  simp [Token.claims?, hsplit, hsigned, hclaims, Except.toOption]

/-- A verifier that accepts a token at some instant accepted it at all earlier ones, as far as it
can look back: as time goes on, claims expire and nothing else happens to them. -/
theorem verify_of_earlier (h : v.verify now token = .ok c) (hreach : v.leeway ≤ earlier.seconds)
    (hle : earlier.seconds ≤ now.seconds) : v.verify earlier token = .ok c := by
  obtain ⟨signed, given, head, payload, hsplit, hsigned, halgorithm, hsignature, hclaims, haudience,
    hexpiry, -, hexpired⟩ := verify_eq_ok_iff.1 h
  refine verify_eq_ok_iff.2 ⟨signed, given, head, payload, hsplit, hsigned, halgorithm, hsignature,
    hclaims, haudience, hexpiry, ?_, ?_⟩
  · exact decide_eq_false (Int.not_lt.2 hreach)
  · simp only [Token.isExpired, decide_eq_false_iff_not] at hexpired ⊢
    omega

end Verifier

namespace Caller

variable {v : Verifier} {now earlier : Instant} {headers : Http.Headers} {caller : Caller}

/-- Whom the token in the headers names, whether or not anybody vouches for it. -/
def named? (headers : Http.Headers) : Option Caller := do
  let token ← (Caller.token headers).toOption
  let claims ← Token.claims? token
  (ofClaims claims).toOption

/-- A caller is identified by a token that the verifier accepts, and by claims that name it. -/
theorem identify_eq_ok_iff_claims : identify v now headers = .ok caller ↔
    ∃ cs claims, token headers = .ok cs ∧ v.verify now cs = .ok claims ∧
      ofClaims claims = .ok caller := by
  rw [identify]
  constructor
  · intro h
    obtain ⟨cs, htoken, h⟩ := exists_of_bind_eq_ok h
    split at h
    · rename_i found hfound
      cases h
      obtain ⟨claims, hclaims, hcaller⟩ := exists_of_bind_eq_ok hfound
      exact ⟨cs, claims, htoken, hclaims, hcaller⟩
    · cases h
  · rintro ⟨cs, claims, htoken, hclaims, hcaller⟩
    simp [htoken, hclaims, hcaller, bind, Except.bind]

/-- Whenever a caller is identified, it is the one that the token names. -/
theorem named?_of_identify (h : identify v now headers = .ok caller) :
    named? headers = some caller := by
  obtain ⟨cs, claims, htoken, hclaims, hcaller⟩ := identify_eq_ok_iff_claims.1 h
  simp [named?, htoken, Verifier.claims_of_verify hclaims, hcaller, Except.toOption]

/-- Whoever is identified at some instant was identified at all earlier ones. -/
theorem identify_of_earlier (h : identify v now headers = .ok caller)
    (hreach : v.leeway ≤ earlier.seconds) (hle : earlier.seconds ≤ now.seconds) :
    identify v earlier headers = .ok caller := by
  obtain ⟨cs, claims, htoken, hclaims, hcaller⟩ := identify_eq_ok_iff_claims.1 h
  have hearlier := Verifier.verify_of_earlier hclaims hreach hle
  exact identify_eq_ok_iff_claims.2 ⟨cs, claims, htoken, hearlier, hcaller⟩

end Caller

/-! ## Tokens of the campus -/

namespace Campus

/-- A request with a token. -/
def request (method : Http.Method) (path : List String) (token body : String) : Http.Request :=
  { method, target := ⟨path.map String.toList, []⟩, body := Utf8.encode body.toList
    headers := [("authorization", "Bearer " ++ token), ("content-type", "application/json")] }

/-- A museum next to the school. -/
def museum : Uuid := .ofNat 6

/-- The museum creates a geofence. -/
def opening : Http.Request :=
  request .post ["", "api", "v1", "geofences"]
    ("eyJhbGciOiJIUzI1NiJ9.eyJzdWIiOiIwMDAwMDAwMDAwMDAwMDAwMDAwMDAwMDAwMDAwMDAwMyIsInRlbmF" ++
      "udF9pZCI6IjAwMDAwMDAwMDAwMDAwMDAwMDAwMDAwMDAwMDAwMDA2Iiwicm9sZSI6ImFkbWluIiwiZXhwIjo" ++
      "5LCJpYXQiOjAsImp0aSI6IiJ9.1fycih-QBe4eE9gNh9G0ZEkcZu9G72tEvfnBN__rfeY")
    ("\x7b\"name\":\"Hall\",\"geofenceType\":\"CUSTOM\"," ++
      "\"centerLatitude\":1,\"centerLongitude\":1,\"radiusMeters\":5\x7d")

/-- The pupil looks at the geofences of the school. -/
def listing : Http.Request :=
  request .get ["", "api", "v1", "geofences"]
    ("eyJhbGciOiJIUzI1NiJ9.eyJzdWIiOiIwMDAwMDAwMDAwMDAwMDAwMDAwMDAwMDAwMDAwMDAwNyIsInRlbmF" ++
      "udF9pZCI6IjAwMDAwMDAwMDAwMDAwMDAwMDAwMDAwMDAwMDAwMDA1Iiwicm9sZSI6InN0dWRlbnQiLCJleHA" ++
      "iOjksImlhdCI6MCwianRpIjoiIn0.84W7k5s_zGadVIIZGIatu7OLVHI2ZNQbxgyFu_-5rUA")
    ""

/-- A result is compared without comparing errors. -/
theorem ok_of_toOption {ε α : Type} {result : Except ε α} {value : α}
    (h : result.toOption = some value) : result = .ok value := by
  cases result with
  | error e => cases h
  | ok found => exact congrArg Except.ok (Option.some_inj.1 h)

/-- The token of the pupil is accepted. -/
theorem identify_listing : Caller.identify app.verifier ⟨0, 0⟩ listing.headers =
    .ok ⟨school, pupil, .student⟩ :=
  ok_of_toOption (by decide +kernel)

/-- The token of the museum is accepted until it expires. -/
theorem identify_opening : Caller.identify app.verifier ⟨9, 0⟩ opening.headers =
    .ok ⟨museum, .ofNat 3, .admin⟩ :=
  ok_of_toOption (by decide +kernel)

/-- Whom the token in some headers speaks for. Up to one instant this is known already, so that the
signature need not be computed once more. -/
def admitted (caller : Caller) (instant : Instant) (headers : Http.Headers) (now : Instant) :
    Except ApiError Caller :=
  if 0 ≤ now.seconds ∧ now.seconds ≤ instant.seconds then .ok caller
  else Caller.identify app.verifier now headers

/-- Once a caller was found at one instant, looking for the caller computes no signature for it
again. -/
theorem caller_eq_admitted {req : Http.Request} {caller : Caller} {instant : Instant}
    (h : Caller.identify app.verifier instant req.headers = .ok caller) :
    Http.Handler.caller app.verifier req = (do
      let now ← Prog.now
      Http.Handler.ofApi (admitted caller instant req.headers now)) := by
  have hadmitted : admitted caller instant req.headers =
      fun now => Caller.identify app.verifier now req.headers := by
    funext now
    unfold admitted
    split
    · rename_i hnow
      exact (Caller.identify_of_earlier h hnow.1 hnow.2).symm
    · rfl
  rw [hadmitted]
  rfl

/-- The museum is recognised by its token. -/
theorem caller_opening {req : Http.Request} (hheaders : req.headers = opening.headers) :
    Http.Handler.caller app.verifier req = (do
      let now ← Prog.now
      Http.Handler.ofApi (admitted ⟨museum, .ofNat 3, .admin⟩ ⟨9, 0⟩ opening.headers now)) := by
  rw [← hheaders]
  refine caller_eq_admitted ?_
  rw [hheaders]
  exact identify_opening

end Campus

end Geofencing
