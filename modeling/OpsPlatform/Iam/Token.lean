/-
Bearer tokens (`internal/iam/token.go`).

A token is the encoded claims, a dot and the signature of what stands before the dot.  HMAC-SHA256
and `encoding/json` are parameters, and so is the arithmetic of `ttl.Seconds()`, which is one of
floating-point numbers.
-/
import OpsPlatform.Lib.Base64
import OpsPlatform.Lib.Outcome
import OpsPlatform.Lib.Strconv
import OpsPlatform.Lib.Text

namespace OpsPlatform.Iam

open Lib
open Lib.Strconv (int64)
open Lib.Utf8 (Bytes Valid ascii)

/-- `TokenClaims`. -/
structure TokenClaims where
  userID : Bytes
  subject : Bytes
  roles : List Bytes := []
  permissions : List Bytes := []
  expiresAt : ℤ
  issuedAt : ℤ
deriving DecidableEq

/-- What the service calls. -/
structure TokenLib where
  /-- HMAC-SHA256 of a message under a key -/
  hmac : Bytes → Bytes → Bytes
  /-- `json.Marshal` of claims -/
  marshal : TokenClaims → Except String Bytes
  /-- `json.Unmarshal` into claims -/
  unmarshal : Bytes → Except String TokenClaims
  /-- `int64(ttl.Seconds())` -/
  seconds : ℤ → ℤ

/-- What `Issue` reads of a `UserIdentity`. -/
structure TokenUser where
  id : Bytes
  subject : Bytes
  roles : List Bytes := []
  permissions : List Bytes := []

inductive TokenError where
  | format
  | signature
  | decodePayload
  | parsePayload (e : String)
  | expired
  | claims
deriving DecidableEq

/-- The text of an error; that of the base64 package after its prefix is left out. -/
def TokenError.text : TokenError → String
  | format => "invalid token format"
  | signature => "invalid token signature"
  | decodePayload => "decode payload: "
  | parsePayload e => "parse payload: " ++ e
  | expired => "token expired"
  | claims => "invalid token claims"

namespace TokenService

/-- The byte `.`. -/
def dot : UInt8 := 46

section

variable (lib : TokenLib) (signingKey : Bytes)

/-- `sign`. -/
def sign (payload : Bytes) : Bytes := Base64.encode (lib.hmac signingKey payload)

/-- The claims of a token that is issued at `now`. -/
def claimsOf (now : ℤ) (identity : TokenUser) (ttl : ℤ) : TokenClaims where
  userID := identity.id
  subject := identity.subject
  roles := identity.roles
  permissions := identity.permissions
  expiresAt := int64 (now + lib.seconds ttl)
  issuedAt := now

/-- `Issue`. -/
def issue (now : ℤ) (identity : TokenUser) (ttl : ℤ) : Except String Bytes := do
  let payload ← lib.marshal (claimsOf lib now identity ttl)
  let encodedPayload := Base64.encode payload
  .ok (encodedPayload ++ dot :: sign lib signingKey encodedPayload)

/-- `Parse` from the point where the token has been split. -/
def parseParts (now : ℤ) (encodedPayload signature : Bytes) : Except TokenError TokenClaims :=
  if signature ≠ sign lib signingKey encodedPayload then .error .signature
  else
    match Base64.decode encodedPayload with
    | none => .error .decodePayload
    | some payload =>
      match lib.unmarshal payload with
      | .error e => .error (.parsePayload e)
      | .ok claims =>
        if claims.expiresAt ≤ now then .error .expired
        else if claims.userID = [] ∨ claims.subject = [] then .error .claims
        else .ok claims

/-- `Parse`. -/
def parse (now : ℤ) (token : Bytes) : Except TokenError TokenClaims :=
  match token.splitOn dot with
  | [encodedPayload, signature] => parseParts lib signingKey now encodedPayload signature
  | _ => .error .format

end

/-! ### The property -/

/-- `encoding/json` gives back the identity and the times of claims whose user id and subject are
valid UTF-8. -/
def JsonKeeps (lib : TokenLib) (claims : TokenClaims) : Prop :=
  Valid claims.userID → Valid claims.subject →
    ∃ payload claims', lib.marshal claims = .ok payload ∧ lib.unmarshal payload = .ok claims' ∧
      claims'.userID = claims.userID ∧ claims'.subject = claims.subject ∧
      claims'.expiresAt = claims.expiresAt ∧ claims'.issuedAt = claims.issuedAt

/-- What stands before the first dot. -/
def payloadPart (token : Bytes) : Bytes := token.takeWhile (· != dot)

/-- The token is one that the service has signed, over claims that are in force. -/
structure Signed (lib : TokenLib) (signingKey : Bytes) (now : ℤ) (token : Bytes)
    (claims : TokenClaims) (p : Bytes) : Prop where
  dotFree : dot ∉ p
  token : token = p ++ dot :: sign lib signingKey p
  payload : ∃ payload, Base64.decode p = some payload ∧ lib.unmarshal payload = .ok claims
  future : now < claims.expiresAt
  userID : claims.userID ≠ []
  subject : claims.subject ≠ []

section

variable {lib : TokenLib} {signingKey : Bytes} {now : ℤ} {token p : Bytes} {claims : TokenClaims}

lemma value_dot : Base64.value dot = none := by decide

lemma dot_not_mem_sign (p : Bytes) : dot ∉ sign lib signingKey p :=
  Base64.not_mem_encode value_dot _

lemma parseParts_eq_ok_iff {signature : Bytes} :
    parseParts lib signingKey now p signature = .ok claims ↔
      signature = sign lib signingKey p ∧
      (∃ payload, Base64.decode p = some payload ∧ lib.unmarshal payload = .ok claims) ∧
      now < claims.expiresAt ∧ claims.userID ≠ [] ∧ claims.subject ≠ [] := by
  rw [parseParts, Except.ite_error_eq_ok, not_not]
  refine and_congr_right fun _ => ?_
  cases hdecode : Base64.decode p with
  | none => simp
  | some payload =>
    cases hunmarshal : lib.unmarshal payload with
    | error e => simp [hunmarshal]
    | ok claims' =>
      dsimp only
      rw [hunmarshal]
      dsimp only
      rw [Except.ite_error_eq_ok, Except.ite_error_eq_ok, Int.not_le, not_or]
      constructor
      · rintro ⟨hfuture, ⟨huser, hsubject⟩, h⟩
        obtain rfl := Except.ok.inj h
        exact ⟨⟨payload, rfl, hunmarshal⟩, hfuture, huser, hsubject⟩
      · rintro ⟨⟨payload', hpayload, hclaims⟩, hfuture, huser, hsubject⟩
        obtain rfl := Option.some.inj hpayload
        obtain rfl := Except.ok.inj (hunmarshal.symm.trans hclaims)
        exact ⟨hfuture, ⟨huser, hsubject⟩, rfl⟩

lemma parse_join {signature : Bytes} (hp : dot ∉ p) (hsignature : dot ∉ signature) :
    parse lib signingKey now (p ++ dot :: signature) =
      parseParts lib signingKey now p signature := by
  have hsplit : (p ++ dot :: signature).splitOn dot = [p, signature] :=
    Text.splitOn_eq_pair_iff.mpr ⟨rfl, hp, hsignature⟩
  simp only [parse, hsplit]

/-- What is accepted is signed, and conversely. -/
lemma parse_eq_ok_iff :
    parse lib signingKey now token = .ok claims ↔
      ∃ p, Signed lib signingKey now token claims p := by
  constructor
  · intro h
    rw [parse] at h
    split at h
    · next p signature hsplit =>
      obtain ⟨rfl, hp, -⟩ := Text.splitOn_eq_pair_iff.mp hsplit
      obtain ⟨rfl, hpayload, hfuture, huser, hsubject⟩ := parseParts_eq_ok_iff.mp h
      exact ⟨p, hp, rfl, hpayload, hfuture, huser, hsubject⟩
    · cases h
  · rintro ⟨p, hp, rfl, hpayload, hfuture, huser, hsubject⟩
    rw [parse_join hp (dot_not_mem_sign p)]
    exact parseParts_eq_ok_iff.mpr ⟨rfl, hpayload, hfuture, huser, hsubject⟩

lemma Signed.payloadPart (h : Signed lib signingKey now token claims p) :
    payloadPart token = p := by
  rw [h.token, TokenService.payloadPart]
  refine (List.takeWhile_append_of_pos fun b hb => ?_).trans ?_
  · rw [bne_iff_ne]
    rintro rfl
    exact h.dotFree hb
  · simp

/-- A token that is issued is parsed until it expires. -/
lemma parse_issue (signingKey : Bytes) {identity : TokenUser} {ttl : ℤ}
    (hjson : JsonKeeps lib (claimsOf lib now identity ttl))
    (hid : Valid identity.id) (hsubject : Valid identity.subject)
    (hid' : identity.id ≠ []) (hsubject' : identity.subject ≠ []) :
    ∃ token claims, issue lib signingKey now identity ttl = .ok token ∧
      claims.userID = identity.id ∧ claims.subject = identity.subject ∧
      claims.issuedAt = now ∧ claims.expiresAt = int64 (now + lib.seconds ttl) ∧
      ∀ now', parse lib signingKey now' token =
        if claims.expiresAt ≤ now' then .error .expired else .ok claims := by
  obtain ⟨payload, claims, hmarshal, hunmarshal, huser, hsub, hexpires, hissued⟩ :=
    hjson hid hsubject
  refine ⟨Base64.encode payload ++ dot :: sign lib signingKey (Base64.encode payload), claims, ?_,
    huser, hsub, hissued, hexpires, ?_⟩
  · rw [issue, hmarshal]
    rfl
  · intro now'
    rw [parse_join (Base64.not_mem_encode value_dot payload) (dot_not_mem_sign _)]
    have hclaims : ¬ (claims.userID = [] ∨ claims.subject = []) := by
      rw [huser, hsub]
      exact not_or.mpr ⟨hid', hsubject'⟩
    simp only [parseParts, Base64.decode_encode, hunmarshal, ne_eq, not_true_eq_false, if_false,
      if_neg hclaims]

end

/-- **Tokens.**  What is issued for an identity is parsed until it expires and is refused from then
on; what is parsed is signed, over claims that are in force; and no two tokens that are parsed have
the same payload part. -/
theorem tokens_round_trip (lib : TokenLib) (signingKey : Bytes) :
    (∀ (now : ℤ) (identity : TokenUser) (ttl : ℤ),
      JsonKeeps lib (claimsOf lib now identity ttl) →
      Valid identity.id → Valid identity.subject → identity.id ≠ [] → identity.subject ≠ [] →
      ∃ token claims, issue lib signingKey now identity ttl = .ok token ∧
        claims.userID = identity.id ∧ claims.subject = identity.subject ∧
        claims.issuedAt = now ∧ claims.expiresAt = int64 (now + lib.seconds ttl) ∧
        (∀ now' < claims.expiresAt, parse lib signingKey now' token = .ok claims) ∧
        ∀ now' ≥ claims.expiresAt, ∃ e, parse lib signingKey now' token = .error e) ∧
    (∀ (now : ℤ) (token : Bytes) (claims : TokenClaims),
      parse lib signingKey now token = .ok claims →
      ∃ p, Signed lib signingKey now token claims p) ∧
    ∀ (now now' : ℤ) (token token' : Bytes) (claims claims' : TokenClaims),
      parse lib signingKey now token = .ok claims → parse lib signingKey now' token' = .ok claims' →
      payloadPart token = payloadPart token' → token = token' := by
  refine ⟨?_, fun now token claims => parse_eq_ok_iff.mp, ?_⟩
  · intro now identity ttl hjson hid hsubject hid' hsubject'
    obtain ⟨token, claims, hissue, huser, hsub, hissued, hexpires, hparse⟩ :=
      parse_issue signingKey hjson hid hsubject hid' hsubject'
    refine ⟨token, claims, hissue, huser, hsub, hissued, hexpires, ?_, ?_⟩
    · intro now' hbefore
      rw [hparse, if_neg (Int.not_le.mpr hbefore)]
    · intro now' hafter
      exact ⟨_, (hparse now').trans (if_pos hafter)⟩
  -- the signature is a function of the payload part
  · intro now now' token token' claims claims' h h' hsame
    obtain ⟨p, hp⟩ := parse_eq_ok_iff.mp h
    obtain ⟨p', hp'⟩ := parse_eq_ok_iff.mp h'
    rw [hp.payloadPart, hp'.payloadPart] at hsame
    rw [hp.token, hp'.token, hsame]

/-- A user that logs in with the local login. -/
def sampleUser : TokenUser where
  id := ascii "u1".toList
  subject := ascii "local:admin".toList
  roles := [ascii "admin".toList]

/-- The text of the claims of a token that is issued for it. -/
def samplePayload : Bytes :=
  ascii ("\x7b\"uid\":\"u1\",\"sub\":\"local:admin\",\"roles\":[\"admin\"],\"perms\":[]," ++
    "\"exp\":1700028800,\"iat\":1700000000\x7d").toList

def sampleClaims : TokenClaims where
  userID := sampleUser.id
  subject := sampleUser.subject
  roles := sampleUser.roles
  expiresAt := 1700028800
  issuedAt := 1700000000

/-- The functions on this one token, with the key `k1`. -/
def sampleLib : TokenLib where
  hmac _ _ :=
    [190, 254, 56, 175, 160, 156, 211, 52, 9, 98, 63, 187, 86, 114, 142, 144,
     24, 53, 0, 88, 70, 122, 113, 236, 42, 245, 44, 26, 202, 106, 13, 80]
  marshal _ := .ok samplePayload
  unmarshal payload := if payload = samplePayload then .ok sampleClaims else .error "syntax"
  seconds ttl := ttl / 1000000000

theorem tokens_round_trip_sampleUser :
    ∃ token claims, issue sampleLib (ascii "k1".toList) 1700000000 sampleUser 28800000000000 =
        .ok token ∧ claims.userID = sampleUser.id ∧ claims.subject = sampleUser.subject ∧
      claims.issuedAt = 1700000000 ∧ claims.expiresAt = 1700028800 ∧
      (∀ now' < claims.expiresAt,
        parse sampleLib (ascii "k1".toList) now' token = .ok claims) ∧
      ∀ now' ≥ claims.expiresAt,
        ∃ e, parse sampleLib (ascii "k1".toList) now' token = .error e := by
  have hjson : JsonKeeps sampleLib
      (claimsOf sampleLib 1700000000 sampleUser 28800000000000) := by
    intro _ _
    have hunmarshal : sampleLib.unmarshal samplePayload = .ok sampleClaims := by
      simp only [sampleLib, if_true]
    exact ⟨samplePayload, sampleClaims, rfl, hunmarshal, rfl, rfl, by decide, rfl⟩
  exact (tokens_round_trip sampleLib (ascii "k1".toList)).1 1700000000 sampleUser 28800000000000
    hjson ⟨"u1".toList, by decide⟩ ⟨"local:admin".toList, by decide⟩ (by decide) (by decide)

end TokenService

end OpsPlatform.Iam
