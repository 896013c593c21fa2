/-
The OIDC settings (`GetOIDCSettings`, `SaveOIDCSettings` and `SeedOIDCSettings` in
`internal/iam/repository.go`, `normalizeOIDCSettingsRequest`, `UpdateOIDCSettings` and
`oidcClientConfigForRequest` in `internal/iam/admin_handler.go`, `oidcClient` in
`internal/iam/handler.go`).

A request is tested by `oidcClientConfigForRequest` before it is saved, and `oidcClient` reads what
was saved.  Both trim, complete and sort; that they do it equally often is not visible from either.
-/
import OpsPlatform.Lib.Items
import OpsPlatform.Security.Crypto
import OpsPlatform.SshProxy.Target
import Mathlib.Data.List.Sort
import Mathlib.Data.String.Basic

namespace OpsPlatform.Iam

open Lib Lib.Text Lib.Items Security
open SshProxy (decryptColumn)

/-- `OIDCSettings`. -/
structure OIDCSettings where
  exists_ : Bool := false
  enabled : Bool := false
  issuerURL : String := ""
  clientID : String := ""
  clientSecret : String := ""
  hasClientSecret : Bool := false
  redirectURL : String := ""
  authorizeURL : String := ""
  tokenURL : String := ""
  userInfoURL : String := ""
  scopes : List String := []
  updatedAt : Time := 0
deriving DecidableEq

/-- `UpdateOIDCSettingsRequest`. -/
structure UpdateOIDCSettingsRequest where
  enabled : Bool := false
  issuerURL : String := ""
  clientID : String := ""
  clientSecret : Option String := none
  redirectURL : String := ""
  authorizeURL : String := ""
  tokenURL : String := ""
  userInfoURL : String := ""
  scopes : List String := []
deriving DecidableEq

/-- `OIDCClientConfig`. -/
structure OIDCClientConfig where
  issuerURL : String := ""
  clientID : String := ""
  clientSecret : String := ""
  redirectURL : String := ""
  authorizeURL : String := ""
  tokenURL : String := ""
  userInfoURL : String := ""
  scopes : List String := []
deriving DecidableEq

/-! ### Scopes -/

def defaultScopes : List String := ["openid", "profile", "email"]

/-- `normalizeScopes`. -/
def normalizeScopes (scopes : List String) : List String :=
  if scopes = [] then defaultScopes
  else if collect scopes = [] then defaultScopes
  else (collect scopes).insertionSort (· ≤ ·)

lemma clean_defaultScopes : Clean defaultScopes := ⟨by decide, by decide, by decide⟩

/-- Normalised scopes are clean, and there is one. -/
lemma clean_normalizeScopes (scopes : List String) :
    Clean (normalizeScopes scopes) ∧ normalizeScopes scopes ≠ [] := by
  rw [normalizeScopes]
  split
  · exact ⟨clean_defaultScopes, by decide⟩
  · split
    · exact ⟨clean_defaultScopes, by decide⟩
    · next hne =>
      have hperm := List.perm_insertionSort (· ≤ ·) (collect scopes)
      exact ⟨(clean_collect scopes).of_perm hperm, fun h => hne (List.perm_nil.mp (h ▸ hperm.symm))⟩

/-- Clean scopes are only sorted. -/
lemma normalizeScopes_of_clean {scopes : List String} (h : Clean scopes) (hne : scopes ≠ []) :
    normalizeScopes scopes = scopes.insertionSort (· ≤ ·) := by
  rw [normalizeScopes, if_neg hne, collect_of_clean h, if_neg hne]

/-- The default scopes are not in order, so that only the second application is the last that
changes anything. -/
lemma normalizeScopes_stable (scopes : List String) :
    normalizeScopes (normalizeScopes (normalizeScopes scopes)) =
      normalizeScopes (normalizeScopes scopes) := by
  obtain ⟨hclean, hne⟩ := clean_normalizeScopes scopes
  obtain ⟨hclean', hne'⟩ := clean_normalizeScopes (normalizeScopes scopes)
  rw [normalizeScopes_of_clean hclean' hne', normalizeScopes_of_clean hclean hne]
  exact (List.pairwise_insertionSort (· ≤ ·) _).insertionSort_eq

/-! ### Endpoints -/

/-- `strings.TrimRight(s, "/")`. -/
def trimRightSlash (s : String) : String := String.ofList (s.toList.rdropWhile (· == '/'))

/-- An endpoint under the issuer. -/
def endpoint (issuerURL path : String) : String := trimRightSlash issuerURL ++ path

/-- A path that is appended to the issuer. -/
structure EndpointPath (path : String) : Prop where
  head : path.toList.head? = some '/'
  last : ∀ c ∈ path.toList.getLast?, isSpace c = false

lemma endpointPath_of {path : String} {c : Char} (hhead : path.toList.head? = some '/')
    (hlast : path.toList.getLast? = some c) (hc : isSpace c = false) : EndpointPath path := by
  refine ⟨hhead, fun c' hc' => ?_⟩
  rw [Option.mem_def, hlast] at hc'
  rwa [← Option.some.inj hc']

lemma endpointPath_authorize : EndpointPath "/authorize" :=
  endpointPath_of rfl (rfl : _ = some 'e') (by decide)

lemma endpointPath_token : EndpointPath "/token" :=
  endpointPath_of rfl (rfl : _ = some 'n') (by decide)

lemma endpointPath_userinfo : EndpointPath "/userinfo" :=
  endpointPath_of rfl (rfl : _ = some 'o') (by decide)

lemma endpoint_ne_empty {issuerURL path : String} (hpath : EndpointPath path) :
    endpoint issuerURL path ≠ "" := by
  intro h
  have happend : (trimRightSlash issuerURL).toList ++ path.toList = [] := by
    rw [← String.toList_append]
    exact congrArg String.toList h
  have hhead := hpath.head
  rw [(List.append_eq_nil_iff.mp happend).2] at hhead
  cases hhead

/-- The endpoint of a trimmed issuer is trimmed. -/
lemma trimSpace_endpoint {issuerURL path : String} (hissuer : trimSpace issuerURL = issuerURL)
    (hpath : EndpointPath path) :
    trimSpace (endpoint issuerURL path) = endpoint issuerURL path := by
  rw [trimSpace_eq_self_iff, trimChars_eq_self_iff] at hissuer ⊢
  rw [endpoint, String.toList_append, trimRightSlash, String.toList_ofList]
  have hne : path.toList ≠ [] := by
    intro h
    have hhead := hpath.head
    rw [h] at hhead
    cases hhead
  refine ⟨?_, ?_⟩
  · intro c hc
    rcases hcs : issuerURL.toList.rdropWhile (· == '/') with _ | ⟨d, ds⟩
    · rw [hcs, List.nil_append, hpath.head] at hc
      obtain rfl := Option.some.inj hc
      decide
    · obtain ⟨rest, hrest⟩ := List.rdropWhile_prefix (· == '/') issuerURL.toList
      rw [hcs, List.cons_append, List.head?_cons] at hc
      refine hissuer.1 c ?_
      rw [← hrest, hcs]
      exact hc
  · rw [List.getLast?_append_of_ne_nil _ hne]
    exact hpath.last

/-- An endpoint of a request, or the one under the issuer. -/
def endpointURL (given issuerURL path message : String) : Except String String :=
  if given = "" then
    if issuerURL = "" then .error message else .ok (endpoint issuerURL path)
  else .ok given

lemma endpointURL_eq_ok {given issuerURL path message url : String} :
    endpointURL given issuerURL path message = .ok url ↔
      (given ≠ "" ∧ url = given) ∨
        (given = "" ∧ issuerURL ≠ "" ∧ url = endpoint issuerURL path) := by
  rw [endpointURL]
  by_cases hgiven : given = ""
  · by_cases hissuer : issuerURL = "" <;> simp [hgiven, hissuer, eq_comm]
  · simp [hgiven, eq_comm]

/-! ### Requests -/

/-- The trimming at the head of `normalizeOIDCSettingsRequest` and `SeedOIDCSettings`. -/
def trimRequest (req : UpdateOIDCSettingsRequest) : UpdateOIDCSettingsRequest :=
  { req with issuerURL := trimSpace req.issuerURL, clientID := trimSpace req.clientID,
             redirectURL := trimSpace req.redirectURL, authorizeURL := trimSpace req.authorizeURL,
             tokenURL := trimSpace req.tokenURL, userInfoURL := trimSpace req.userInfoURL,
             scopes := normalizeScopes req.scopes }

/-- `normalizeOIDCSettingsRequest`. -/
def normalizeOIDCSettingsRequest (req : UpdateOIDCSettingsRequest) :
    Except String UpdateOIDCSettingsRequest :=
  let req := trimRequest req
  if req.enabled = true then
    if req.clientID = "" ∨ req.redirectURL = "" then
      .error "client_id and redirect_url are required when enabled"
    else do
      let authorizeURL ← endpointURL req.authorizeURL req.issuerURL "/authorize"
        "authorize_url or issuer_url is required when enabled"
      let tokenURL ← endpointURL req.tokenURL req.issuerURL "/token"
        "token_url or issuer_url is required when enabled"
      let userInfoURL ← endpointURL req.userInfoURL req.issuerURL "/userinfo"
        "userinfo_url or issuer_url is required when enabled"
      .ok { req with authorizeURL, tokenURL, userInfoURL }
  else .ok req

/-- The texts of a request are trimmed. -/
structure Trimmed (req : UpdateOIDCSettingsRequest) : Prop where
  issuerURL : trimSpace req.issuerURL = req.issuerURL
  clientID : trimSpace req.clientID = req.clientID
  redirectURL : trimSpace req.redirectURL = req.redirectURL
  authorizeURL : trimSpace req.authorizeURL = req.authorizeURL
  tokenURL : trimSpace req.tokenURL = req.tokenURL
  userInfoURL : trimSpace req.userInfoURL = req.userInfoURL

/-- A request that is enabled names everything that a login needs. -/
structure Complete (req : UpdateOIDCSettingsRequest) : Prop where
  clientID : req.clientID ≠ ""
  redirectURL : req.redirectURL ≠ ""
  authorizeURL : req.authorizeURL ≠ ""
  tokenURL : req.tokenURL ≠ ""
  userInfoURL : req.userInfoURL ≠ ""

lemma trimmed_trimRequest (req : UpdateOIDCSettingsRequest) : Trimmed (trimRequest req) where
  issuerURL := trimSpace_trimSpace _
  clientID := trimSpace_trimSpace _
  redirectURL := trimSpace_trimSpace _
  authorizeURL := trimSpace_trimSpace _
  tokenURL := trimSpace_trimSpace _
  userInfoURL := trimSpace_trimSpace _

/-- A trimmed request only has its scopes normalised. -/
lemma Trimmed.trimRequest_eq {req : UpdateOIDCSettingsRequest} (h : Trimmed req) :
    trimRequest req = { req with scopes := normalizeScopes req.scopes } := by
  rw [trimRequest, h.issuerURL, h.clientID, h.redirectURL, h.authorizeURL, h.tokenURL,
    h.userInfoURL]

/-- Every endpoint is given, or there is an issuer. -/
def HasEndpoints (req : UpdateOIDCSettingsRequest) : Prop :=
  (req.authorizeURL ≠ "" ∨ req.issuerURL ≠ "") ∧ (req.tokenURL ≠ "" ∨ req.issuerURL ≠ "") ∧
    (req.userInfoURL ≠ "" ∨ req.issuerURL ≠ "")

lemma exists_endpointURL {given issuerURL path message : String} :
    (∃ url, endpointURL given issuerURL path message = .ok url) ↔ given ≠ "" ∨ issuerURL ≠ "" := by
  constructor
  · rintro ⟨url, h⟩
    rcases endpointURL_eq_ok.mp h with ⟨hgiven, -⟩ | ⟨-, hissuer, -⟩
    · exact Or.inl hgiven
    · exact Or.inr hissuer
  · intro h
    by_cases hgiven : given = ""
    · have hissuer : issuerURL ≠ "" := h.resolve_left (not_not_intro hgiven)
      exact ⟨_, endpointURL_eq_ok.mpr (Or.inr ⟨hgiven, hissuer, rfl⟩)⟩
    · exact ⟨_, endpointURL_eq_ok.mpr (Or.inl ⟨hgiven, rfl⟩)⟩

/-- What is accepted. -/
lemma exists_normalizeOIDCSettingsRequest {req : UpdateOIDCSettingsRequest} :
    (∃ r, normalizeOIDCSettingsRequest req = .ok r) ↔
      (req.enabled = true → trimSpace req.clientID ≠ "" ∧ trimSpace req.redirectURL ≠ "" ∧
        HasEndpoints (trimRequest req)) := by
  rw [normalizeOIDCSettingsRequest]
  by_cases henabled : req.enabled = true
  · have henabled' : (trimRequest req).enabled = true := henabled
    simp only [henabled', henabled, if_true, true_implies]
    constructor
    · rintro ⟨r, h⟩
      rw [Except.ite_error_eq_ok, not_or] at h
      obtain ⟨⟨hclient, hredirect⟩, h⟩ := h
      rw [Except.bind_eq_ok] at h
      obtain ⟨a, ha, h⟩ := h
      rw [Except.bind_eq_ok] at h
      obtain ⟨t, ht, h⟩ := h
      rw [Except.bind_eq_ok] at h
      obtain ⟨u, hu, -⟩ := h
      exact ⟨hclient, hredirect, exists_endpointURL.mp ⟨a, ha⟩, exists_endpointURL.mp ⟨t, ht⟩,
        exists_endpointURL.mp ⟨u, hu⟩⟩
    · rintro ⟨hclient, hredirect, ha, ht, hu⟩
      obtain ⟨a, ha⟩ := exists_endpointURL.mpr ha
      obtain ⟨t, ht⟩ := exists_endpointURL.mpr ht
      obtain ⟨u, hu⟩ := exists_endpointURL.mpr hu
      have hgiven : ¬ ((trimRequest req).clientID = "" ∨ (trimRequest req).redirectURL = "") :=
        not_or.mpr ⟨hclient, hredirect⟩
      rw [if_neg hgiven, ha, ht, hu]
      exact ⟨_, rfl⟩
  · have henabled' : ¬ (trimRequest req).enabled = true := henabled
    simp only [henabled', henabled]
    exact ⟨fun _ h => absurd h (by simp), fun _ => ⟨_, rfl⟩⟩

/-- An accepted request, as it is returned. -/
lemma normalizeOIDCSettingsRequest_eq_ok {req r : UpdateOIDCSettingsRequest}
    (h : normalizeOIDCSettingsRequest req = .ok r) :
    Trimmed r ∧ (r.enabled = true → Complete r) ∧ r.enabled = req.enabled ∧
      r.clientSecret = req.clientSecret ∧ r.scopes = normalizeScopes req.scopes := by
  rw [normalizeOIDCSettingsRequest] at h
  have htrim := trimmed_trimRequest req
  split at h
  · next henabled =>
    rw [Except.ite_error_eq_ok, not_or] at h
    obtain ⟨⟨hclient, hredirect⟩, h⟩ := h
    rw [Except.bind_eq_ok] at h
    obtain ⟨a, ha, h⟩ := h
    rw [Except.bind_eq_ok] at h
    obtain ⟨t, ht, h⟩ := h
    rw [Except.bind_eq_ok] at h
    obtain ⟨u, hu, h⟩ := h
    obtain rfl := Except.ok.inj h
    -- a URL that was given is trimmed, and so is one under the trimmed issuer
    have hurl : ∀ {given path message url : String}, EndpointPath path →
        trimSpace given = given →
        endpointURL given (trimRequest req).issuerURL path message = .ok url →
        trimSpace url = url ∧ url ≠ "" := by
      intro given path message url hpath hgiven hurl
      rcases endpointURL_eq_ok.mp hurl with ⟨hne, rfl⟩ | ⟨-, -, rfl⟩
      · exact ⟨hgiven, hne⟩
      · exact ⟨trimSpace_endpoint htrim.issuerURL hpath, endpoint_ne_empty hpath⟩
    have ha := hurl endpointPath_authorize htrim.authorizeURL ha
    have ht := hurl endpointPath_token htrim.tokenURL ht
    have hu := hurl endpointPath_userinfo htrim.userInfoURL hu
    exact ⟨⟨htrim.issuerURL, htrim.clientID, htrim.redirectURL, ha.1, ht.1, hu.1⟩,
      fun _ => ⟨hclient, hredirect, ha.2, ht.2, hu.2⟩, rfl, rfl, rfl⟩
  · next henabled =>
    obtain rfl := Except.ok.inj h
    exact ⟨htrim, fun h => absurd h henabled, rfl, rfl, rfl⟩

/-- A trimmed and complete request is accepted as it is, up to the order of its scopes. -/
lemma normalizeOIDCSettingsRequest_of_complete {req : UpdateOIDCSettingsRequest}
    (htrim : Trimmed req) (hcomplete : req.enabled = true → Complete req) :
    normalizeOIDCSettingsRequest req =
      .ok { req with scopes := normalizeScopes req.scopes } := by
  rw [normalizeOIDCSettingsRequest, htrim.trimRequest_eq]
  by_cases henabled : req.enabled = true
  · have h := hcomplete henabled
    simp [henabled, h.clientID, h.redirectURL, endpointURL, h.authorizeURL, h.tokenURL,
      h.userInfoURL, bind, Except.bind]
  · simp [henabled]

/-! ### The stored settings -/

/-- The `UnmarshalTypeError` of a `scopes` column that is no list of strings. -/
def errScopes : String := "json: cannot unmarshal value into Go struct field of type []string"

variable (c : Cipher) (masterKey : Bytes)

/-- `GetOIDCSettings`. -/
def getOIDCSettings (db : Db) : Except String OIDCSettings :=
  match db.iamOidcConfig with
  | none => .ok {}
  | some row =>
    match Json.decodeStrings [] row.scopes with
    | none => .error errScopes
    | some scopes => do
      let clientSecret ← decryptColumn (decrypt c · masterKey) row.clientSecretEncrypted
      .ok { exists_ := true, enabled := row.enabled, issuerURL := row.issuerUrl,
            clientID := row.clientId, clientSecret,
            hasClientSecret := decide (row.clientSecretEncrypted ≠ ""),
            redirectURL := row.redirectUrl, authorizeURL := row.authorizeUrl,
            tokenURL := row.tokenUrl, userInfoURL := row.userinfoUrl,
            scopes := if scopes = [] then defaultScopes else scopes, updatedAt := row.updatedAt }

/-- The secret of a request, or the current one. -/
def requestSecret (req : UpdateOIDCSettingsRequest) (current : OIDCSettings) : String :=
  (req.clientSecret.map trimSpace).getD current.clientSecret

/-- The row that `SaveOIDCSettings` writes. -/
def settingsRow (now : Time) (req : UpdateOIDCSettingsRequest) (encryptedSecret : String) :
    OidcConfigRow :=
  { enabled := req.enabled, issuerUrl := trimSpace req.issuerURL,
    clientId := trimSpace req.clientID, clientSecretEncrypted := encryptedSecret,
    redirectUrl := trimSpace req.redirectURL, authorizeUrl := trimSpace req.authorizeURL,
    tokenUrl := trimSpace req.tokenURL, userinfoUrl := trimSpace req.userInfoURL,
    scopes := .arr ((normalizeScopes req.scopes).map .str), updatedAt := now }

/-- `SaveOIDCSettings`; `nonce` is what the encryption draws. -/
def saveOIDCSettings (nonce : Nonce) (now : Time) (db : Db) (req : UpdateOIDCSettingsRequest) :
    Except String (Db × OIDCSettings) := do
  let current ← getOIDCSettings c masterKey db
  let encryptedSecret ← encrypt c nonce (requestSecret req current) masterKey
  let db' := { db with iamOidcConfig := some (settingsRow now req encryptedSecret) }
  let settings ← getOIDCSettings c masterKey db'
  .ok (db', settings)

/-- What `SeedOIDCSettings` saves: an enabled configuration, when it is complete. -/
def seedRequest (req : UpdateOIDCSettingsRequest) : UpdateOIDCSettingsRequest :=
  match normalizeOIDCSettingsRequest { req with enabled := true } with
  | .ok normalized => normalized
  | .error _ => { req with enabled := false }

/-- `SeedOIDCSettings`, which says whether it saved anything. -/
def seedOIDCSettings (nonce : Nonce) (now : Time) (db : Db) (req : UpdateOIDCSettingsRequest) :
    Except String (Db × Bool) := do
  let current ← getOIDCSettings c masterKey db
  if current.exists_ = true then .ok (db, false)
  else
    let req := trimRequest req
    let hasSettings := req.issuerURL ≠ "" ∨ req.clientID ≠ "" ∨ req.redirectURL ≠ "" ∨
      req.authorizeURL ≠ "" ∨ req.tokenURL ≠ "" ∨ req.userInfoURL ≠ "" ∨
      req.clientSecret.isSome = true ∨ 0 < req.scopes.length
    if ¬ hasSettings then .ok (db, false)
    else do
      let saved ← saveOIDCSettings c masterKey nonce now db (seedRequest req)
      .ok (saved.1, true)

/-- `UpdateOIDCSettings`. -/
def updateOIDCSettings (nonce : Nonce) (now : Time) (db : Db) (req : UpdateOIDCSettingsRequest) :
    Except String (Db × OIDCSettings) := do
  let req ← normalizeOIDCSettingsRequest req
  saveOIDCSettings c masterKey nonce now db req

/-! ### The client's configuration -/

/-- An endpoint of the configuration. -/
def completeURL (given issuerURL path : String) : String :=
  if given = "" ∧ issuerURL ≠ "" then endpoint issuerURL path else given

/-- `completeOIDCClientConfig`. -/
def completeOIDCClientConfig (cfg : OIDCClientConfig) : OIDCClientConfig :=
  if cfg.clientID ≠ "" ∧ cfg.redirectURL ≠ "" then
    { cfg with authorizeURL := completeURL cfg.authorizeURL cfg.issuerURL "/authorize",
               tokenURL := completeURL cfg.tokenURL cfg.issuerURL "/token",
               userInfoURL := completeURL cfg.userInfoURL cfg.issuerURL "/userinfo" }
  else cfg

/-- `oidcClientConfigForRequest`: the configuration that `TestOIDCSettings` tries. -/
def oidcClientConfigForRequest (db : Db) (req : UpdateOIDCSettingsRequest) :
    Except String OIDCClientConfig := do
  let req ← normalizeOIDCSettingsRequest req
  if ¬ req.enabled = true then .error "oidc must be enabled before testing"
  else do
    let current ← getOIDCSettings c masterKey db
    .ok (completeOIDCClientConfig
      { issuerURL := req.issuerURL, clientID := req.clientID,
        clientSecret := requestSecret req current, redirectURL := req.redirectURL,
        authorizeURL := req.authorizeURL, tokenURL := req.tokenURL,
        userInfoURL := req.userInfoURL, scopes := normalizeScopes req.scopes })

/-- `oidcClient`: the configuration of the client that logs users in. -/
def oidcClient (db : Db) : Except String OIDCClientConfig := do
  let settings ← getOIDCSettings c masterKey db
  if ¬ (settings.exists_ = true ∧ settings.enabled = true) then .ok {}
  else
    .ok (completeOIDCClientConfig
      { issuerURL := trimSpace settings.issuerURL, clientID := trimSpace settings.clientID,
        clientSecret := settings.clientSecret, redirectURL := trimSpace settings.redirectURL,
        authorizeURL := trimSpace settings.authorizeURL, tokenURL := trimSpace settings.tokenURL,
        userInfoURL := trimSpace settings.userInfoURL,
        scopes := normalizeScopes settings.scopes })

end OpsPlatform.Iam
