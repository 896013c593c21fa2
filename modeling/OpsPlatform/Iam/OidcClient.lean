/-
Pending OIDC logins and the requests of the OIDC client (`internal/iam/oidc.go`), and the two
handlers that use them (`OIDCLogin` and `OIDCCallback` in `internal/iam/handler.go`).

A login leaves its PKCE verifier with the server and takes the challenge to the identity provider;
the callback brings the state back, under which the verifier is found.
-/
import OpsPlatform.Iam.Middleware
import OpsPlatform.Iam.OidcSettings
import OpsPlatform.Iam.Redirect
import OpsPlatform.Lib.Base64
import OpsPlatform.Lib.UrlValues

namespace OpsPlatform.Iam

open Lib Lib.UrlQuery
open Utf8 (Bytes ascii)

/-! ### Pending logins -/

/-- `oidcStateData`. -/
structure OIDCStateData where
  codeVerifier : Bytes
  redirectAfter : String
  expiresAt : Time
deriving DecidableEq

/-- `OIDCStateStore`. -/
structure OIDCStateStore where
  items : List (Bytes × OIDCStateData) := []
  distinct : (items.map Prod.fst).Nodup := by exact List.nodup_nil

namespace OIDCStateStore

lemma nodup_filter {s : OIDCStateStore} (p : Bytes × OIDCStateData → Bool) :
    ((s.items.filter p).map Prod.fst).Nodup :=
  s.distinct.sublist (List.filter_sublist.map Prod.fst)

/-- The entries that have not expired. -/
def prune (s : OIDCStateStore) (now : Time) : OIDCStateStore :=
  ⟨s.items.filter fun e => !(now > e.2.expiresAt), nodup_filter _⟩

/-- `Save`. -/
def save (s : OIDCStateStore) (now : Time) (state : Bytes) (data : OIDCStateData) :
    OIDCStateStore :=
  ⟨Assoc.set state data (s.prune now).items, Assoc.nodup_set (s.prune now).distinct⟩

/-- `delete(s.items, state)`. -/
def delete (s : OIDCStateStore) (state : Bytes) : OIDCStateStore :=
  ⟨s.items.filter fun e => !(e.1 = state), nodup_filter _⟩

/-- `Consume`: the state is gone even when it had expired. -/
def consume (s : OIDCStateStore) (now : Time) (state : Bytes) :
    OIDCStateStore × Option OIDCStateData :=
  match find s.items state with
  | none => (s, none)
  | some data =>
    if now > data.expiresAt then (s.delete state, none) else (s.delete state, some data)

end OIDCStateStore

/-! ### The client -/

/-- `Enabled`. -/
def OIDCClientConfig.isEnabled (c : OIDCClientConfig) : Bool :=
  c.clientID ≠ "" && c.redirectURL ≠ ""

/-- A parsed URL: what `String` writes before the query and behind it. -/
structure Url where
  base : Bytes
  rawQuery : Bytes
  fragment : Bytes
  base_clean : (63 : UInt8) ∉ base ∧ (35 : UInt8) ∉ base
  fragment_start : fragment = [] ∨ fragment.head? = some 35

/-- `URL.String`. -/
def Url.string (u : Url) : Bytes :=
  u.base ++ (if u.rawQuery = [] then [] else 63 :: u.rawQuery) ++ u.fragment

/-- The bytes of a text of the program. -/
def lit (s : String) : Bytes := ascii s.toList

/-- The bytes of a text. -/
def utf8 (s : String) : Bytes := Utf8.encode s.toList

lemma utf8_inj {s t : String} : utf8 s = utf8 t ↔ s = t := by
  refine ⟨fun h => String.toList_inj.mp ?_, congrArg utf8⟩
  have hrunes := congrArg Utf8.runes h
  rwa [utf8, utf8, Utf8.runes_encode, Utf8.runes_encode] at hrunes

/-- The query of `BuildAuthorizationURL`; `query` is the one of the configured URL. -/
def OIDCClientConfig.authorizationQuery (c : OIDCClientConfig) (query state codeChallenge : Bytes) :
    Values :=
  let q := Values.ofQuery query
  let q := q.set (lit "client_id") (utf8 c.clientID)
  let q := q.set (lit "redirect_uri") (utf8 c.redirectURL)
  let q := q.set (lit "response_type") (lit "code")
  let q := q.set (lit "scope") (utf8 (" ".intercalate c.scopes))
  let q := q.set (lit "state") state
  let q := q.set (lit "code_challenge") codeChallenge
  q.set (lit "code_challenge_method") (lit "S256")

/-- The URL with another query. -/
def Url.withQuery (u : Url) (q : Values) : Url := { u with rawQuery := q.encode }

/-- `BuildAuthorizationURL`; `parse` is `url.Parse`. -/
def OIDCClientConfig.buildAuthorizationURL (parse : String → Except String Url)
    (c : OIDCClientConfig) (state codeChallenge : Bytes) : Except String Url :=
  if ¬ c.isEnabled = true then .error "oidc is not configured"
  else
    match parse c.authorizeURL with
    | .error e => .error ("invalid authorize url: " ++ e)
    | .ok u => .ok (u.withQuery (c.authorizationQuery u.rawQuery state codeChallenge))

/-- `BuildCodeChallenge`; `sha256` is `sha256.Sum256`. -/
def buildCodeChallenge (sha256 : Bytes → Bytes) (codeVerifier : Bytes) : Bytes :=
  Base64.encode (sha256 codeVerifier)

/-- The form that `ExchangeCode` posts to the token endpoint. -/
def OIDCClientConfig.exchangeForm (c : OIDCClientConfig) (code codeVerifier : Bytes) : Values :=
  let form : Values := []
  let form := form.set (lit "grant_type") (lit "authorization_code")
  let form := form.set (lit "code") code
  let form := form.set (lit "redirect_uri") (utf8 c.redirectURL)
  let form := form.set (lit "client_id") (utf8 c.clientID)
  let form :=
    if c.clientSecret ≠ "" then form.set (lit "client_secret") (utf8 c.clientSecret) else form
  form.set (lit "code_verifier") codeVerifier

/-! ### The handlers -/

/-- How long a login may take. -/
def loginTTL : Int := 5 * 60 * second

/-- The client of a handler, when there is one that is enabled. -/
def enabledClient (client : Except String OIDCClientConfig) : Except HttpError OIDCClientConfig :=
  match client with
  | .error e => .error ⟨500, e, none⟩
  | .ok c => if c.isEnabled then .ok c else .error ⟨501, "oidc is not configured", none⟩

/-- What `OIDCLogin` draws: the outcomes of `GenerateState` and `GenerateCodeVerifier`. -/
structure LoginDraw where
  state : Option Bytes
  codeVerifier : Option Bytes

/-- A login before its entry is saved. -/
structure PendingLogin where
  client : OIDCClientConfig
  state : Bytes
  data : OIDCStateData

/-- `OIDCLogin` before `Save`. -/
def oidcLogin (client : Except String OIDCClientConfig) (draw : LoginDraw) (now : Time)
    (next : Bytes) : Except HttpError PendingLogin := do
  let client ← enabledClient client
  match draw.state, draw.codeVerifier with
  | none, _ => .error ⟨500, "failed to generate state", none⟩
  | _, none => .error ⟨500, "failed to generate code verifier", none⟩
  | some state, some codeVerifier =>
    .ok { client, state
          data := { codeVerifier, redirectAfter := redirectAfter next
                    expiresAt := now + loginTTL } }

/-- `OIDCLogin` behind `Save`: where the browser is sent. -/
def PendingLogin.redirect (parse : String → Except String Url) (sha256 : Bytes → Bytes)
    (p : PendingLogin) : Except HttpError Url :=
  (p.client.buildAuthorizationURL parse p.state
    (buildCodeChallenge sha256 p.data.codeVerifier)).mapError fun e => ⟨500, e, none⟩

/-- `OIDCCallback` before `Consume`. -/
def oidcCallbackChecks (client : Except String OIDCClientConfig) (code state : Bytes) :
    Except HttpError OIDCClientConfig := do
  let client ← enabledClient client
  if code = [] ∨ state = [] then .error ⟨400, "missing code or state", none⟩ else .ok client

/-- `OIDCCallback` up to the request to the token endpoint: the store, and the form of the request
with the entry that was consumed. -/
def exchange (s : OIDCStateStore) (now : Time) (client : Except String OIDCClientConfig)
    (code state : Bytes) : OIDCStateStore × Except HttpError (OIDCStateData × Values) :=
  match oidcCallbackChecks client code state with
  | .error e => (s, .error e)
  | .ok client =>
    match s.consume now state with
    | (s, none) => (s, .error ⟨400, "invalid or expired state", none⟩)
    | (s, some data) => (s, .ok (data, client.exchangeForm code data.codeVerifier))

/-! ### What the identity provider reads -/

section

variable {c : OIDCClientConfig}

lemma distinct_authorizationQuery (query state codeChallenge : Bytes) :
    Distinct (c.authorizationQuery query state codeChallenge) := by
  unfold OIDCClientConfig.authorizationQuery
  repeat apply distinct_set
  exact distinct_ofQuery query

/-- A parameter of the authorization request, as the identity provider reads it. -/
lemma get_authorizationQuery (query state codeChallenge key : Bytes) :
    valuesGet (parseQuery (c.authorizationQuery query state codeChallenge).encode) key =
      if key = lit "code_challenge_method" then lit "S256"
      else if key = lit "code_challenge" then codeChallenge
      else if key = lit "state" then state
      else if key = lit "scope" then utf8 (" ".intercalate c.scopes)
      else if key = lit "response_type" then lit "code"
      else if key = lit "redirect_uri" then utf8 c.redirectURL
      else if key = lit "client_id" then utf8 c.clientID
      else valuesGet (parseQuery query) key := by
  rw [valuesGet_encode (distinct_authorizationQuery query state codeChallenge)]
  simp only [OIDCClientConfig.authorizationQuery, get_set, get_ofQuery]

lemma distinct_exchangeForm (code codeVerifier : Bytes) :
    Distinct (c.exchangeForm code codeVerifier) := by
  unfold OIDCClientConfig.exchangeForm
  have hnil : Distinct ([] : Values) := List.nodup_nil
  split <;> (repeat apply distinct_set) <;> exact hnil

end

end OpsPlatform.Iam
