/-
The form of the OIDC settings (`web/src/lib/oidc.ts`) against the server: which forms its validator
lets through, and what a form that nobody edited sends back.
-/
import OpsPlatform.Iam.OidcTested
import OpsPlatform.Lib.Run

namespace OpsPlatform.Web

open Lib Lib.Text Lib.Items Iam Security

/-- `OIDCSettingsFormState`. -/
structure OIDCSettingsFormState where
  authorizeURL : String := ""
  clientID : String := ""
  clientSecret : String := ""
  enabled : Bool := false
  issuerURL : String := ""
  redirectURL : String := ""
  scopes : String := ""
  tokenURL : String := ""
  userInfoURL : String := ""

/-- `parseScopes`. -/
def parseScopes (value : String) : List String :=
  let raw := trimSpace value
  if raw = "" then defaultScopes else collect (split raw)

/-- `oidcSettingsToForm`, of the settings in the server's answer. -/
def oidcSettingsToForm (settings : OIDCSettings) : OIDCSettingsFormState :=
  { authorizeURL := settings.authorizeURL, clientID := settings.clientID, clientSecret := "",
    enabled := settings.enabled, issuerURL := settings.issuerURL,
    redirectURL := settings.redirectURL,
    scopes := join (if settings.scopes ≠ [] then settings.scopes else defaultScopes),
    tokenURL := settings.tokenURL, userInfoURL := settings.userInfoURL }

/-- `oidcFormToPayload`, as the request that the server decodes: a `client_secret` that is missing
is nil there. -/
def oidcFormToPayload (form : OIDCSettingsFormState) : UpdateOIDCSettingsRequest :=
  { authorizeURL := trimSpace form.authorizeURL, clientID := trimSpace form.clientID,
    enabled := form.enabled, issuerURL := trimSpace form.issuerURL,
    redirectURL := trimSpace form.redirectURL, scopes := parseScopes form.scopes,
    tokenURL := trimSpace form.tokenURL, userInfoURL := trimSpace form.userInfoURL,
    clientSecret :=
      if trimSpace form.clientSecret ≠ "" then some (trimSpace form.clientSecret) else none }

/-- `validateOIDCForm`. -/
def validateOIDCForm (form : OIDCSettingsFormState) : String :=
  if ¬ form.enabled = true then ""
  else if trimSpace form.clientID = "" then "Client ID is required when OIDC is enabled."
  else if trimSpace form.redirectURL = "" then "Redirect URL is required when OIDC is enabled."
  else
    let hasIssuer := trimSpace form.issuerURL ≠ ""
    if ¬ hasIssuer ∧ trimSpace form.authorizeURL = "" then
      "Issuer URL or authorize URL is required."
    else if ¬ hasIssuer ∧ trimSpace form.tokenURL = "" then
      "Issuer URL or token URL is required."
    else if ¬ hasIssuer ∧ trimSpace form.userInfoURL = "" then
      "Issuer URL or userinfo URL is required."
    else ""

/-! ### The validators -/

lemma not_and_not_iff {p q : Prop} : ¬ (¬ p ∧ q) ↔ ¬ q ∨ p := by
  by_cases hp : p <;> simp [hp]

/-- What the form's validator accepts. -/
lemma validateOIDCForm_eq_empty {form : OIDCSettingsFormState} :
    validateOIDCForm form = "" ↔
      (form.enabled = true → trimSpace form.clientID ≠ "" ∧ trimSpace form.redirectURL ≠ "" ∧
        (trimSpace form.authorizeURL ≠ "" ∨ trimSpace form.issuerURL ≠ "") ∧
        (trimSpace form.tokenURL ≠ "" ∨ trimSpace form.issuerURL ≠ "") ∧
        (trimSpace form.userInfoURL ≠ "" ∨ trimSpace form.issuerURL ≠ "")) := by
  rw [validateOIDCForm]
  by_cases henabled : form.enabled = true
  · rw [if_neg (not_not_intro henabled), ite_text_eq_empty (by decide),
      ite_text_eq_empty (by decide), ite_text_eq_empty (by decide),
      ite_text_eq_empty (by decide), ite_text_eq_empty (by decide)]
    simp only [henabled, true_implies, and_true, not_and_not_iff, ne_eq]
  · simp [henabled]

/-- The payload of a form is accepted by the server when the form is accepted by its validator. -/
lemma accepts_iff_validateOIDCForm (form : OIDCSettingsFormState) :
    validateOIDCForm form = "" ↔
      ∃ r, normalizeOIDCSettingsRequest (oidcFormToPayload form) = .ok r := by
  rw [validateOIDCForm_eq_empty, exists_normalizeOIDCSettingsRequest]
  simp only [oidcFormToPayload, HasEndpoints, trimRequest, trimSpace_trimSpace]

/-! ### The stored settings -/

variable (c : Cipher) (masterKey : Bytes)

/-- What writes the settings: an administrator's update, or the seed at the start of the server. -/
inductive OIDCWrite where
  | update (nonce : Nonce) (now : Time) (req : UpdateOIDCSettingsRequest)
  | seed (nonce : Nonce) (now : Time) (req : UpdateOIDCSettingsRequest)

/-- A write; one that fails leaves the row as it is. -/
def OIDCWrite.apply (db : Db) : OIDCWrite → Db
  | .update nonce now req =>
    match updateOIDCSettings c masterKey nonce now db req with
    | .ok saved => saved.1
    | .error _ => db
  | .seed nonce now req =>
    match seedOIDCSettings c masterKey nonce now db req with
    | .ok saved => saved.1
    | .error _ => db

/-- The row, when there is one, was saved from a trimmed request, complete if it is enabled, with
scopes in order. -/
def SavedRow (db : Db) : Prop :=
  ∀ row, db.iamOidcConfig = some row → ∃ now req encrypted secret,
    row = settingsRow now req encrypted ∧ OpensTo c masterKey encrypted secret ∧ Trimmed req ∧
      (req.enabled = true → Complete req) ∧
      normalizeScopes (normalizeScopes req.scopes) = normalizeScopes req.scopes

variable {c masterKey}

/-- A save of a request with the invariant's properties. -/
lemma SavedRow.save {db db' : Db} (hc : c.Lawful) (hkey : masterKey.length = 32) {nonce : Nonce}
    {now : Time} {req : UpdateOIDCSettingsRequest} {settings : OIDCSettings}
    (htrim : Trimmed req) (hcomplete : req.enabled = true → Complete req)
    (hscopes : ∃ scopes, req.scopes = normalizeScopes scopes)
    (h : saveOIDCSettings c masterKey nonce now db req = .ok (db', settings)) :
    SavedRow c masterKey db' := by
  cases hcurrent : getOIDCSettings c masterKey db with
  | error e =>
    rw [saveOIDCSettings, hcurrent] at h
    cases h
  | ok current =>
    obtain ⟨encrypted, hopens, hsave⟩ := saveOIDCSettings_eq hc hkey nonce now hcurrent req
    rw [hsave] at h
    obtain ⟨rfl, -⟩ := Prod.mk.inj (Except.ok.inj h)
    intro row hrow
    obtain rfl := Option.some.inj hrow
    obtain ⟨scopes, hscopes⟩ := hscopes
    refine ⟨now, req, encrypted, _, rfl, hopens, htrim, hcomplete, ?_⟩
    rw [hscopes]
    exact normalizeScopes_stable scopes

/-- What is not complete is seeded as disabled. -/
lemma seedRequest_trimRequest (req : UpdateOIDCSettingsRequest) :
    Trimmed (seedRequest (trimRequest req)) ∧
      ((seedRequest (trimRequest req)).enabled = true → Complete (seedRequest (trimRequest req))) ∧
      ∃ scopes, (seedRequest (trimRequest req)).scopes = normalizeScopes scopes := by
  rw [seedRequest]
  split
  · next r hr =>
    obtain ⟨htrim, hcomplete, -, -, hscopes⟩ := normalizeOIDCSettingsRequest_eq_ok hr
    exact ⟨htrim, hcomplete, _, hscopes⟩
  · have htrim := trimmed_trimRequest req
    refine ⟨⟨htrim.issuerURL, htrim.clientID, htrim.redirectURL, htrim.authorizeURL,
      htrim.tokenURL, htrim.userInfoURL⟩, ?_, req.scopes, rfl⟩
    exact fun h => absurd h Bool.false_ne_true

/-- Every write keeps the row so. -/
lemma SavedRow.apply {db : Db} (h : SavedRow c masterKey db) (hc : c.Lawful)
    (hkey : masterKey.length = 32) (w : OIDCWrite) :
    SavedRow c masterKey (w.apply c masterKey db) := by
  cases w with
  | update nonce now req =>
    rw [OIDCWrite.apply]
    split
    · next saved hsaved =>
      rw [updateOIDCSettings, Except.bind_eq_ok] at hsaved
      obtain ⟨r, hr, hsaved⟩ := hsaved
      obtain ⟨htrim, hcomplete, -, -, hscopes⟩ := normalizeOIDCSettingsRequest_eq_ok hr
      exact SavedRow.save hc hkey htrim hcomplete ⟨_, hscopes⟩ hsaved
    · exact h
  | seed nonce now req =>
    rw [OIDCWrite.apply]
    split
    · next saved hsaved =>
      rw [seedOIDCSettings, Except.bind_eq_ok] at hsaved
      obtain ⟨current, -, hsaved⟩ := hsaved
      split at hsaved
      · obtain rfl := Except.ok.inj hsaved
        exact h
      · simp only at hsaved
        split at hsaved
        · obtain rfl := Except.ok.inj hsaved
          exact h
        · rw [Except.bind_eq_ok] at hsaved
          obtain ⟨stored, hstored, hsaved⟩ := hsaved
          obtain rfl := Except.ok.inj hsaved
          obtain ⟨htrim, hcomplete, hscopes⟩ := seedRequest_trimRequest req
          exact SavedRow.save hc hkey htrim hcomplete hscopes hstored
    · exact h

/-- In every run of writes from an empty table. -/
lemma savedRow_run (hc : c.Lawful) (hkey : masterKey.length = 32) {db : Db}
    (hempty : db.iamOidcConfig = none) (writes : List OIDCWrite) :
    SavedRow c masterKey (Run.run (OIDCWrite.apply c masterKey) db writes) := by
  refine Run.invariant (I := SavedRow c masterKey) (fun _ w h => h.apply hc hkey w) ?_ writes
  intro row hrow
  rw [hempty] at hrow
  cases hrow

/-! ### A form that nobody edited -/

/-- A request carries the settings, and no secret. -/
structure Carries (req : UpdateOIDCSettingsRequest) (settings : OIDCSettings) : Prop where
  enabled : req.enabled = settings.enabled
  issuerURL : req.issuerURL = settings.issuerURL
  clientID : req.clientID = settings.clientID
  redirectURL : req.redirectURL = settings.redirectURL
  authorizeURL : req.authorizeURL = settings.authorizeURL
  tokenURL : req.tokenURL = settings.tokenURL
  userInfoURL : req.userInfoURL = settings.userInfoURL
  scopes : req.scopes = settings.scopes
  clientSecret : req.clientSecret = none

/-- Joined scopes are parsed to themselves. -/
lemma parseScopes_join {scopes : List String} (h : Clean scopes) (hne : scopes ≠ [])
    (hcomma : ∀ scope ∈ scopes, ',' ∉ scope.toList) : parseScopes (join scopes) = scopes := by
  rw [parseScopes, trimSpace_join h]
  exact (if_neg (join_ne_empty h hne)).trans
    (collect_eq (map_trimSpace_split_join h hne hcomma) h)

/-- The payload of the form of trimmed settings. -/
lemma carries_payload {settings : OIDCSettings} (htrim : Trimmed
      { issuerURL := settings.issuerURL, clientID := settings.clientID,
        redirectURL := settings.redirectURL, authorizeURL := settings.authorizeURL,
        tokenURL := settings.tokenURL, userInfoURL := settings.userInfoURL })
    (hscopes : Clean settings.scopes) (hne : settings.scopes ≠ [])
    (hcomma : ∀ scope ∈ settings.scopes, ',' ∉ scope.toList) :
    Carries (oidcFormToPayload (oidcSettingsToForm settings)) settings where
  enabled := rfl
  issuerURL := htrim.issuerURL
  clientID := htrim.clientID
  redirectURL := htrim.redirectURL
  authorizeURL := htrim.authorizeURL
  tokenURL := htrim.tokenURL
  userInfoURL := htrim.userInfoURL
  scopes := by
    simp only [oidcFormToPayload, oidcSettingsToForm, if_pos hne]
    rw [parseScopes_join hscopes hne hcomma]
  clientSecret := by
    have hblank : trimSpace "" = "" := by decide
    simp [oidcFormToPayload, oidcSettingsToForm, hblank]

/-- A request that carries the stored settings stores them again. -/
lemma updateOIDCSettings_of_carries {db : Db} {stored : Time}
    {req payload : UpdateOIDCSettingsRequest} {secret : String} (hc : c.Lawful)
    (hkey : masterKey.length = 32) (nonce : Nonce) (now : Time)
    (hget : getOIDCSettings c masterKey db = .ok (savedSettings stored req secret))
    (hcomplete : req.enabled = true → Complete req) (htrim : Trimmed req)
    (hstable : normalizeScopes (normalizeScopes req.scopes) = normalizeScopes req.scopes)
    (h : Carries payload (savedSettings stored req secret)) :
    ∃ db', updateOIDCSettings c masterKey nonce now db payload =
      .ok (db', savedSettings now req secret) := by
  have hissuer : payload.issuerURL = req.issuerURL := h.issuerURL.trans htrim.issuerURL
  have hclient : payload.clientID = req.clientID := h.clientID.trans htrim.clientID
  have hredirect : payload.redirectURL = req.redirectURL := h.redirectURL.trans htrim.redirectURL
  have hauthorize : payload.authorizeURL = req.authorizeURL :=
    h.authorizeURL.trans htrim.authorizeURL
  have htoken : payload.tokenURL = req.tokenURL := h.tokenURL.trans htrim.tokenURL
  have huserInfo : payload.userInfoURL = req.userInfoURL := h.userInfoURL.trans htrim.userInfoURL
  have hscopes : payload.scopes = normalizeScopes req.scopes := h.scopes
  -- the form sends the settings back, without the secret
  have hpayload : payload =
      { req with clientSecret := none, scopes := normalizeScopes req.scopes } := by
    obtain ⟨enabled, issuerURL, clientID, clientSecret, redirectURL, authorizeURL, tokenURL,
      userInfoURL, scopes⟩ := payload
    have henabled := h.enabled
    have hsecret := h.clientSecret
    simp only at hissuer hclient hredirect hauthorize htoken huserInfo hscopes henabled hsecret
    rw [hissuer, hclient, hredirect, hauthorize, htoken, huserInfo, hscopes, henabled, hsecret,
      savedSettings]
  have hnormal : normalizeOIDCSettingsRequest payload = .ok payload := by
    rw [hpayload, normalizeOIDCSettingsRequest_of_complete]
    · simp only [hstable]
    · exact ⟨htrim.issuerURL, htrim.clientID, htrim.redirectURL, htrim.authorizeURL,
        htrim.tokenURL, htrim.userInfoURL⟩
    · intro henabled
      have hreq := hcomplete henabled
      exact ⟨hreq.clientID, hreq.redirectURL, hreq.authorizeURL, hreq.tokenURL, hreq.userInfoURL⟩
  obtain ⟨encrypted, -, hsave⟩ := saveOIDCSettings_eq hc hkey nonce now hget payload
  refine ⟨{ db with iamOidcConfig := some (settingsRow now payload encrypted) }, ?_⟩
  rw [updateOIDCSettings, hnormal, Except.ok_bind, hsave]
  have hsecret : requestSecret payload (savedSettings stored req secret) = secret := by
    rw [requestSecret, h.clientSecret]
    rfl
  have hsettings : savedSettings now payload secret = savedSettings now req secret := by
    rw [hpayload]
    simp only [savedSettings, hstable]
  rw [hsecret, hsettings]

/-- **Form and server agree.**  The form's validator accepts a form when the server accepts its
payload.  In every state that saves and seeds reach, the form of the settings that the server
returns, sent back unedited, carries these settings, and saving it stores them again. -/
theorem oidcForm_agrees (hc : c.Lawful) (hkey : masterKey.length = 32) :
    (∀ form, validateOIDCForm form = "" ↔
      ∃ r, normalizeOIDCSettingsRequest (oidcFormToPayload form) = .ok r) ∧
    ∀ (db₀ db : Db) (writes : List OIDCWrite) (settings : OIDCSettings),
      db₀.iamOidcConfig = none → db = Run.run (OIDCWrite.apply c masterKey) db₀ writes →
      getOIDCSettings c masterKey db = .ok settings → settings.scopes ≠ [] →
      (∀ scope ∈ settings.scopes, ',' ∉ scope.toList) →
      Carries (oidcFormToPayload (oidcSettingsToForm settings)) settings ∧
        ∀ nonce now, ∃ db', updateOIDCSettings c masterKey nonce now db
          (oidcFormToPayload (oidcSettingsToForm settings)) =
            .ok (db', { settings with updatedAt := now }) := by
  refine ⟨accepts_iff_validateOIDCForm, ?_⟩
  rintro db₀ db writes settings hempty rfl hget hne hcomma
  have hsaved := savedRow_run hc hkey hempty writes
  generalize Run.run (OIDCWrite.apply c masterKey) db₀ writes = db at hget hsaved ⊢
  cases hrow : db.iamOidcConfig with
  | none =>
    -- without a row there are no scopes
    rw [getOIDCSettings, hrow] at hget
    obtain rfl := Except.ok.inj hget
    exact absurd rfl hne
  | some row =>
    obtain ⟨stored, req, encrypted, secret, rfl, hopens, htrim, hcomplete, hstable⟩ :=
      hsaved row hrow
    have hread := getOIDCSettings_settingsRow hopens hrow
    obtain rfl : savedSettings stored req secret = settings :=
      Except.ok.inj (hread.symm.trans hget)
    have hpayload : Carries (oidcFormToPayload
        (oidcSettingsToForm (savedSettings stored req secret))) (savedSettings stored req secret) :=
      carries_payload ⟨trimSpace_trimSpace _, trimSpace_trimSpace _, trimSpace_trimSpace _,
        trimSpace_trimSpace _, trimSpace_trimSpace _, trimSpace_trimSpace _⟩
        (clean_normalizeScopes _).1 hne hcomma
    refine ⟨hpayload, ?_⟩
    intro nonce now
    exact updateOIDCSettings_of_carries hc hkey nonce now hread hcomplete htrim hstable hpayload

/-- The form of the first settings that are saved. -/
theorem oidcForm_agrees_issuerRequest :
    ∃ settings, getOIDCSettings plainCipher (List.replicate 32 7)
        (Run.run (OIDCWrite.apply plainCipher (List.replicate 32 7)) {}
          [.update ⟨List.replicate 12 1, rfl⟩ 5 issuerRequest]) = .ok settings ∧
      Carries (oidcFormToPayload (oidcSettingsToForm settings)) settings := by
  have hkey : (List.replicate 32 7 : Bytes).length = 32 := List.length_replicate ..
  obtain ⟨r, hr⟩ : ∃ r, normalizeOIDCSettingsRequest issuerRequest = .ok r :=
    exists_normalizeOIDCSettingsRequest.mpr fun _ =>
      ⟨by decide, by decide, by decide, by decide, by decide⟩
  have hempty : getOIDCSettings plainCipher (List.replicate 32 7) {} = .ok {} := rfl
  obtain ⟨encrypted, hopens, hsave⟩ := saveOIDCSettings_eq plainCipher_lawful hkey
    ⟨List.replicate 12 1, rfl⟩ 5 hempty r
  have hrun : Run.run (OIDCWrite.apply plainCipher (List.replicate 32 7)) {}
      [.update ⟨List.replicate 12 1, rfl⟩ 5 issuerRequest] =
        { iamOidcConfig := some (settingsRow 5 r encrypted) } := by
    rw [Run.run_cons, Run.run_nil, OIDCWrite.apply, updateOIDCSettings, hr, Except.ok_bind, hsave]
  have hget := getOIDCSettings_settingsRow hopens
    (show Db.iamOidcConfig { iamOidcConfig := some (settingsRow 5 r encrypted) } = _ from rfl)
  refine ⟨_, by rw [hrun]; exact hget, ?_⟩
  refine ((oidcForm_agrees plainCipher_lawful hkey).2 {} _ _ _ rfl rfl (by rw [hrun]; exact hget)
    (clean_normalizeScopes _).2 ?_).1
  obtain ⟨-, -, -, -, hscopes⟩ := normalizeOIDCSettingsRequest_eq_ok hr
  have hfree : ∀ scope ∈ normalizeScopes (normalizeScopes issuerRequest.scopes),
      ',' ∉ scope.toList := by decide
  rw [← hscopes] at hfree
  exact hfree

end OpsPlatform.Web
