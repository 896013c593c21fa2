/-
The tested OIDC configuration is the one that runs: what `oidcClientConfigForRequest` computes for
an enabled request is what `oidcClient` computes once the request is saved.

The scopes are normalised twice before the test and twice before they are stored, and then a third
time when the client is built, by when they are in order.
-/
import OpsPlatform.Iam.OidcSettings

namespace OpsPlatform.Iam

open Lib Lib.Text Lib.Items Security
open SshProxy (decryptColumn decryptColumn_decrypt)

variable {c : Cipher} {masterKey : Bytes} {db : Db} {now : Time}

/-! ### What is read after a save -/

/-- The settings that are read from a row that was saved. -/
def savedSettings (now : Time) (req : UpdateOIDCSettingsRequest) (clientSecret : String) :
    OIDCSettings :=
  { exists_ := true, enabled := req.enabled, issuerURL := trimSpace req.issuerURL,
    clientID := trimSpace req.clientID, clientSecret,
    hasClientSecret := decide (clientSecret ≠ ""), redirectURL := trimSpace req.redirectURL,
    authorizeURL := trimSpace req.authorizeURL, tokenURL := trimSpace req.tokenURL,
    userInfoURL := trimSpace req.userInfoURL, scopes := normalizeScopes req.scopes,
    updatedAt := now }

lemma decodeItems_str (scopes : List String) :
    Json.decodeItems [] (scopes.map .str) = some scopes := by
  induction scopes with
  | nil => rfl
  | cons s scopes ih =>
    rw [List.map_cons, Json.decodeItems, List.tail_nil, ih]
    rfl

lemma getOIDCSettings_settingsRow {req : UpdateOIDCSettingsRequest} {encrypted secret : String}
    (h : OpensTo c masterKey encrypted secret)
    (hrow : db.iamOidcConfig = some (settingsRow now req encrypted)) :
    getOIDCSettings c masterKey db = .ok (savedSettings now req secret) := by
  have hscopes : Json.decodeStrings [] (settingsRow now req encrypted).scopes =
      some (normalizeScopes req.scopes) := decodeItems_str _
  have hhas : decide (encrypted ≠ "") = decide (secret ≠ "") := by
    rw [decide_eq_decide, ne_eq, ne_eq, h.eq_empty]
  rw [getOIDCSettings, hrow]
  simp only [hscopes]
  change decryptColumn (decrypt c · masterKey) encrypted >>= _ = _
  rw [decryptColumn_decrypt, h.decrypt, Except.ok_bind,
    if_neg (clean_normalizeScopes req.scopes).2, savedSettings, ← hhas]
  rfl

/-- A save under a key of 32 bytes succeeds when the current settings can be read. -/
lemma saveOIDCSettings_eq (hc : c.Lawful) (hkey : masterKey.length = 32)
    (nonce : Nonce) (now : Time) {current : OIDCSettings}
    (hcurrent : getOIDCSettings c masterKey db = .ok current) (req : UpdateOIDCSettingsRequest) :
    ∃ encrypted, OpensTo c masterKey encrypted (requestSecret req current) ∧
      saveOIDCSettings c masterKey nonce now db req =
        .ok ({ db with iamOidcConfig := some (settingsRow now req encrypted) },
          savedSettings now req (requestSecret req current)) := by
  obtain ⟨encrypted, hencrypt, hopens⟩ :=
    exists_encrypt hc hkey nonce (requestSecret req current)
  refine ⟨encrypted, hopens, ?_⟩
  rw [saveOIDCSettings, hcurrent]
  simp only [Except.ok_bind]
  rw [hencrypt, Except.ok_bind, getOIDCSettings_settingsRow hopens rfl, Except.ok_bind]

/-! ### The two configurations -/

/-- A complete configuration stays as it is. -/
lemma completeOIDCClientConfig_of_ne {cfg : OIDCClientConfig} (hauthorize : cfg.authorizeURL ≠ "")
    (htoken : cfg.tokenURL ≠ "") (huserInfo : cfg.userInfoURL ≠ "") :
    completeOIDCClientConfig cfg = cfg := by
  simp [completeOIDCClientConfig, completeURL, hauthorize, htoken, huserInfo]

/-- The configuration of an accepted request. -/
def configOf (r : UpdateOIDCSettingsRequest) (clientSecret : String) : OIDCClientConfig :=
  { issuerURL := r.issuerURL, clientID := r.clientID, clientSecret, redirectURL := r.redirectURL,
    authorizeURL := r.authorizeURL, tokenURL := r.tokenURL, userInfoURL := r.userInfoURL,
    scopes := normalizeScopes r.scopes }

/-- What is tested. -/
lemma oidcClientConfigForRequest_eq {req r : UpdateOIDCSettingsRequest} {current : OIDCSettings}
    (haccepted : normalizeOIDCSettingsRequest req = .ok r) (henabled : r.enabled = true)
    (hcurrent : getOIDCSettings c masterKey db = .ok current) :
    oidcClientConfigForRequest c masterKey db req =
      .ok (configOf r (requestSecret r current)) := by
  obtain ⟨-, hcomplete, -⟩ := normalizeOIDCSettingsRequest_eq_ok haccepted
  have hcomplete := hcomplete henabled
  rw [oidcClientConfigForRequest, haccepted, Except.ok_bind, if_neg (not_not_intro henabled),
    hcurrent, Except.ok_bind]
  exact congrArg Except.ok (completeOIDCClientConfig_of_ne hcomplete.authorizeURL
    hcomplete.tokenURL hcomplete.userInfoURL)

/-- A client that is built from saved settings has the configuration of the request. -/
lemma oidcClient_of_saved {r : UpdateOIDCSettingsRequest} {secret : String}
    (hget : getOIDCSettings c masterKey db = .ok (savedSettings now r secret))
    (henabled : r.enabled = true) (htrim : Trimmed r) (hcomplete : Complete r)
    (hscopes : normalizeScopes (normalizeScopes r.scopes) = normalizeScopes r.scopes) :
    oidcClient c masterKey db = .ok (configOf r secret) := by
  have hon : (savedSettings now r secret).exists_ = true ∧
      (savedSettings now r secret).enabled = true := ⟨rfl, henabled⟩
  rw [oidcClient, hget, Except.ok_bind, if_neg (not_not_intro hon)]
  simp only [savedSettings, htrim.issuerURL, htrim.clientID, htrim.redirectURL,
    htrim.authorizeURL, htrim.tokenURL, htrim.userInfoURL, hscopes]
  exact congrArg Except.ok (completeOIDCClientConfig_of_ne hcomplete.authorizeURL
    hcomplete.tokenURL hcomplete.userInfoURL)

/-- **The tested configuration runs.**  For an accepted request that is enabled, the test and the
save read the stored row alike.  When it cannot be read both fail; otherwise the save succeeds, and
the client then has the configuration that was tested. -/
theorem tested_config_runs (hc : c.Lawful) (hkey : masterKey.length = 32)
    (nonce : Nonce) (now : Time) (db : Db) {req r : UpdateOIDCSettingsRequest}
    (henabled : req.enabled = true) (haccepted : normalizeOIDCSettingsRequest req = .ok r) :
    (∃ cfg saved, oidcClientConfigForRequest c masterKey db req = .ok cfg ∧
        updateOIDCSettings c masterKey nonce now db req = .ok saved ∧
        oidcClient c masterKey saved.1 = .ok cfg) ∨
      ∃ e, getOIDCSettings c masterKey db = .error e ∧
        oidcClientConfigForRequest c masterKey db req = .error e ∧
        updateOIDCSettings c masterKey nonce now db req = .error e := by
  obtain ⟨htrim, hcomplete, henabled', -, hscopes⟩ := normalizeOIDCSettingsRequest_eq_ok haccepted
  have hr : r.enabled = true := henabled'.trans henabled
  have hcomplete := hcomplete hr
  cases hcurrent : getOIDCSettings c masterKey db with
  | error e =>
    refine Or.inr ⟨e, rfl, ?_, ?_⟩
    · rw [oidcClientConfigForRequest, haccepted, Except.ok_bind, if_neg (not_not_intro hr),
        hcurrent]
      rfl
    · rw [updateOIDCSettings, haccepted, Except.ok_bind, saveOIDCSettings, hcurrent]
      rfl
  | ok current =>
    obtain ⟨encrypted, hopens, hsave⟩ := saveOIDCSettings_eq hc hkey nonce now hcurrent r
    refine Or.inl ⟨configOf r (requestSecret r current),
      ({ db with iamOidcConfig := some (settingsRow now r encrypted) },
        savedSettings now r (requestSecret r current)), ?_, ?_, ?_⟩
    · exact oidcClientConfigForRequest_eq haccepted hr hcurrent
    · rw [updateOIDCSettings, haccepted, Except.ok_bind, hsave]
    · refine oidcClient_of_saved (getOIDCSettings_settingsRow hopens rfl) hr htrim hcomplete ?_
      rw [hscopes]
      exact normalizeScopes_stable req.scopes

/-- A request that leaves its endpoints to the issuer, with scopes out of order and one twice. -/
def issuerRequest : UpdateOIDCSettingsRequest :=
  { enabled := true, issuerURL := " https://id.example/ ", clientID := "ops",
    redirectURL := "https://ops.example/callback", scopes := ["openid", " email", "openid"] }

/-- Its test and its save, over a row whose secret it keeps. -/
theorem tested_config_runs_issuerRequest :
    ∃ stored cfg saved,
      updateOIDCSettings plainCipher (List.replicate 32 7) ⟨List.replicate 12 1, rfl⟩ 5 {}
        { issuerRequest with clientSecret := some " s3cret " } = .ok stored ∧
      oidcClientConfigForRequest plainCipher (List.replicate 32 7) stored.1 issuerRequest =
        .ok cfg ∧ cfg.clientSecret = "s3cret" ∧
      updateOIDCSettings plainCipher (List.replicate 32 7) ⟨List.replicate 12 2, rfl⟩ 6 stored.1
        issuerRequest = .ok saved ∧
      oidcClient plainCipher (List.replicate 32 7) saved.1 = .ok cfg := by
  obtain ⟨first, hfirst⟩ : ∃ r,
      normalizeOIDCSettingsRequest { issuerRequest with clientSecret := some " s3cret " } = .ok r :=
    exists_normalizeOIDCSettingsRequest.mpr fun _ =>
      ⟨by decide, by decide, by decide, by decide, by decide⟩
  obtain ⟨r, hr⟩ : ∃ r, normalizeOIDCSettingsRequest issuerRequest = .ok r :=
    exists_normalizeOIDCSettingsRequest.mpr fun _ =>
      ⟨by decide, by decide, by decide, by decide, by decide⟩
  obtain ⟨-, -, -, hgiven, -⟩ := normalizeOIDCSettingsRequest_eq_ok hfirst
  obtain ⟨-, -, henabled, hkept, -⟩ := normalizeOIDCSettingsRequest_eq_ok hr
  have hkey : (List.replicate 32 7 : Bytes).length = 32 := List.length_replicate ..
  have hempty : getOIDCSettings plainCipher (List.replicate 32 7) {} = .ok {} := rfl
  obtain ⟨encrypted, hopens, hsave⟩ := saveOIDCSettings_eq plainCipher_lawful hkey
    ⟨List.replicate 12 1, rfl⟩ 5 hempty first
  have hsecret : requestSecret first {} = "s3cret" := by
    rw [requestSecret, hgiven]
    decide
  rw [hsecret] at hopens hsave
  have hcurrent : getOIDCSettings plainCipher (List.replicate 32 7)
      { iamOidcConfig := some (settingsRow 5 first encrypted) } =
        .ok (savedSettings 5 first "s3cret") := getOIDCSettings_settingsRow hopens rfl
  have htested := oidcClientConfigForRequest_eq hr (henabled.trans rfl) hcurrent
  rcases tested_config_runs plainCipher_lawful hkey ⟨List.replicate 12 2, rfl⟩ 6
    { iamOidcConfig := some (settingsRow 5 first encrypted) } rfl hr with
    ⟨cfg, saved, hcfg, hsaved, hclient⟩ | ⟨e, he, -⟩
  · refine ⟨({ iamOidcConfig := some (settingsRow 5 first encrypted) },
      savedSettings 5 first "s3cret"), cfg, saved, ?_, hcfg, ?_, hsaved, hclient⟩
    · rw [updateOIDCSettings, hfirst, Except.ok_bind, hsave]
    · obtain rfl := Except.ok.inj (hcfg.symm.trans htested)
      show requestSecret r (savedSettings 5 first "s3cret") = "s3cret"
      rw [requestSecret, hkept]
      rfl
  · rw [hcurrent] at he
    cases he

end OpsPlatform.Iam
