/-
The connection profile as it is read (`GetAssetConnectionProfile` and
`ResolveAssetConnectionProfile` in `internal/cmdb/repository.go`), and what an edit of it leaves.

A field of the request that may be `nil` keeps what the profile had, secrets included: they are
decrypted, and encrypted again.
-/
import OpsPlatform.Cmdb.Connection
import OpsPlatform.Security.Crypto

namespace OpsPlatform.Cmdb

open Lib Lib.Table Lib.Text SshProxy Security

/-- `AssetConnectionProfile`. -/
structure AssetConnectionProfile where
  assetID : String := ""
  protocol : String := ""
  host : String := ""
  port : Int := 0
  username : String := ""
  authType : String := ""
  database : String := ""
  bastionEnabled : Bool := false
  proxyID : String := ""
  proxyName : String := ""
  proxyZone : String := ""
  hasPassword : Bool := false
  hasPrivateKey : Bool := false
  hasPassphrase : Bool := false
  password : String := ""
  privateKey : String := ""
  passphrase : String := ""
  lastProbeAt : Option Time := none
  lastProbeStatus : String := ""
  lastProbeError : String := ""
  createdAt : Time := 0
  updatedAt : Time := 0
deriving DecidableEq

/-- `security.Encrypt` and `security.Decrypt` under a master key. -/
def Vault.ofKey (c : Cipher) (masterKey : Bytes) (nonceOf : String → Nonce) : Vault where
  encrypt plaintext := Security.encrypt c (nonceOf plaintext) plaintext masterKey
  decrypt text := Security.decrypt c text masterKey

/-- The columns of a row and of its proxy, when that is live. -/
def profileOfRow (db : Db) (c : ConnectionRow) : AssetConnectionProfile :=
  let proxy := c.proxyId.bind fun id => db.cmdbSshProxy.find? fun p => p.id == id && p.live
  { assetID := c.assetId.toText, protocol := c.protocol, host := c.host, port := c.port
    username := c.username, authType := c.authType, database := c.databaseName
    bastionEnabled := c.bastionEnabled, proxyID := (c.proxyId.map Uuid.toText).getD ""
    proxyName := (proxy.map (·.name)).getD "", proxyZone := (proxy.map (·.networkZone)).getD ""
    hasPassword := trimSpace c.passwordEncrypted != ""
    hasPrivateKey := trimSpace c.privateKeyEncrypted != ""
    hasPassphrase := trimSpace c.passphraseEncrypted != ""
    lastProbeAt := c.lastProbeAt, lastProbeStatus := c.lastProbeStatus
    lastProbeError := c.lastProbeError, createdAt := c.createdAt, updatedAt := c.updatedAt }

/-- The profile of a row with its secrets. -/
def withSecrets (db : Db) (decrypt : String → Except String String) (c : ConnectionRow) :
    Except String AssetConnectionProfile := do
  let password ← decryptColumn decrypt c.passwordEncrypted
  let privateKey ← decryptColumn decrypt c.privateKeyEncrypted
  let passphrase ← decryptColumn decrypt c.passphraseEncrypted
  .ok { profileOfRow db c with password, privateKey, passphrase }

lemma withSecrets_of_ok {db : Db} {decrypt : String → Except String String} {c : ConnectionRow}
    {password privateKey passphrase : String}
    (hpassword : decryptColumn decrypt c.passwordEncrypted = .ok password)
    (hprivateKey : decryptColumn decrypt c.privateKeyEncrypted = .ok privateKey)
    (hpassphrase : decryptColumn decrypt c.passphraseEncrypted = .ok passphrase) :
    withSecrets db decrypt c =
      .ok { profileOfRow db c with password, privateKey, passphrase } := by
  rw [withSecrets, hpassword, Except.ok_bind, hprivateKey, Except.ok_bind, hpassphrase,
    Except.ok_bind]

/-- `GetAssetConnectionProfile`. -/
def getAssetConnectionProfile (db : Db) (decrypt : String → Except String String)
    (assetID : String) (includeSecrets : Bool) : Except String AssetConnectionProfile := do
  let id ← ensureAssetExists db assetID
  match db.cmdbAssetConnection.find? (·.assetId == id) with
  | none => .error errConnectionProfileNotFound
  | some c => if includeSecrets then withSecrets db decrypt c else .ok (profileOfRow db c)

/-- `ResolveAssetConnectionProfile`. -/
def resolveAssetConnectionProfile (db : Db) (decrypt : String → Except String String)
    (assetID : String) : Except String AssetConnectionProfile :=
  getAssetConnectionProfile db decrypt assetID true

/-- `UpsertAssetConnectionProfile`, with the profile that it returns. -/
def putAssetConnectionProfile (db : Db) (vault : Vault) (now : Time) (newId : Uuid)
    (assetID : String) (req : UpsertAssetConnectionProfileRequest) :
    Db × Except String AssetConnectionProfile :=
  match upsertAssetConnectionProfile db vault now newId assetID req with
  | .error e => (db, .error e)
  | .ok db' => (db', getAssetConnectionProfile db' vault.decrypt assetID false)

/-! ### What an edit starts from -/

/-- The profile of before, or what stands for one that is missing. -/
def Previous (db : Db) (decrypt : String → Except String String) (assetID : String)
    (before : AssetConnectionProfile) : Prop :=
  resolveAssetConnectionProfile db decrypt assetID = .ok before ∨
    resolveAssetConnectionProfile db decrypt assetID = .error errConnectionProfileNotFound ∧
      before = { bastionEnabled := true }

/-- The part of the profile that an edit looks at. -/
structure Keeps (current : CurrentProfile) (before : AssetConnectionProfile) : Prop where
  database : before.database = current.database
  proxyID : before.proxyID = (current.proxyID.map Uuid.toText).getD ""
  password : before.password = current.password
  privateKey : before.privateKey = current.privateKey
  passphrase : before.passphrase = current.passphrase
  bastionEnabled : before.bastionEnabled = current.bastionEnabled

lemma exists_previous {db : Db} {vault : Vault} {assetID : String} {id : Uuid}
    {current : CurrentProfile} (hid : ensureAssetExists db assetID = .ok id)
    (h : currentProfile db vault id = .ok current) :
    ∃ before, Previous db vault.decrypt assetID before ∧ Keeps current before := by
  rw [currentProfile] at h
  cases hrow : db.cmdbAssetConnection.find? (·.assetId == id) with
  | none =>
    rw [hrow] at h
    obtain rfl := Except.ok.inj h
    refine ⟨{ bastionEnabled := true }, Or.inr ⟨?_, rfl⟩, rfl, rfl, rfl, rfl, rfl, rfl⟩
    rw [resolveAssetConnectionProfile, getAssetConnectionProfile, hid, Except.ok_bind, hrow]
  | some c =>
    rw [hrow] at h
    dsimp only at h
    rw [Except.bind_eq_ok] at h
    obtain ⟨password, hpassword, h⟩ := h
    rw [Except.bind_eq_ok] at h
    obtain ⟨privateKey, hprivateKey, h⟩ := h
    rw [Except.bind_eq_ok] at h
    obtain ⟨passphrase, hpassphrase, h⟩ := h
    obtain rfl := Except.ok.inj h
    refine ⟨{ profileOfRow db c with password, privateKey, passphrase }, Or.inl ?_, rfl, rfl, rfl,
      rfl, rfl, rfl⟩
    rw [resolveAssetConnectionProfile, getAssetConnectionProfile, hid, Except.ok_bind, hrow]
    dsimp only
    rw [if_pos rfl, withSecrets_of_ok hpassword hprivateKey hpassphrase]

/-! ### What an edit leaves -/

/-- An empty text is replaced. -/
def orDefault (default text : String) : String := if text = "" then default else text

/-- The profile after an accepted request: what the request gives, and what was there for what it
omits. -/
structure Saved (req : UpsertAssetConnectionProfileRequest)
    (before after : AssetConnectionProfile) : Prop where
  protocol : after.protocol = orDefault "ssh" (toLower (trimSpace req.protocol))
  host : after.host = trimSpace req.host
  username : after.username = trimSpace req.username
  authType : after.authType = orDefault "password" (toLower (trimSpace req.authType))
  port : after.port = if req.port ≤ 0 then defaultPort after.protocol else req.port
  password : after.password = (req.password.map trimSpace).getD before.password
  privateKey : after.privateKey = req.privateKey.getD before.privateKey
  passphrase : after.passphrase = req.passphrase.getD before.passphrase
  bastionEnabled : after.bastionEnabled = req.bastionEnabled.getD before.bastionEnabled
  /-- a profile of PostgreSQL has a database, whether it is given or kept -/
  database : after.database =
    if after.protocol = "postgres" then
      orDefault "postgres" ((req.database.map trimSpace).getD before.database)
    else (req.database.map trimSpace).getD before.database
  proxyID : match req.proxyID with
    | none => after.proxyID = before.proxyID
    | some text =>
      if trimSpace text = "" then after.proxyID = ""
      else ∃ id, Uuid.parse (trimSpace text) = some id ∧ Uuid.parse after.proxyID = some id
  hasPassword : after.hasPassword = true ↔ after.password ≠ ""
  hasPrivateKey : after.hasPrivateKey = true ↔ after.privateKey ≠ ""
  hasPassphrase : after.hasPassphrase = true ↔ after.passphrase ≠ ""

section

variable {cipher : Cipher} {masterKey : Bytes} {nonceOf : String → Nonce} {db : Db}
  {req : UpsertAssetConnectionProfileRequest}

/-- A secret of an edited row is resolved as it was encrypted. -/
lemma decryptColumn_of_encrypt (hcipher : cipher.Lawful) (hkey : masterKey.length = 32)
    {plaintext text : String}
    (h : (Vault.ofKey cipher masterKey nonceOf).encrypt plaintext = .ok text) :
    decryptColumn (Vault.ofKey cipher masterKey nonceOf).decrypt text = .ok plaintext ∧
      ((trimSpace text != "") = true ↔ plaintext ≠ "") := by
  have hopens := opensTo_of_encrypt hcipher hkey h
  refine ⟨?_, ?_⟩
  · exact (decryptColumn_decrypt cipher masterKey text).trans hopens.decrypt
  · rw [bne_iff_ne, ne_eq, hopens.blank]

lemma profileProtocol_eq_ok {protocol : String} (h : profileProtocol req = .ok protocol) :
    protocol = orDefault "ssh" (toLower (trimSpace req.protocol)) := by
  unfold profileProtocol at h
  extract_lets typed given at h
  split at h
  · exact (Except.ok.inj h).symm
  · cases h

lemma profileUsername_eq_ok {protocol username : String}
    (h : profileUsername protocol req = .ok username) : username = trimSpace req.username := by
  unfold profileUsername at h
  extract_lets given at h
  rw [Except.ite_error_eq_ok] at h
  exact (Except.ok.inj h.2).symm

lemma profileAuthType_eq_ok {protocol authType : String}
    (h : profileAuthType protocol req = .ok authType) :
    authType = orDefault "password" (toLower (trimSpace req.authType)) := by
  unfold profileAuthType at h
  extract_lets typed given at h
  rw [Except.ite_error_eq_ok, Except.ite_error_eq_ok] at h
  exact (Except.ok.inj h.2.2).symm

/-- What an edited row is resolved to. -/
lemma ProfileEdited.saved (hcipher : cipher.Lawful) (hkey : masterKey.length = 32)
    {current : CurrentProfile} {before : AssetConnectionProfile} {c c' : ConnectionRow} (db' : Db)
    (h : ProfileEdited db (Vault.ofKey cipher masterKey nonceOf) req current c c')
    (hbefore : Keeps current before) :
    ∃ after, withSecrets db' (Vault.ofKey cipher masterKey nonceOf).decrypt c' = .ok after ∧
      Saved req before after := by
  obtain ⟨hpassword, hhasPassword⟩ := decryptColumn_of_encrypt hcipher hkey h.password
  obtain ⟨hprivateKey, hhasPrivateKey⟩ := decryptColumn_of_encrypt hcipher hkey h.privateKey
  obtain ⟨hpassphrase, hhasPassphrase⟩ := decryptColumn_of_encrypt hcipher hkey h.passphrase
  refine ⟨_, withSecrets_of_ok hpassword hprivateKey hpassphrase, ?_⟩
  constructor
  · exact profileProtocol_eq_ok h.protocol
  · have hhost := h.host
    rw [profileHost, Except.ite_error_eq_ok] at hhost
    exact (Except.ok.inj hhost.2).symm
  · exact profileUsername_eq_ok h.username
  · exact profileAuthType_eq_ok h.authType
  · have hport := h.port
    rw [int4, Except.ite_error_eq_ok] at hport
    exact (Except.ok.inj hport.2).symm
  · rw [hbefore.password]
  · rw [hbefore.privateKey]
  · rw [hbefore.passphrase]
  · rw [hbefore.bastionEnabled]
    exact h.bastionEnabled
  · have hdatabase := h.database
    rw [profileDatabase] at hdatabase
    dsimp only [profileOfRow]
    rw [hdatabase, hbefore.database]
    by_cases hpostgres : c'.protocol = "postgres" <;> simp [hpostgres, orDefault]
  · have hproxy := h.proxyId
    rw [profileProxy] at hproxy
    dsimp only [profileOfRow]
    cases hreq : req.proxyID with
    | none =>
      rw [hreq] at hproxy
      rw [← Except.ok.inj hproxy, hbefore.proxyID]
    | some text =>
      rw [hreq] at hproxy
      dsimp only at hproxy ⊢
      split at hproxy
      · next hempty => rw [if_pos hempty, ← Except.ok.inj hproxy]; rfl
      · next hgiven =>
        rw [if_neg hgiven]
        rw [Except.bind_eq_ok] at hproxy
        obtain ⟨id, hid, hproxy⟩ := hproxy
        split at hproxy
        · rw [← Except.ok.inj hproxy]
          exact ⟨id, castUuid_eq_ok.mp hid, Uuid.parse_toText id⟩
        · cases hproxy
  · dsimp only [profileOfRow]
    exact hhasPassword
  · dsimp only [profileOfRow]
    exact hhasPrivateKey
  · dsimp only [profileOfRow]
    exact hhasPassphrase

/-- **Edits of a profile.**  Under a master key of 32 bytes a request is either rejected, and
nothing has changed, or the profile that is resolved afterwards has what the request gives and, for
what it omits, what the profile of before had. -/
theorem put_profile_saved (hcipher : cipher.Lawful) (hkey : masterKey.length = 32) (db : Db)
    (nonceOf : String → Nonce) (now : Time) (newId : Uuid) (assetID : String)
    (req : UpsertAssetConnectionProfileRequest) :
    (∀ e, (putAssetConnectionProfile db (Vault.ofKey cipher masterKey nonceOf) now newId assetID
        req).2 = .error e →
      (putAssetConnectionProfile db (Vault.ofKey cipher masterKey nonceOf) now newId assetID
        req).1 = db) ∧
    ∀ answer, (putAssetConnectionProfile db (Vault.ofKey cipher masterKey nonceOf) now newId assetID
        req).2 = .ok answer →
      ∃ before after, Previous db (Vault.ofKey cipher masterKey nonceOf).decrypt assetID before ∧
        resolveAssetConnectionProfile
          (putAssetConnectionProfile db (Vault.ofKey cipher masterKey nonceOf) now newId assetID
            req).1 (Vault.ofKey cipher masterKey nonceOf).decrypt assetID = .ok after ∧
        Saved req before after := by
  rw [putAssetConnectionProfile]
  cases hput : upsertAssetConnectionProfile db (Vault.ofKey cipher masterKey nonceOf) now newId
      assetID req with
  | error e => exact ⟨fun _ _ => rfl, by rintro _ ⟨⟩⟩
  | ok db' =>
    obtain ⟨id, current, edit, new, old, hid, hcurrent, hedit, ⟨hold, hnew⟩, rfl⟩ :=
      upsertAssetConnectionProfile_edits hput
    obtain ⟨before, hprevious, hbefore⟩ := exists_previous hid hcurrent
    have hrow := find?_upsert_self (fun c => (hedit c).assetId) (hnew.assetId.trans hold)
      db.cmdbAssetConnection
    -- the row that is found is the edited one, or the new one
    obtain ⟨c, c', hc', hedited⟩ : ∃ c c',
        (upsert (·.assetId == id) (fun _ => true) edit new db.cmdbAssetConnection).find?
          (·.assetId == id) = some c' ∧
        ProfileEdited db (Vault.ofKey cipher masterKey nonceOf) req current c c' := by
      cases hfound : db.cmdbAssetConnection.find? (·.assetId == id) with
      | none =>
        rw [hfound] at hrow
        exact ⟨old, new, hrow, hnew⟩
      | some c =>
        rw [hfound] at hrow
        exact ⟨c, edit c, hrow, hedit c⟩
    generalize upsert (·.assetId == id) (fun _ => true) edit new db.cmdbAssetConnection = rows
      at hc' ⊢
    have hid' : ensureAssetExists { db with cmdbAssetConnection := rows } assetID = .ok id := hid
    dsimp only
    constructor
    · intro e he
      rw [getAssetConnectionProfile, hid', Except.ok_bind, hc'] at he
      cases he
    · intro answer _
      obtain ⟨after, hafter, hsaved⟩ := hedited.saved hcipher hkey
        { db with cmdbAssetConnection := rows } hbefore
      refine ⟨before, after, hprevious, ?_, hsaved⟩
      rw [resolveAssetConnectionProfile, getAssetConnectionProfile, hid', Except.ok_bind, hc']
      exact hafter

end

/-- An asset that is reached over SSH with a password. -/
def shellAsset : Db :=
  { cmdbAsset := [{ id := Uuid.replicate 1, type := "vm", name := "db-1" }]
    cmdbAssetConnection :=
      [{ id := Uuid.replicate 3, assetId := Uuid.replicate 1, host := "10.0.0.9",
         username := "root" }] }

/-- A vault whose cipher hides nothing. -/
def plainVault : Vault :=
  Vault.ofKey plainCipher (List.replicate 32 0) fun _ => ⟨List.replicate 12 0, rfl⟩

/-- Only the protocol is changed, and what it requires. -/
def toPostgres : UpsertAssetConnectionProfileRequest :=
  { protocol := "postgres", host := "10.0.0.9", username := "app" }

/-- The request omits the database, and the profile gets one that it did not have. -/
theorem omitted_database_replaced :
    toPostgres.database = none ∧
    (resolveAssetConnectionProfile shellAsset plainVault.decrypt (Uuid.replicate 1).toText).map
      (·.database) = .ok "" ∧
    (putAssetConnectionProfile shellAsset plainVault 2 (Uuid.replicate 4) (Uuid.replicate 1).toText
      toPostgres).2.map (·.database) = .ok "postgres" ∧
    (resolveAssetConnectionProfile
      (putAssetConnectionProfile shellAsset plainVault 2 (Uuid.replicate 4)
        (Uuid.replicate 1).toText toPostgres).1 plainVault.decrypt (Uuid.replicate 1).toText).map
      (·.database) = .ok "postgres" := by
  refine ⟨rfl, ?_, ?_, ?_⟩ <;> decide

/-- The same request with a password. -/
theorem put_profile_saved_shellAsset :
    ∃ after, resolveAssetConnectionProfile
        (putAssetConnectionProfile shellAsset plainVault 2 (Uuid.replicate 4)
          (Uuid.replicate 1).toText { toPostgres with password := some " s3cret " }).1
        plainVault.decrypt (Uuid.replicate 1).toText = .ok after ∧
      after.password = trimSpace " s3cret " ∧ after.port = 5432 := by
  have hsaved := put_profile_saved plainCipher_lawful (List.length_replicate (a := 0)) shellAsset
    (fun _ => ⟨List.replicate 12 0, rfl⟩) 2 (Uuid.replicate 4) (Uuid.replicate 1).toText
    { toPostgres with password := some " s3cret " }
  obtain ⟨before, after, -, hafter, hsaved⟩ := hsaved.2 _ rfl
  refine ⟨after, hafter, hsaved.password, ?_⟩
  rw [hsaved.port, hsaved.protocol]
  decide

end OpsPlatform.Cmdb
