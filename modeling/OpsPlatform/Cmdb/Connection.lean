/-
`UpsertAssetConnectionProfile` (`internal/cmdb/repository.go`): a user edits the connection
profile of an asset, which is then no longer managed by the program.
-/
import OpsPlatform.Cmdb.ProbeTarget
import OpsPlatform.SshProxy.Repository

namespace OpsPlatform.Cmdb

open Lib Lib.Table Lib.Text SshProxy

/-- `UpsertAssetConnectionProfileRequest`. -/
structure UpsertAssetConnectionProfileRequest where
  protocol : String := ""
  host : String
  port : Int := 0
  username : String := ""
  authType : String := ""
  database : Option String := none
  password : Option String := none
  privateKey : Option String := none
  passphrase : Option String := none
  bastionEnabled : Option Bool := none
  proxyID : Option String := none

/-- `security.Encrypt` and `security.Decrypt` under the master key. -/
structure Vault where
  encrypt : String → Except String String
  decrypt : String → Except String String

/-- `ensureAssetExists`. -/
def ensureAssetExists (db : Db) (assetID : String) : Except String Uuid := do
  let id ← castUuid assetID
  if db.cmdbAsset.any fun a => a.id == id && a.live then .ok id else .error errAssetNotFound

/-! ### The fields of the request -/

def profileProtocol (req : UpsertAssetConnectionProfileRequest) : Except String String :=
  let protocol := toLower (trimSpace req.protocol)
  let protocol := if protocol = "" then "ssh" else protocol
  if protocol ∈ ["ssh", "postgres", "rdp", "vnc", "telnet", "mysql", "redis"] then .ok protocol
  else .error "protocol must be ssh, postgres, mysql, redis, rdp, vnc, or telnet"

def profileHost (req : UpsertAssetConnectionProfileRequest) : Except String String :=
  if trimSpace req.host = "" then .error "host is required" else .ok (trimSpace req.host)

def defaultPort (protocol : String) : Int :=
  if protocol = "postgres" then 5432 else if protocol = "mysql" then 3306
  else if protocol = "redis" then 6379 else if protocol = "rdp" then 3389
  else if protocol = "vnc" then 5900 else if protocol = "telnet" then 23 else 22

/-- VNC and Redis have no user. -/
def profileUsername (protocol : String) (req : UpsertAssetConnectionProfileRequest) :
    Except String String :=
  let username := trimSpace req.username
  if username = "" ∧ protocol ≠ "vnc" ∧ protocol ≠ "redis" then .error "username is required"
  else .ok username

/-- Only SSH has keys. -/
def profileAuthType (protocol : String) (req : UpsertAssetConnectionProfileRequest) :
    Except String String :=
  let authType := toLower (trimSpace req.authType)
  let authType := if authType = "" then "password" else authType
  if protocol ≠ "ssh" ∧ authType ≠ "password" then
    .error (protocol ++ " only supports password auth")
  else if authType ≠ "password" ∧ authType ≠ "key" then
    .error "auth_type must be password or key"
  else .ok authType

/-! ### The current profile -/

/-- The part of `AssetConnectionProfile` that an edit keeps when the request does not have it. -/
structure CurrentProfile where
  database : String := ""
  proxyID : Option Uuid := none
  password : String := ""
  privateKey : String := ""
  passphrase : String := ""
  bastionEnabled : Bool := true

/-- `GetAssetConnectionProfile` with the secrets; the defaults when there is no profile. -/
def currentProfile (db : Db) (vault : Vault) (id : Uuid) : Except String CurrentProfile :=
  match db.cmdbAssetConnection.find? (·.assetId == id) with
  | none => .ok {}
  | some c => do
    let password ← decryptColumn vault.decrypt c.passwordEncrypted
    let privateKey ← decryptColumn vault.decrypt c.privateKeyEncrypted
    let passphrase ← decryptColumn vault.decrypt c.passphraseEncrypted
    .ok { database := c.databaseName, proxyID := c.proxyId, password, privateKey, passphrase,
          bastionEnabled := c.bastionEnabled }

def profileDatabase (protocol : String) (req : UpsertAssetConnectionProfileRequest)
    (current : CurrentProfile) : String :=
  let database := (req.database.map trimSpace).getD current.database
  if protocol = "postgres" ∧ database = "" then "postgres" else database

/-- The proxy of the request, or the current one; the foreign key asks for a row with the id,
live or not. -/
def profileProxy (db : Db) (req : UpsertAssetConnectionProfileRequest)
    (current : CurrentProfile) : Except String (Option Uuid) :=
  match req.proxyID with
  | none => .ok current.proxyID
  | some text =>
    if trimSpace text = "" then .ok none
    else do
      let id ← castUuid (trimSpace text)
      if db.cmdbSshProxy.any (·.id == id) then .ok (some id)
      else .error "insert or update on table violates foreign key constraint on proxy_id"

/-- `UpsertAssetConnectionProfile`. -/
def upsertAssetConnectionProfile (db : Db) (vault : Vault) (now : Time) (newId : Uuid)
    (assetID : String) (req : UpsertAssetConnectionProfileRequest) : Except String Db := do
  let assetId ← ensureAssetExists db assetID
  let protocol ← profileProtocol req
  let host ← profileHost req
  let username ← profileUsername protocol req
  let authType ← profileAuthType protocol req
  let current ← currentProfile db vault assetId
  let password ← vault.encrypt ((req.password.map trimSpace).getD current.password)
  let privateKey ← vault.encrypt (req.privateKey.getD current.privateKey)
  let passphrase ← vault.encrypt (req.passphrase.getD current.passphrase)
  let port ← int4 (if req.port ≤ 0 then defaultPort protocol else req.port)
  let proxyId ← profileProxy db req current
  let edit := fun c : ConnectionRow =>
    { c with protocol, host, port, username, authType,
             databaseName := profileDatabase protocol req current,
             passwordEncrypted := password, privateKeyEncrypted := privateKey,
             passphraseEncrypted := passphrase,
             bastionEnabled := req.bastionEnabled.getD current.bastionEnabled, proxyId,
             autoManaged := false, updatedAt := now }
  .ok { db with
        cmdbAssetConnection := upsert (·.assetId == assetId) (fun _ => true) edit
          (edit { id := newId, assetId, host, username, createdAt := now })
          db.cmdbAssetConnection }

lemma ensureAssetExists_eq_ok {db : Db} {assetID : String} {id : Uuid} :
    ensureAssetExists db assetID = .ok id ↔
      Uuid.parse assetID = some id ∧ ∃ a ∈ db.cmdbAsset, a.id = id ∧ a.live = true := by
  rw [ensureAssetExists, Except.bind_eq_ok]
  constructor
  · rintro ⟨id', hid, h⟩
    split at h
    · next hlive =>
      obtain rfl := Except.ok.inj h
      exact ⟨castUuid_eq_ok.mp hid, by simpa using hlive⟩
    · cases h
  · rintro ⟨hid, hlive⟩
    refine ⟨id, castUuid_eq_ok.mpr hid, if_pos ?_⟩
    simpa using hlive

/-- What an accepted edit makes of a row; `current` is the profile of before. -/
structure ProfileEdited (db : Db) (vault : Vault) (req : UpsertAssetConnectionProfileRequest)
    (current : CurrentProfile) (c c' : ConnectionRow) : Prop where
  assetId : c'.assetId = c.assetId
  protocol : profileProtocol req = .ok c'.protocol
  host : profileHost req = .ok c'.host
  username : profileUsername c'.protocol req = .ok c'.username
  authType : profileAuthType c'.protocol req = .ok c'.authType
  port : int4 (if req.port ≤ 0 then defaultPort c'.protocol else req.port) = .ok c'.port
  database : c'.databaseName = profileDatabase c'.protocol req current
  password :
    vault.encrypt ((req.password.map trimSpace).getD current.password) = .ok c'.passwordEncrypted
  privateKey : vault.encrypt (req.privateKey.getD current.privateKey) = .ok c'.privateKeyEncrypted
  passphrase : vault.encrypt (req.passphrase.getD current.passphrase) = .ok c'.passphraseEncrypted
  bastionEnabled : c'.bastionEnabled = req.bastionEnabled.getD current.bastionEnabled
  proxyId : profileProxy db req current = .ok c'.proxyId
  autoManaged : c'.autoManaged = false

/-- An edit upserts the connection of the asset. -/
lemma upsertAssetConnectionProfile_edits {db db' : Db} {vault : Vault} {now : Time} {newId : Uuid}
    {assetID : String} {req : UpsertAssetConnectionProfileRequest}
    (h : upsertAssetConnectionProfile db vault now newId assetID req = .ok db') :
    ∃ assetId current edit, ∃ new old : ConnectionRow,
      ensureAssetExists db assetID = .ok assetId ∧ currentProfile db vault assetId = .ok current ∧
      (∀ c, ProfileEdited db vault req current c (edit c)) ∧
      (old.assetId = assetId ∧ ProfileEdited db vault req current old new) ∧
      db' = { db with
              cmdbAssetConnection := upsert (·.assetId == assetId) (fun _ => true) edit new
                db.cmdbAssetConnection } := by
  rw [upsertAssetConnectionProfile, Except.bind_eq_ok] at h
  obtain ⟨assetId, hassetId, h⟩ := h
  rw [Except.bind_eq_ok] at h
  obtain ⟨protocol, hprotocol, h⟩ := h
  rw [Except.bind_eq_ok] at h
  obtain ⟨host, hhost, h⟩ := h
  rw [Except.bind_eq_ok] at h
  obtain ⟨username, husername, h⟩ := h
  rw [Except.bind_eq_ok] at h
  obtain ⟨authType, hauthType, h⟩ := h
  rw [Except.bind_eq_ok] at h
  obtain ⟨current, hcurrent, h⟩ := h
  rw [Except.bind_eq_ok] at h
  obtain ⟨password, hpassword, h⟩ := h
  rw [Except.bind_eq_ok] at h
  obtain ⟨privateKey, hprivateKey, h⟩ := h
  rw [Except.bind_eq_ok] at h
  obtain ⟨passphrase, hpassphrase, h⟩ := h
  rw [Except.bind_eq_ok] at h
  obtain ⟨port, hport, h⟩ := h
  rw [Except.bind_eq_ok] at h
  obtain ⟨proxyId, hproxyId, h⟩ := h
  -- the row of a conflict and the new row are filled by the same assignments
  have hedited : ∀ c : ConnectionRow, ProfileEdited db vault req current c
      { c with protocol, host, port, username, authType,
               databaseName := profileDatabase protocol req current,
               passwordEncrypted := password, privateKeyEncrypted := privateKey,
               passphraseEncrypted := passphrase,
               bastionEnabled := req.bastionEnabled.getD current.bastionEnabled, proxyId,
               autoManaged := false, updatedAt := now } := fun c =>
    ⟨rfl, hprotocol, hhost, husername, hauthType, hport, rfl, hpassword, hprivateKey, hpassphrase,
      rfl, hproxyId, rfl⟩
  exact ⟨assetId, current, _, _, _, hassetId, hcurrent, hedited, ⟨rfl, hedited _⟩,
    (Except.ok.inj h).symm⟩

lemma ProfileEdited.host_ne {db : Db} {vault : Vault} {req : UpsertAssetConnectionProfileRequest}
    {current : CurrentProfile} {c c' : ConnectionRow}
    (h : ProfileEdited db vault req current c c') : c'.host ≠ "" := by
  have hhost := h.host
  rw [profileHost, Except.ite_error_eq_ok] at hhost
  rw [← Except.ok.inj hhost.2]
  exact hhost.1

/-- The connection has a host, and is no longer managed by the program. -/
lemma upsertAssetConnectionProfile_upserts {db db' : Db} {vault : Vault} {now : Time} {newId : Uuid}
    {assetID : String} {req : UpsertAssetConnectionProfileRequest}
    (h : upsertAssetConnectionProfile db vault now newId assetID req = .ok db') :
    ∃ assetId edit, ∃ new : ConnectionRow, Uuid.parse assetID = some assetId ∧
      (∀ c : ConnectionRow, (edit c).assetId = c.assetId ∧ (edit c).autoManaged = false ∧
        (edit c).host ≠ "") ∧
      (new.assetId = assetId ∧ new.autoManaged = false ∧ new.host ≠ "") ∧
      db' = { db with
              cmdbAssetConnection := upsert (·.assetId == assetId) (fun _ => true) edit new
                db.cmdbAssetConnection } := by
  obtain ⟨assetId, current, edit, new, old, hassetId, -, hedit, ⟨hold, hnew⟩, rfl⟩ :=
    upsertAssetConnectionProfile_edits h
  refine ⟨assetId, edit, new, (ensureAssetExists_eq_ok.mp hassetId).1, ?_, ?_, rfl⟩
  · exact fun c => ⟨(hedit c).assetId, (hedit c).autoManaged, (hedit c).host_ne⟩
  · exact ⟨hnew.assetId.trans hold, hnew.autoManaged, hnew.host_ne⟩

/-- Only connections change, and those that do are no longer managed by the program. -/
lemma upsertAssetConnectionProfile_eq_ok {db db' : Db} {vault : Vault} {now : Time} {newId : Uuid}
    {assetID : String} {req : UpsertAssetConnectionProfileRequest}
    (h : upsertAssetConnectionProfile db vault now newId assetID req = .ok db') :
    ∃ connections, db' = { db with cmdbAssetConnection := connections } ∧
      ∀ c ∈ connections, c ∈ db.cmdbAssetConnection ∨ c.autoManaged = false := by
  obtain ⟨assetId, edit, new, -, hedit, hnew, rfl⟩ := upsertAssetConnectionProfile_upserts h
  refine ⟨_, rfl, ?_⟩
  intro c hc
  rcases mem_upsert hc with rfl | ⟨c₀, -, rfl⟩ | hc
  · exact Or.inr hnew.2.1
  · exact Or.inr (hedit c₀).2.1
  · exact Or.inl hc

end OpsPlatform.Cmdb
