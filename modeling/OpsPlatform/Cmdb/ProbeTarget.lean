/-
The connection profile of an asset, with its credentials and its proxy
(`GetBastionProbeTarget` and `ListBastionProbeTargets` in `internal/cmdb/repository.go`).
-/
import OpsPlatform.SshProxy.Target
import OpsPlatform.Lib.Table

namespace OpsPlatform.Cmdb

open Lib SshProxy

def errAssetNotFound : String := "asset not found"

def errConnectionProfileNotFound : String := "asset connection profile not found"

/-- `BastionProbeTarget`. -/
structure BastionProbeTarget where
  assetID : String
  assetName : String
  assetType : String
  assetEnv : String
  keyName : String
  protocol : String
  host : String
  port : Int
  username : String
  authType : String
  database : String
  password : String := ""
  privateKey : String := ""
  passphrase : String := ""
  proxy : Option SSHProxyTarget := none
  proxyRequired : Bool := false

/-- The proxy of a connection row: a `proxy_id` that cannot be resolved is an error. -/
def resolveProxy (db : Db) (decrypt : String → Except String String) (assetID : String)
    (proxyId : Option Uuid) : Except String (Option SSHProxyTarget) :=
  match proxyId with
  | none => .ok none
  | some id =>
    ((getTarget db decrypt id).map some).mapError fun e =>
      "resolve proxy " ++ id.toText ++ " for asset " ++ assetID ++ ": " ++ e

/-- The target of a connection row and its asset. -/
def targetOfRow (db : Db) (decrypt : String → Except String String) (a : AssetRow)
    (c : ConnectionRow) : Except String BastionProbeTarget := do
  let proxy ← resolveProxy db decrypt a.id.toText c.proxyId
  let password ← decryptColumn decrypt c.passwordEncrypted
  let privateKey ← decryptColumn decrypt c.privateKeyEncrypted
  let passphrase ← decryptColumn decrypt c.passphraseEncrypted
  .ok { assetID := a.id.toText, assetName := a.name, assetType := a.type, assetEnv := a.env,
        keyName := a.keyName, protocol := c.protocol, host := c.host, port := c.port,
        username := c.username, authType := c.authType, database := c.databaseName,
        password, privateKey, passphrase, proxy, proxyRequired := c.proxyId.isSome }

/-- The connection row of a live asset, with the asset. -/
def connectionOf (db : Db) (id : Uuid) : Option (AssetRow × ConnectionRow) :=
  (db.cmdbAsset.find? fun a => a.id == id && a.live).bind fun a =>
    (db.cmdbAssetConnection.find? (·.assetId == id)).map fun c => (a, c)

/-- `GetBastionProbeTarget`. -/
def getBastionProbeTarget (db : Db) (decrypt : String → Except String String)
    (assetID : String) : Except String BastionProbeTarget :=
  match Uuid.parse assetID with
  | none => .error ("invalid input syntax for type uuid: \"" ++ assetID ++ "\"")
  | some id =>
    if db.cmdbAsset.any fun a => a.id == id && a.live then
      match connectionOf db id with
      | none => .error errConnectionProfileNotFound
      | some (a, c) => targetOfRow db decrypt a c
    else .error errAssetNotFound

/-- `ListBastionProbeTargets`: one row that does not resolve fails the whole list. -/
def listBastionProbeTargets (db : Db) (decrypt : String → Except String String) (limit : Int) :
    Except String (List BastionProbeTarget) :=
  let limit := if limit ≤ 0 ∨ 1000 < limit then 200 else limit
  let joined := db.cmdbAssetConnection.flatMap fun c =>
    (db.cmdbAsset.filter fun a => a.id == c.assetId && a.live && c.bastionEnabled).map
      fun a => (a, c)
  let sorted := joined.insertionSort fun x y => y.1.updatedAt ≤ x.1.updatedAt
  (sorted.take limit.toNat).mapM fun x => targetOfRow db decrypt x.1 x.2

/-! ### A row with a proxy -/

/-- A row is read when its proxy is resolved and its secrets can be decrypted. -/
lemma targetOfRow_eq_ok {db : Db} {decrypt : String → Except String String} {a : AssetRow}
    {c : ConnectionRow} {target : BastionProbeTarget}
    (h : targetOfRow db decrypt a c = .ok target) :
    ∃ proxy password privateKey passphrase,
      resolveProxy db decrypt a.id.toText c.proxyId = .ok proxy ∧
      decryptColumn decrypt c.passwordEncrypted = .ok password ∧
      decryptColumn decrypt c.privateKeyEncrypted = .ok privateKey ∧
      decryptColumn decrypt c.passphraseEncrypted = .ok passphrase ∧
      target =
        { assetID := a.id.toText, assetName := a.name, assetType := a.type, assetEnv := a.env
          keyName := a.keyName, protocol := c.protocol, host := c.host, port := c.port
          username := c.username, authType := c.authType, database := c.databaseName
          password, privateKey, passphrase, proxy, proxyRequired := c.proxyId.isSome } := by
  rw [targetOfRow, Except.bind_eq_ok] at h
  obtain ⟨proxy, hproxy, h⟩ := h
  rw [Except.bind_eq_ok] at h
  obtain ⟨password, hpassword, h⟩ := h
  rw [Except.bind_eq_ok] at h
  obtain ⟨privateKey, hprivateKey, h⟩ := h
  rw [Except.bind_eq_ok] at h
  obtain ⟨passphrase, hpassphrase, h⟩ := h
  exact ⟨proxy, password, privateKey, passphrase, hproxy, hpassword, hprivateKey, hpassphrase,
    (Except.ok.inj h).symm⟩

/-- The target of a row with a `proxy_id` carries that very proxy. -/
lemma targetOfRow_proxy {db : Db} {decrypt : String → Except String String} {a : AssetRow}
    {c : ConnectionRow} {target : BastionProbeTarget} {pid : Uuid}
    (h : targetOfRow db decrypt a c = .ok target) (hpid : c.proxyId = some pid) :
    target.proxyRequired = true ∧
      ∃ t, target.proxy = some t ∧ getTarget db decrypt pid = .ok t := by
  obtain ⟨proxy, password, privateKey, passphrase, hproxy, -, -, -, rfl⟩ := targetOfRow_eq_ok h
  rw [hpid, resolveProxy, Except.mapError_eq_ok] at hproxy
  refine ⟨by rw [hpid]; rfl, ?_⟩
  cases ht : getTarget db decrypt pid with
  | error e => rw [ht] at hproxy; cases hproxy
  | ok t =>
    rw [ht] at hproxy
    exact ⟨t, (Except.ok.inj hproxy).symm, rfl⟩

lemma getBastionProbeTarget_eq {db : Db} {decrypt : String → Except String String}
    {assetID : String} {id : Uuid} {a : AssetRow} {c : ConnectionRow}
    (hid : Uuid.parse assetID = some id) (hrow : connectionOf db id = some (a, c)) :
    getBastionProbeTarget db decrypt assetID = targetOfRow db decrypt a c := by
  have hlive : db.cmdbAsset.any (fun a => a.id == id && a.live) = true := by
    rw [connectionOf, Option.bind_eq_some_iff] at hrow
    obtain ⟨a', ha', -⟩ := hrow
    have hcond := List.find?_some ha'
    exact List.any_eq_true.mpr ⟨a', List.mem_of_find?_eq_some ha', hcond⟩
  rw [getBastionProbeTarget, hid]
  simp only [hlive, if_true, hrow]

end OpsPlatform.Cmdb
