/-
`VPCProxyService` (`internal/cmdb/vpcproxy_service.go`, `vpcproxy.go`) and `DeleteAsset`
(`internal/cmdb/repository.go`): promoting an asset to the SSH proxy of its VPC, demoting it
again and routing the other assets of the VPC through it.

A transaction that fails leaves the database as it was.  The ids that the server draws for new
connections are a function of the asset.
-/
import OpsPlatform.Cmdb.Connection

namespace OpsPlatform.Cmdb

open Lib Lib.Table Lib.Text SshProxy

structure PromoteOptions where
  username : String := ""
  authType : String := ""

def errAssetMissingNetwork : String := "asset missing public_ip or vpc_id; cannot be promoted"

def errAssetUsernameUnresolved : String :=
  "cannot derive SSH username from os_family; pass an explicit username"

def errVPCProxyAlreadyExists : String := "another asset is already the VPC SSH proxy"

/-- `DefaultUsernameForOSFamily`. -/
def defaultUsernameForOSFamily (family : String) : String :=
  let family := toLower (trimSpace family)
  if family = "amzn" ∨ family = "rhel" ∨ family = "suse" then "ec2-user"
  else if family = "ubuntu" then "ubuntu"
  else if family = "debian" then "admin"
  else if family = "centos" then "centos"
  else if family = "windows" then "Administrator"
  else ""

/-- `GetAsset`. -/
def getAsset (db : Db) (assetID : String) : Except String AssetRow := do
  let id ← castUuid assetID
  match db.cmdbAsset.find? fun a => a.id == id && a.live with
  | none => .error errAssetNotFound
  | some a => .ok a

/-! ### Promoting -/

/-- `ORDER BY deleted_at IS NULL DESC, updated_at DESC`. -/
def proxyOrder (p q : SshProxyRow) : Prop :=
  if p.live = q.live then q.updatedAt ≤ p.updatedAt else p.live = true

instance : DecidableRel proxyOrder := fun p q =>
  inferInstanceAs (Decidable (if p.live = q.live then q.updatedAt ≤ p.updatedAt else p.live = true))

/-- The columns that a promotion sets. -/
def proxyOfAsset (now : Time) (a : AssetRow) (username authType : String) (p : SshProxyRow) :
    SshProxyRow :=
  { p with
    name := if a.name ≠ "" then a.vpcId ++ "-" ++ a.name else a.vpcId ++ "-proxy"
    description := "Auto-managed proxy for VPC " ++ a.vpcId ++ " (source asset: " ++ a.name ++ ")"
    networkZone := a.vpcId, host := a.publicIp, port := 22, username, authType,
    keyName := a.keyName, deletedAt := none, updatedAt := now }

/-- `upsertProxyForAsset`: the row of the asset is revived, or there is a new one. -/
def upsertProxyForAsset (db : Db) (now : Time) (newId : Uuid) (a : AssetRow)
    (username authType : String) : Except String (Db × SshProxyRow) :=
  match firstBy proxyOrder (fun p => p.sourceAssetId == some a.id) db.cmdbSshProxy with
  | some existing => updateProxy db existing.id false (proxyOfAsset now a username authType)
  | none =>
    insertProxy db (proxyOfAsset now a username authType
      { id := newId, name := "", host := "", username := "", sourceAssetId := some a.id,
        createdAt := now })

/-- The connection of an asset that the program manages. -/
def manage (now : Time) (host username authType : String) (proxyId : Option Uuid)
    (c : ConnectionRow) : ConnectionRow :=
  { c with protocol := "ssh", host, port := 22, username, authType, proxyId,
           bastionEnabled := true, autoManaged := true, updatedAt := now }

/-- `INSERT INTO cmdb_asset_connection .. ON CONFLICT (asset_id)`, for a connection that the
program manages. -/
def manageConnection (now : Time) (newId : Uuid → Uuid) (assetId : Uuid)
    (host username authType : String) (proxyId : Option Uuid) (guard : ConnectionRow → Bool)
    (connections : List ConnectionRow) : List ConnectionRow :=
  let set := manage now host username authType proxyId
  upsert (·.assetId == assetId) guard set
    (set { id := newId assetId, assetId, host, username, createdAt := now }) connections

/-- `ensureProxyAssetConnection`: the promoted asset itself is reached directly. -/
def ensureProxyAssetConnection (now : Time) (newId : Uuid → Uuid) (a : AssetRow)
    (username authType : String) (connections : List ConnectionRow) : List ConnectionRow :=
  manageConnection now newId a.id a.publicIp username authType none
    (fun c => c.autoManaged || c.host == "") connections

/-- The other instances of a VPC that have an address and a user. -/
def peers (assets : List AssetRow) (vpcID : String) (sourceAssetId : Uuid) : List AssetRow :=
  assets.filter fun a => a.vpcId == vpcID && a.id != sourceAssetId && a.live &&
    a.type == "aws_ec2_instance" && a.privateIp != "" &&
    defaultUsernameForOSFamily a.osFamily != ""

/-- `propagateProxyToVPCPeers`. -/
def propagateProxyToVPCPeers (now : Time) (newId : Uuid → Uuid) (assets : List AssetRow)
    (vpcID : String) (sourceAssetId proxyId : Uuid) (connections : List ConnectionRow) :
    List ConnectionRow :=
  (peers assets vpcID sourceAssetId).foldl
    (fun connections a =>
      manageConnection now newId a.id a.privateIp (defaultUsernameForOSFamily a.osFamily) "key"
        (some proxyId) (·.autoManaged) connections)
    connections

def setVpcProxy (now : Time) (id : Uuid) (isVpcProxy : Bool) (assets : List AssetRow) :
    List AssetRow :=
  updateWhere (·.id == id) (fun a => { a with isVpcProxy, updatedAt := now }) assets

/-- The login of a promotion. -/
def promoteLogin (opts : PromoteOptions) (a : AssetRow) : Except String (String × String) :=
  let username := trimSpace opts.username
  let username := if username = "" then defaultUsernameForOSFamily a.osFamily else username
  let authType := toLower (trimSpace opts.authType)
  if username = "" then .error errAssetUsernameUnresolved
  else if authType ≠ "" then .ok (username, authType)
  else .ok (username, if a.keyName ≠ "" then "key" else "password")

/-- What a promotion asks of the asset and of the others of its VPC. -/
def promotable (db : Db) (a : AssetRow) : Except String Unit :=
  match db.cmdbAsset.find? fun b =>
      b.vpcId == a.vpcId && b.isVpcProxy && b.live && b.id != a.id with
  | some b => .error (errVPCProxyAlreadyExists ++ ": asset " ++ b.id.toText)
  | none => .ok ()

/-- `Promote`. -/
def promote (db : Db) (now : Time) (newProxyId : Uuid) (newId : Uuid → Uuid) (assetID : String)
    (opts : PromoteOptions) : Except String Db := do
  let a ← getAsset db assetID
  if a.publicIp = "" ∨ a.vpcId = "" then .error errAssetMissingNetwork
  else do
    let login ← promoteLogin opts a
    promotable db a
    let db := { db with cmdbAsset := setVpcProxy now a.id true db.cmdbAsset }
    let (db, p) ← upsertProxyForAsset db now newProxyId a login.1 login.2
    let connections := ensureProxyAssetConnection now newId a login.1 login.2
      db.cmdbAssetConnection
    .ok { db with
          cmdbAssetConnection := propagateProxyToVPCPeers now newId db.cmdbAsset a.vpcId a.id p.id
            connections }

/-! ### Demoting, reapplying, deleting -/

/-- The part of `Demote` for the proxy that was found. -/
def retireProxy (db : Db) (now : Time) : Option SshProxyRow → Db
  | none => db
  | some p =>
    { db with
      cmdbAssetConnection := updateWhere (fun c => c.proxyId == some p.id && c.autoManaged)
        (fun c => { c with proxyId := none, updatedAt := now }) db.cmdbAssetConnection
      cmdbSshProxy := updateWhere (·.id == p.id) (fun p => { p with deletedAt := some now })
        db.cmdbSshProxy }

/-- `Demote`. -/
def demote (db : Db) (now : Time) (assetID : String) : Except String Db := do
  let a ← getAsset db assetID
  if a.isVpcProxy then
    let found := db.cmdbSshProxy.find? fun p => p.sourceAssetId == some a.id && p.live
    let db := retireProxy db now found
    .ok { db with cmdbAsset := setVpcProxy now a.id false db.cmdbAsset }
  else .ok db

/-- The promoted assets with their live proxies. -/
def propagationTargets (db : Db) : List (AssetRow × SshProxyRow) :=
  (db.cmdbAsset.filter fun a => a.isVpcProxy && a.live).flatMap fun a =>
    (db.cmdbSshProxy.filter fun p => p.sourceAssetId == some a.id && p.live).map fun p => (a, p)

/-- `ReapplyPropagation`, of which the first `committed` transactions succeed. -/
def reapplyPropagation (db : Db) (now : Time) (newId : Uuid → Uuid) (committed : ℕ) : Db :=
  { db with
    cmdbAssetConnection := ((propagationTargets db).take committed).foldl
      (fun connections t =>
        propagateProxyToVPCPeers now newId db.cmdbAsset t.1.vpcId t.1.id t.2.id connections)
      db.cmdbAssetConnection }

/-- `DeleteAsset`. -/
def deleteAsset (db : Db) (now : Time) (assetID : String) : Except String Db := do
  let id ← castUuid assetID
  let hit : AssetRow → Bool := fun a => a.id == id && a.live
  if db.cmdbAsset.any hit then
    .ok { db with
          cmdbAsset := updateWhere hit (fun a => { a with deletedAt := some now }) db.cmdbAsset }
  else .error errAssetNotFound

/-! ### What the calls do -/

lemma getAsset_eq_ok {db : Db} {assetID : String} {a : AssetRow}
    (h : getAsset db assetID = .ok a) :
    Uuid.parse assetID = some a.id ∧ a ∈ db.cmdbAsset ∧ a.live = true := by
  rw [getAsset, Except.bind_eq_ok] at h
  obtain ⟨id, hid, h⟩ := h
  split at h
  · cases h
  · next a' ha' =>
    obtain rfl := Except.ok.inj h
    have hhit := List.find?_some ha'
    simp only [Bool.and_eq_true, beq_iff_eq] at hhit
    refine ⟨?_, List.mem_of_find?_eq_some ha', hhit.2⟩
    rw [hhit.1]
    exact castUuid_eq_ok.mp hid

/-- A live asset is found under its id. -/
lemma getAsset_of_live {db : Db} {assetID : String} {a : AssetRow}
    (hkeys : (db.cmdbAsset.map (·.id)).Nodup) (ha : a ∈ db.cmdbAsset) (hlive : a.live = true)
    (hid : Uuid.parse assetID = some a.id) : getAsset db assetID = .ok a := by
  have hfind : db.cmdbAsset.find? (fun b => b.id == a.id && b.live) = some a := by
    refine find?_eq_of_nodup hkeys ha (by simp [hlive]) ?_
    intro b _ hb
    rw [Bool.and_eq_true] at hb
    exact eq_of_beq hb.1
  rw [getAsset, castUuid_eq_ok.mpr hid, Except.ok_bind, hfind]

/-- What `upsertProxyForAsset` writes: the columns of the promotion over a row of the asset, or over
a new one when the asset has none. -/
lemma upsertProxyForAsset_writes {db db' : Db} {now : Time} {newId : Uuid} {a : AssetRow}
    {username authType : String} {p : SshProxyRow}
    (h : upsertProxyForAsset db now newId a username authType = .ok (db', p))
    (hkeys : (db.cmdbSshProxy.map (·.id)).Nodup) :
    ∃ p₀, p₀.sourceAssetId = some a.id ∧ p = proxyOfAsset now a username authType p₀ ∧
      nameTaken db p.id p.name = false ∧
      ((p₀ ∈ db.cmdbSshProxy ∧
          db' = { db with
                  cmdbSshProxy := updateWhere (·.id == p₀.id)
                    (proxyOfAsset now a username authType) db.cmdbSshProxy }) ∨
        ((∀ q ∈ db.cmdbSshProxy, q.sourceAssetId ≠ some a.id) ∧
          (∀ q ∈ db.cmdbSshProxy, q.id ≠ p.id) ∧
          db' = { db with cmdbSshProxy := db.cmdbSshProxy ++ [p] })) := by
  rw [upsertProxyForAsset] at h
  split at h
  · next existing hexisting =>
    obtain ⟨hmem, hsource⟩ := mem_of_firstBy hexisting
    obtain ⟨p₀, hp₀, hid, rfl, rfl, hname⟩ := updateProxy_eq_ok h
    -- the row that was updated is the one that was found
    obtain rfl : p₀ = existing := List.inj_on_of_nodup_map hkeys hp₀ hmem hid
    exact ⟨p₀, by simpa using hsource, rfl, hname, Or.inl ⟨hp₀, by simp⟩⟩
  · next hnone =>
    obtain ⟨rfl, rfl, hfresh, hname⟩ := insertProxy_eq_ok h
    refine ⟨_, rfl, rfl, hname, Or.inr ⟨?_, hfresh, rfl⟩⟩
    intro q hq
    simpa using firstBy_eq_none_iff.mp hnone q hq

/-- The proxy of the asset is revived under its id, or added under a new one. -/
lemma upsertProxyForAsset_eq_ok {db db' : Db} {now : Time} {newId : Uuid} {a : AssetRow}
    {username authType : String} {p : SshProxyRow} (hkeys : (db.cmdbSshProxy.map (·.id)).Nodup)
    (h : upsertProxyForAsset db now newId a username authType = .ok (db', p)) :
    p.sourceAssetId = some a.id ∧ p.deletedAt = none ∧
      ((∃ p₀ ∈ db.cmdbSshProxy, p₀.sourceAssetId = some a.id ∧ p₀.id = p.id ∧
          db' = { db with
                  cmdbSshProxy := updateWhere (·.id == p₀.id)
                    (proxyOfAsset now a username authType) db.cmdbSshProxy }) ∨
        ((∀ q ∈ db.cmdbSshProxy, q.id ≠ p.id) ∧
          db' = { db with cmdbSshProxy := db.cmdbSshProxy ++ [p] })) := by
  obtain ⟨p₀, hsource, rfl, -, hwritten⟩ := upsertProxyForAsset_writes h hkeys
  refine ⟨hsource, rfl, ?_⟩
  rcases hwritten with ⟨hp₀, hdb'⟩ | ⟨-, hfresh, hdb'⟩
  · exact Or.inl ⟨p₀, hp₀, hsource, rfl, hdb'⟩
  · exact Or.inr ⟨hfresh, hdb'⟩

/-- `upsertProxyForAsset` writes no other table. -/
lemma upsertProxyForAsset_frame {db db' : Db} {now : Time} {newId : Uuid} {a : AssetRow}
    {username authType : String} {p : SshProxyRow}
    (h : upsertProxyForAsset db now newId a username authType = .ok (db', p)) :
    db' = { db with cmdbSshProxy := db'.cmdbSshProxy } := by
  rw [upsertProxyForAsset] at h
  split at h
  · obtain ⟨-, -, -, -, rfl, -⟩ := updateProxy_eq_ok h
    rfl
  · obtain ⟨rfl, -, -, -⟩ := insertProxy_eq_ok h
    rfl

/-- Marking an asset does not change its peers. -/
lemma peers_setVpcProxy {now : Time} (isVpcProxy : Bool) (assets : List AssetRow) (vpcID : String)
    (id : Uuid) :
    peers (setVpcProxy now id isVpcProxy assets) vpcID id = peers assets vpcID id := by
  refine filter_updateWhere ?_ assets
  intro r hr
  simp [eq_of_beq hr]

/-- `Promote` step by step. -/
lemma promote_eq_ok_iff {db db' : Db} {now : Time} {newProxyId : Uuid} {newId : Uuid → Uuid}
    {assetID : String} {opts : PromoteOptions} :
    promote db now newProxyId newId assetID opts = .ok db' ↔
      ∃ a login db₁ p, getAsset db assetID = .ok a ∧ ¬ (a.publicIp = "" ∨ a.vpcId = "") ∧
        promoteLogin opts a = .ok login ∧ promotable db a = .ok () ∧
        upsertProxyForAsset { db with cmdbAsset := setVpcProxy now a.id true db.cmdbAsset } now
          newProxyId a login.1 login.2 = .ok (db₁, p) ∧
        db' = { db₁ with
                cmdbAssetConnection := propagateProxyToVPCPeers now newId db₁.cmdbAsset a.vpcId
                  a.id p.id (ensureProxyAssetConnection now newId a login.1 login.2
                    db₁.cmdbAssetConnection) } := by
  rw [promote, Except.bind_eq_ok]
  constructor
  · rintro ⟨a, ha, h⟩
    rw [Except.ite_error_eq_ok] at h
    obtain ⟨hnetwork, h⟩ := h
    rw [Except.bind_eq_ok] at h
    obtain ⟨login, hlogin, h⟩ := h
    rw [Except.bind_eq_ok] at h
    obtain ⟨_, hpromotable, h⟩ := h
    rw [Except.bind_eq_ok] at h
    obtain ⟨⟨db₁, p⟩, hp, h⟩ := h
    exact ⟨a, login, db₁, p, ha, hnetwork, hlogin, hpromotable, hp, (Except.ok.inj h).symm⟩
  · rintro ⟨a, login, db₁, p, ha, hnetwork, hlogin, hpromotable, hp, rfl⟩
    refine ⟨a, ha, ?_⟩
    rw [if_neg hnetwork, hlogin, Except.ok_bind, hpromotable, Except.ok_bind, Except.bind_eq_ok]
    exact ⟨(db₁, p), hp, rfl⟩

/-- `Promote` in its three parts. -/
lemma promote_eq_ok {db db' : Db} {now : Time} {newProxyId : Uuid} {newId : Uuid → Uuid}
    {assetID : String} {opts : PromoteOptions}
    (h : promote db now newProxyId newId assetID opts = .ok db') :
    ∃ a ∈ db.cmdbAsset, a.live = true ∧ ∃ username authType db₁ p,
      upsertProxyForAsset { db with cmdbAsset := setVpcProxy now a.id true db.cmdbAsset } now
        newProxyId a username authType = .ok (db₁, p) ∧
      db' = { db₁ with
              cmdbAssetConnection := propagateProxyToVPCPeers now newId db₁.cmdbAsset a.vpcId a.id
                p.id (ensureProxyAssetConnection now newId a username authType
                  db₁.cmdbAssetConnection) } := by
  obtain ⟨a, login, db₁, p, ha, -, -, -, hp, hdb'⟩ := promote_eq_ok_iff.mp h
  obtain ⟨-, hmem, hlive⟩ := getAsset_eq_ok ha
  exact ⟨a, hmem, hlive, login.1, login.2, db₁, p, hp, hdb'⟩

@[simp] lemma cmdbAsset_retireProxy (db : Db) (now : Time) (found : Option SshProxyRow) :
    (retireProxy db now found).cmdbAsset = db.cmdbAsset := by
  cases found with
  | none => rfl
  | some p => rfl

/-- `Demote` of an asset that is promoted, and of one that is not. -/
lemma demote_eq_ok {db db' : Db} {now : Time} {assetID : String}
    (h : demote db now assetID = .ok db') :
    ∃ a, getAsset db assetID = .ok a ∧
      ((a.isVpcProxy = true ∧
          db' = { retireProxy db now
                    (db.cmdbSshProxy.find? fun p => p.sourceAssetId == some a.id && p.live) with
                  cmdbAsset := setVpcProxy now a.id false db.cmdbAsset }) ∨
        (a.isVpcProxy = false ∧ db' = db)) := by
  rw [demote, Except.bind_eq_ok] at h
  obtain ⟨a, ha, h⟩ := h
  refine ⟨a, ha, ?_⟩
  split at h
  · next hproxy =>
    dsimp only at h
    rw [cmdbAsset_retireProxy] at h
    exact Or.inl ⟨hproxy, (Except.ok.inj h).symm⟩
  · next hproxy => exact Or.inr ⟨Bool.eq_false_iff.mpr hproxy, (Except.ok.inj h).symm⟩

/-- `Demote` of a promoted asset retires the live proxy that it finds. -/
lemma demote_of_found {db : Db} {now : Time} {assetID : String} {a : AssetRow} {p : SshProxyRow}
    (hget : getAsset db assetID = .ok a) (hproxy : a.isVpcProxy = true)
    (hfound : db.cmdbSshProxy.find? (fun p => p.sourceAssetId == some a.id && p.live) = some p) :
    demote db now assetID =
      .ok { retireProxy db now (some p) with
            cmdbAsset := setVpcProxy now a.id false db.cmdbAsset } := by
  rw [demote, hget, Except.ok_bind, if_pos hproxy, hfound]
  rfl

lemma deleteAsset_eq_ok {db db' : Db} {now : Time} {assetID : String}
    (h : deleteAsset db now assetID = .ok db') :
    ∃ id, Uuid.parse assetID = some id ∧
      db' = { db with
              cmdbAsset := updateWhere (fun a => a.id == id && a.live)
                (fun a => { a with deletedAt := some now }) db.cmdbAsset } := by
  rw [deleteAsset, Except.bind_eq_ok] at h
  obtain ⟨id, hid, h⟩ := h
  dsimp only at h
  split at h
  · exact ⟨id, castUuid_eq_ok.mp hid, (Except.ok.inj h).symm⟩
  · cases h

lemma deleteAsset_of_live {db : Db} {now : Time} {assetID : String} {a : AssetRow}
    (hid : Uuid.parse assetID = some a.id) (ha : a ∈ db.cmdbAsset) (hlive : a.live = true) :
    deleteAsset db now assetID = .ok { db with
        cmdbAsset := updateWhere (fun b => b.id == a.id && b.live)
          (fun a => { a with deletedAt := some now }) db.cmdbAsset } := by
  rw [deleteAsset, castUuid_eq_ok.mpr hid]
  refine if_pos ?_
  rw [List.any_eq_true]
  exact ⟨a, ha, by simp [hlive]⟩

end OpsPlatform.Cmdb
