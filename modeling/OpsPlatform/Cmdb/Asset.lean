/-
`CreateAsset` and `UpdateAsset` (`internal/cmdb/repository.go`), with the unique indexes of
`cmdb_asset` (migrations 0013 and 0021).
-/
import OpsPlatform.Cmdb.VpcProxy

namespace OpsPlatform.Cmdb

open Lib Lib.Table Lib.Text SshProxy

/-- `map[string]any`, when it is not nil. -/
abbrev JsonMap := List (String × Json)

/-- `CreateAssetRequest`; absent fields are zero. -/
structure CreateAssetRequest where
  type : String := ""
  name : String := ""
  status : String := ""
  env : String := ""
  source : String := ""
  externalID : String := ""
  externalARN : String := ""
  publicIP : String := ""
  privateIP : String := ""
  privateDNS : String := ""
  region : String := ""
  zone : String := ""
  accountID : String := ""
  instanceType : String := ""
  osImage : String := ""
  vpcID : String := ""
  subnetID : String := ""
  owner : String := ""
  businessUnit : String := ""
  criticality : String := ""
  expiresAt : Option Time := none
  labels : Option JsonMap := none
  tags : Option JsonMap := none

/-- `UpdateAssetRequest`; a field that is absent or `null` is `none`. -/
structure UpdateAssetRequest where
  name : Option String := none
  status : Option String := none
  env : Option String := none
  publicIP : Option String := none
  privateIP : Option String := none
  privateDNS : Option String := none
  region : Option String := none
  zone : Option String := none
  accountID : Option String := none
  instanceType : Option String := none
  osImage : Option String := none
  vpcID : Option String := none
  subnetID : Option String := none
  owner : Option String := none
  businessUnit : Option String := none
  criticality : Option String := none
  expiresAt : Option Time := none
  labels : Option JsonMap := none
  tags : Option JsonMap := none

/-! ### The unique indexes -/

/-- The key of `idx_cmdb_asset_cloud_unique`, for the rows that the index covers. -/
def AssetRow.cloudKey (a : AssetRow) : Option (List String) :=
  match a.externalId with
  | none => none
  | some externalId =>
    if a.source ≠ "manual" ∧ a.live = true ∧ externalId ≠ "" then
      some [a.source, a.accountId, a.region, a.type, externalId]
    else none

/-- The key of `idx_cmdb_asset_vpc_proxy_unique`, for the rows that the index covers. -/
def AssetRow.vpcProxyKey (a : AssetRow) : Option String :=
  if a.isVpcProxy = true ∧ a.live = true ∧ a.vpcId ≠ "" then some a.vpcId else none

/-- The row has a key that another row has. -/
def violatesIndex (assets : List AssetRow) (a : AssetRow) : Bool :=
  assets.any fun b => b.id != a.id &&
    ((a.cloudKey.isSome && b.cloudKey == a.cloudKey) ||
      (a.vpcProxyKey.isSome && b.vpcProxyKey == a.vpcProxyKey))

def errDuplicateAsset : String := "duplicate key value violates unique constraint"

/-! ### Creating -/

/-- `NULLIF(text, '')`. -/
def nullIfEmpty (text : String) : Option String := if text = "" then none else some text

/-- The row that `CreateAsset` inserts. -/
def assetOfRequest (now : Time) (newId : Uuid) (req : CreateAssetRequest) : AssetRow :=
  { id := newId, type := req.type, name := req.name, status := req.status, env := req.env,
    source := req.source, externalId := nullIfEmpty req.externalID,
    externalArn := nullIfEmpty req.externalARN, publicIp := trimSpace req.publicIP,
    privateIp := trimSpace req.privateIP, privateDns := trimSpace req.privateDNS,
    region := trimSpace req.region, zone := trimSpace req.zone,
    accountId := trimSpace req.accountID, instanceType := trimSpace req.instanceType,
    osImage := trimSpace req.osImage, vpcId := trimSpace req.vpcID,
    subnetId := trimSpace req.subnetID, owner := trimSpace req.owner,
    businessUnit := trimSpace req.businessUnit, criticality := trimSpace req.criticality,
    expiresAt := req.expiresAt, labels := .obj ((req.labels.or req.tags).getD []),
    createdAt := now, updatedAt := now }

/-- `CreateAsset`. -/
def createAsset (db : Db) (now : Time) (newId : Uuid) (req : CreateAssetRequest) :
    Except String Db :=
  let a := assetOfRequest now newId req
  if db.cmdbAsset.any (·.id == newId) ∨ violatesIndex db.cmdbAsset a then .error errDuplicateAsset
  else .ok { db with cmdbAsset := db.cmdbAsset ++ [a] }

/-! ### Updating -/

/-- `applyLabelsUpdate`. -/
def applyLabelsUpdate (current : Json) (req : UpdateAssetRequest) : Json :=
  match req.labels, req.tags with
  | some labels, _ => .obj labels
  | none, some tags => .obj tags
  | none, none => current

/-- The asset that `UpdateAsset` has read, with the fields of the request. -/
def UpdateAssetRequest.applyTo (req : UpdateAssetRequest) (current : AssetRow) : AssetRow :=
  { current with
    name := req.name.getD current.name
    status := req.status.getD current.status
    env := req.env.getD current.env
    publicIp := req.publicIP.getD current.publicIp
    privateIp := req.privateIP.getD current.privateIp
    privateDns := req.privateDNS.getD current.privateDns
    region := req.region.getD current.region
    zone := req.zone.getD current.zone
    accountId := req.accountID.getD current.accountId
    instanceType := req.instanceType.getD current.instanceType
    osImage := req.osImage.getD current.osImage
    vpcId := req.vpcID.getD current.vpcId
    subnetId := req.subnetID.getD current.subnetId
    owner := req.owner.getD current.owner
    businessUnit := req.businessUnit.getD current.businessUnit
    criticality := req.criticality.getD current.criticality
    expiresAt := req.expiresAt.or current.expiresAt
    labels := applyLabelsUpdate current.labels req }

/-- The assignments of `UPDATE cmdb_asset`, from the asset `current`. -/
def assignAsset (now : Time) (current row : AssetRow) : AssetRow :=
  { row with
    name := current.name, status := current.status, env := current.env
    publicIp := trimSpace current.publicIp, privateIp := trimSpace current.privateIp
    privateDns := trimSpace current.privateDns, region := trimSpace current.region
    zone := trimSpace current.zone, accountId := trimSpace current.accountId
    instanceType := trimSpace current.instanceType, osImage := trimSpace current.osImage
    vpcId := trimSpace current.vpcId, subnetId := trimSpace current.subnetId
    owner := trimSpace current.owner, businessUnit := trimSpace current.businessUnit
    criticality := trimSpace current.criticality, expiresAt := current.expiresAt
    labels := current.labels, updatedAt := now }

/-- `UpdateAsset`. -/
def updateAsset (db : Db) (now : Time) (assetID : String) (req : UpdateAssetRequest) :
    Except String Db := do
  let current ← getAsset db assetID
  let assign := assignAsset now (req.applyTo current)
  if violatesIndex db.cmdbAsset (assign current) then .error errDuplicateAsset
  else
    .ok { db with
          cmdbAsset := updateWhere (fun a => a.id == current.id && a.live) assign db.cmdbAsset }

/-! ### What the calls do -/

lemma createAsset_eq_ok {db db' : Db} {now : Time} {newId : Uuid} {req : CreateAssetRequest}
    (h : createAsset db now newId req = .ok db') :
    (∀ a ∈ db.cmdbAsset, a.id ≠ newId) ∧
      db' = { db with cmdbAsset := db.cmdbAsset ++ [assetOfRequest now newId req] } := by
  rw [createAsset, Except.ite_error_eq_ok] at h
  obtain ⟨hfree, h⟩ := h
  push Not at hfree
  refine ⟨?_, (Except.ok.inj h).symm⟩
  simpa using hfree.1

/-- `UpdateAsset` changes the one live row of the id. -/
lemma updateAsset_eq_ok {db db' : Db} {now : Time} {assetID : String} {req : UpdateAssetRequest}
    (h : updateAsset db now assetID req = .ok db') :
    ∃ current, getAsset db assetID = .ok current ∧
      db' = { db with
              cmdbAsset := updateWhere (fun a => a.id == current.id && a.live)
                (assignAsset now (req.applyTo current)) db.cmdbAsset } := by
  rw [updateAsset, Except.bind_eq_ok] at h
  obtain ⟨current, hcurrent, h⟩ := h
  rw [Except.ite_error_eq_ok] at h
  exact ⟨current, hcurrent, (Except.ok.inj h.2).symm⟩

/-- The unique indexes admit a row next to the others. -/
structure FitsIndex (assets : List AssetRow) (a : AssetRow) : Prop where
  cloud : a.cloudKey.isSome = true → ∀ b ∈ assets, b.id ≠ a.id → b.cloudKey ≠ a.cloudKey
  vpcProxy : a.vpcProxyKey.isSome = true → ∀ b ∈ assets, b.id ≠ a.id →
    b.vpcProxyKey ≠ a.vpcProxyKey

lemma fitsIndex_of_violatesIndex {assets : List AssetRow} {a : AssetRow}
    (h : violatesIndex assets a = false) : FitsIndex assets a := by
  rw [violatesIndex, List.any_eq_false] at h
  have hclear : ∀ b ∈ assets, b.id ≠ a.id →
      ¬ (a.cloudKey.isSome = true ∧ b.cloudKey = a.cloudKey) ∧
        ¬ (a.vpcProxyKey.isSome = true ∧ b.vpcProxyKey = a.vpcProxyKey) := by
    intro b hb hid
    have hnone := h b hb
    rw [bne_iff_ne.mpr hid, Bool.true_and, Bool.or_eq_true, not_or] at hnone
    simpa using hnone
  refine ⟨?_, ?_⟩
  · intro hsome b hb hid heq
    exact (hclear b hb hid).1 ⟨hsome, heq⟩
  · intro hsome b hb hid heq
    exact (hclear b hb hid).2 ⟨hsome, heq⟩

lemma fitsIndex_createAsset {db db' : Db} {now : Time} {newId : Uuid} {req : CreateAssetRequest}
    (h : createAsset db now newId req = .ok db') :
    FitsIndex db.cmdbAsset (assetOfRequest now newId req) := by
  rw [createAsset, Except.ite_error_eq_ok, not_or, Bool.not_eq_true, Bool.not_eq_true] at h
  exact fitsIndex_of_violatesIndex h.1.2

lemma updateAsset_of_getAsset {db db' : Db} {now : Time} {assetID : String}
    {req : UpdateAssetRequest} {current : AssetRow} (hget : getAsset db assetID = .ok current)
    (h : updateAsset db now assetID req = .ok db') :
    FitsIndex db.cmdbAsset (assignAsset now (req.applyTo current) current) ∧
      db' = { db with
              cmdbAsset := updateWhere (fun a => a.id == current.id && a.live)
                (assignAsset now (req.applyTo current)) db.cmdbAsset } := by
  rw [updateAsset, hget] at h
  change (if violatesIndex db.cmdbAsset _ = true then _ else _) = _ at h
  rw [Except.ite_error_eq_ok, Bool.not_eq_true] at h
  exact ⟨fitsIndex_of_violatesIndex h.1, (Except.ok.inj h.2).symm⟩

end OpsPlatform.Cmdb
