/-
`AWSWriter` (`internal/cmdb/aws_writer.go`): what a sync of an AWS account writes.

`UpsertAsset` is one statement.  It inserts an asset that is seen for the first time with all that
was observed, and afterwards refreshes the columns that AWS knows about.
-/
import OpsPlatform.Cmdb.Asset
import OpsPlatform.Lib.Assoc

namespace OpsPlatform.Cmdb

open Lib Lib.Table Lib.Text SshProxy

/-- `awssync.SourceID`. -/
def sourceID : String := "aws"

/-- `awssync.AssetUpsert`. -/
structure AssetUpsert where
  assetType : String := ""
  name : String := ""
  status : String := ""
  env : String := ""
  externalID : String := ""
  externalARN : String := ""
  publicIP : String := ""
  privateIP : String := ""
  privateDNS : String := ""
  region : String := ""
  zone : String := ""
  accountID : String := ""
  instanceType : String := ""
  osImage : String := ""
  amiName : String := ""
  amiOwnerID : String := ""
  osFamily : String := ""
  vpcID : String := ""
  subnetID : String := ""
  keyName : String := ""
  owner : String := ""
  businessUnit : String := ""
  systemTags : Option JsonMap := none
  labels : Option JsonMap := none

/-! ### `UpsertAsset` -/

/-- The defaults of the item. -/
def AssetUpsert.withDefaults (item : AssetUpsert) : AssetUpsert :=
  { item with
    name := if trimSpace item.name = "" then item.externalID else item.name
    status := toLower (trimSpace (if trimSpace item.status = "" then "active" else item.status))
    env := if trimSpace item.env = "" then "default" else item.env
    systemTags := some (item.systemTags.getD [])
    labels := some (item.labels.getD []) }

/-- The row that is inserted. -/
def observedAsset (now : Time) (newId : Uuid) (item : AssetUpsert) : AssetRow :=
  { id := newId, type := item.assetType, name := item.name, status := item.status
    env := item.env, source := sourceID, externalId := some item.externalID
    externalArn := nullIfEmpty item.externalARN, publicIp := trimSpace item.publicIP
    privateIp := trimSpace item.privateIP, privateDns := trimSpace item.privateDNS
    region := trimSpace item.region, zone := trimSpace item.zone
    accountId := trimSpace item.accountID, instanceType := trimSpace item.instanceType
    osImage := trimSpace item.osImage, vpcId := trimSpace item.vpcID
    subnetId := trimSpace item.subnetID, keyName := trimSpace item.keyName
    amiName := trimSpace item.amiName, amiOwnerId := trimSpace item.amiOwnerID
    osFamily := trimSpace item.osFamily, owner := trimSpace item.owner
    businessUnit := trimSpace item.businessUnit, systemTags := .obj (item.systemTags.getD [])
    labels := .obj (item.labels.getD []), createdAt := now, updatedAt := now }

/-- The assignments of `DO UPDATE`, with `excluded` for `EXCLUDED`. -/
def refreshAsset (now : Time) (excluded row : AssetRow) : AssetRow :=
  { row with
    name := excluded.name, status := excluded.status, env := excluded.env
    externalArn := excluded.externalArn, publicIp := excluded.publicIp
    privateIp := excluded.privateIp, privateDns := excluded.privateDns, zone := excluded.zone
    instanceType := excluded.instanceType, osImage := excluded.osImage, vpcId := excluded.vpcId
    subnetId := excluded.subnetId, keyName := excluded.keyName, amiName := excluded.amiName
    amiOwnerId := excluded.amiOwnerId
    osFamily := if excluded.osFamily = "" then row.osFamily else excluded.osFamily
    systemTags := excluded.systemTags, deletedAt := none, updatedAt := now }

/-- The statement of `UpsertAsset`. -/
def storeObserved (db : Db) (now : Time) (new : AssetRow) : Except String Db :=
  let conflict : AssetRow → Bool := fun a => a.cloudKey == new.cloudKey
  match db.cmdbAsset.find? conflict with
  | none =>
    if db.cmdbAsset.any (·.id == new.id) then .error errDuplicateAsset
    else .ok { db with cmdbAsset := db.cmdbAsset ++ [new] }
  | some a =>
    if violatesIndex db.cmdbAsset (refreshAsset now new a) then .error errDuplicateAsset
    else .ok { db with cmdbAsset := updateWhere conflict (refreshAsset now new) db.cmdbAsset }

/-- `UpsertAsset`. -/
def upsertAsset (db : Db) (now : Time) (newId : Uuid) (item : AssetUpsert) : Except String Db :=
  if trimSpace item.externalID = "" then .error "external id is required"
  else if trimSpace item.assetType = "" then .error "asset type is required"
  else storeObserved db now (observedAsset now newId item.withDefaults)

/-! ### `LinkAWSRelations` -/

/-- The query of `resolveID`. -/
def selectID (db : Db) (externalID assetType accountID region : String) : Option Uuid :=
  (db.cmdbAsset.find? fun a => a.source == sourceID && a.externalId == some externalID &&
    a.type == assetType && a.accountId == accountID && a.region == region && a.live).map (·.id)

/-- `lookup`, in which `none` stands for the empty id of a target that was not found. -/
abbrev Lookup := List (String × Option Uuid)

def lookupKey (externalID assetType accountID region : String) : String :=
  accountID ++ "|" ++ region ++ "|" ++ assetType ++ "|" ++ externalID

/-- `resolveID`, with what `lookup` holds afterwards. -/
def resolveID (db : Db) (lookup : Lookup) (externalID assetType accountID region : String) :
    Option Uuid × Lookup :=
  if externalID = "" ∨ assetType = "" then (none, lookup)
  else
    let key := lookupKey externalID assetType accountID region
    match lookup.lookup key with
    | some cached => (cached, lookup)
    | none =>
      let id := selectID db externalID assetType accountID region
      (id, Assoc.set key id lookup)

/-- The edge from an asset to the target that was resolved. -/
def linkAsset (now : Time) (newId : Uuid → Uuid → String → Uuid) (assetId : Uuid)
    (relationType : String) (relations : List RelationRow) : Option Uuid → List RelationRow
  | none => relations
  | some targetId =>
    if targetId = assetId then relations
    else
      upsert
        (fun r => r.fromAssetId == assetId && r.toAssetId == targetId &&
          r.relationType == relationType)
        (fun _ => true) (fun r => { r with updatedAt := now })
        { id := newId assetId targetId relationType, fromAssetId := assetId, toAssetId := targetId
          relationType, source := sourceID, createdAt := now, updatedAt := now }
        relations

/-- A block of the loop: the target of one column of the asset is resolved and linked.  `failed`
are the statements that fail; they do not keep the others from being executed. -/
def linkColumn (db : Db) (now : Time) (newId : Uuid → Uuid → String → Uuid)
    (failed : List (Uuid × String)) (a : AssetRow) (externalID assetType relationType : String)
    (state : Lookup × List RelationRow) : Lookup × List RelationRow :=
  if externalID = "" then state
  else
    let (targetId, lookup) := resolveID db state.1 externalID assetType a.accountId a.region
    (lookup,
      if (a.id, relationType) ∈ failed then state.2
      else linkAsset now newId a.id relationType state.2 targetId)

/-- The assets of the loop. -/
def pendingAssets (db : Db) : List AssetRow :=
  db.cmdbAsset.filter fun a =>
    a.source == sourceID && a.live && (a.vpcId != "" || a.subnetId != "")

/-- `LinkAWSRelations`. -/
def linkAWSRelations (db : Db) (now : Time) (newId : Uuid → Uuid → String → Uuid)
    (failed : List (Uuid × String)) : Db :=
  let link := linkColumn db now newId failed
  let state := (pendingAssets db).foldl
    (fun state a =>
      link a a.subnetId "aws_subnet" "in_subnet" (link a a.vpcId "aws_vpc" "in_vpc" state))
    ([], db.cmdbAssetRelation)
  { db with cmdbAssetRelation := state.2 }

/-! ### What `UpsertAsset` does -/

/-- The item is stored under its key: it is new, or the rows with its key are refreshed. -/
lemma storeObserved_eq_ok {db db' : Db} {now : Time} {new : AssetRow}
    (h : storeObserved db now new = .ok db') :
    ((∀ a ∈ db.cmdbAsset, a.cloudKey ≠ new.cloudKey ∧ a.id ≠ new.id) ∧
        db' = { db with cmdbAsset := db.cmdbAsset ++ [new] }) ∨
      ((∃ a ∈ db.cmdbAsset, a.cloudKey = new.cloudKey) ∧
        db' = { db with
                cmdbAsset := updateWhere (fun a => a.cloudKey == new.cloudKey)
                  (refreshAsset now new) db.cmdbAsset }) := by
  rw [storeObserved] at h
  split at h
  · next hnone =>
    rw [Except.ite_error_eq_ok] at h
    obtain ⟨hfresh, h⟩ := h
    rw [List.find?_eq_none] at hnone
    refine Or.inl ⟨fun a ha => ⟨?_, ?_⟩, (Except.ok.inj h).symm⟩
    · simpa using hnone a ha
    · intro hid
      exact hfresh (List.any_eq_true.mpr ⟨a, ha, beq_iff_eq.mpr hid⟩)
  · next a ha =>
    rw [Except.ite_error_eq_ok] at h
    refine Or.inr ⟨⟨a, List.mem_of_find?_eq_some ha, ?_⟩, (Except.ok.inj h.2).symm⟩
    simpa using List.find?_some ha

/-- `UpsertAsset` stores the item with its defaults. -/
lemma upsertAsset_eq_ok {db db' : Db} {now : Time} {newId : Uuid} {item : AssetUpsert}
    (h : upsertAsset db now newId item = .ok db') :
    trimSpace item.externalID ≠ "" ∧
      storeObserved db now (observedAsset now newId item.withDefaults) = .ok db' := by
  rw [upsertAsset, Except.ite_error_eq_ok, Except.ite_error_eq_ok] at h
  exact ⟨h.1, h.2.2⟩

end OpsPlatform.Cmdb
