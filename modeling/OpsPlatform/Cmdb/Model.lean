/-
The rows of the CMDB tables: `cmdb_asset` (migrations 0001, 0006, 0007, 0012, 0013),
`cmdb_ssh_proxy` (0009, 0013, 0014, 0015), `cmdb_asset_connection` (0005, 0008, 0009, 0013),
`cmdb_asset_probe_snapshot` (0005) and `cmdb_asset_relation` (0011).  The defaults are those of
the columns.
-/
import OpsPlatform.Iam.Model

namespace OpsPlatform.Cmdb

open Lib

/-- A row of `cmdb_asset`. -/
structure AssetRow where
  id : Uuid
  type : String
  name : String
  status : String := "active"
  env : String := "default"
  source : String := "manual"
  externalId : Option String := none
  externalArn : Option String := none
  publicIp : String := ""
  privateIp : String := ""
  privateDns : String := ""
  region : String := ""
  zone : String := ""
  accountId : String := ""
  instanceType : String := ""
  osImage : String := ""
  amiName : String := ""
  amiOwnerId : String := ""
  osFamily : String := ""
  vpcId : String := ""
  subnetId : String := ""
  keyName : String := ""
  owner : String := ""
  businessUnit : String := ""
  criticality : String := ""
  expiresAt : Option Time := none
  isVpcProxy : Bool := false
  /-- the tags of the time before migration 0007 -/
  tags : Json := .obj []
  systemTags : Json := .obj []
  labels : Json := .obj []
  createdAt : Time := 0
  updatedAt : Time := 0
  deletedAt : Option Time := none

/-- `deleted_at IS NULL`. -/
def AssetRow.live (a : AssetRow) : Bool := a.deletedAt.isNone

/-- A row of `cmdb_ssh_proxy`. -/
structure SshProxyRow where
  id : Uuid
  name : String
  description : String := ""
  networkZone : String := ""
  host : String
  port : Int := 22
  username : String
  authType : String := "password"
  passwordEncrypted : String := ""
  privateKeyEncrypted : String := ""
  passphraseEncrypted : String := ""
  keyName : String := ""
  sourceAssetId : Option Uuid := none
  createdAt : Time := 0
  updatedAt : Time := 0
  deletedAt : Option Time := none
deriving DecidableEq

/-- `deleted_at IS NULL`. -/
def SshProxyRow.live (p : SshProxyRow) : Bool := p.deletedAt.isNone

/-- A row of `cmdb_asset_connection`. -/
structure ConnectionRow where
  id : Uuid
  assetId : Uuid
  protocol : String := "ssh"
  host : String
  port : Int := 22
  username : String
  authType : String := "password"
  databaseName : String := ""
  passwordEncrypted : String := ""
  privateKeyEncrypted : String := ""
  passphraseEncrypted : String := ""
  bastionEnabled : Bool := true
  proxyId : Option Uuid := none
  autoManaged : Bool := false
  lastProbeAt : Option Time := none
  lastProbeStatus : String := ""
  lastProbeError : String := ""
  createdAt : Time := 0
  updatedAt : Time := 0
deriving DecidableEq

/-- A row of `cmdb_asset_probe_snapshot`. -/
structure ProbeSnapshotRow where
  id : Uuid
  assetId : Uuid
  osName : String := ""
  osVersion : String := ""
  kernel : String := ""
  arch : String := ""
  hostname : String := ""
  uptimeSeconds : Int := 0
  cpuModel : String := ""
  cpuCores : Int := 0
  memoryMb : Int := 0
  diskSummary : String := ""
  software : Json := .arr []
  rawJson : Json := .obj []
  collectedBy : String := "bastion-probe"
  collectedAt : Time := 0

/-- A row of `cmdb_asset_relation`. -/
structure RelationRow where
  id : Uuid
  fromAssetId : Uuid
  toAssetId : Uuid
  relationType : String
  source : String := "manual"
  createdAt : Time := 0
  updatedAt : Time := 0
deriving DecidableEq

end OpsPlatform.Cmdb
