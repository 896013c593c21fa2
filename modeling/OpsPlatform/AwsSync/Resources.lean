/-
What the sync of one resource writes (`syncEC2Instances`, `syncVPCs`, `syncSecurityGroups`,
`syncRDSInstances` and `lookupEC2Images` in `internal/awssync/service.go`,
`internal/awssync/osfamily.go`).

A sync turns each resource that AWS lists into an item and upserts the items one after the other;
an item that fails does not keep the others from being stored.
-/
import OpsPlatform.Cmdb.AwsWriter
import OpsPlatform.Lib.Batches
import Mathlib.Data.List.Dedup

namespace OpsPlatform.AwsSync

open Lib Lib.Text Cmdb

/-! ### Tags -/

/-- `ec2.Tag` and `rds.Tag`. -/
structure Tag where
  key : Option String
  value : Option String

/-- `map[string]any`, whose values are texts. -/
abbrev Tags := List (String × String)

/-- The body of the loops over tags. -/
def addTag (result : Tags) : Tag → Tags
  | ⟨some key, some value⟩ => Assoc.set key value result
  | _ => result

/-- `ec2TagsToMap`; a tag that is nil is passed over. -/
def ec2TagsToMap (tags : List (Option Tag)) : Tags :=
  tags.foldl (fun result tag =>
    match tag with
    | none => result
    | some tag => addTag result tag) []

/-- The loop over the tags in `syncRDSInstances`, which has no check for nil. -/
def rdsTagsToMap (tags : List Tag) : Tags := tags.foldl addTag []

def tagValue (tags : Tags) (key : String) : String := (tags.lookup key).getD ""

def inferEnv (tags : Tags) : String :=
  let keys := ["env", "environment", "stage", "Env", "Environment", "Stage"]
  match keys.find? fun key => trimSpace (tagValue tags key) ≠ "" with
  | some key => toLower (trimSpace (tagValue tags key))
  | none => "default"

def coalesce (values : List String) : String :=
  (values.find? fun value => trimSpace value ≠ "").getD ""

/-- The labels of an item. -/
def Tags.toLabels (tags : Tags) : JsonMap := tags.map fun (key, value) => (key, .str value)

/-! ### Operating systems -/

/-- `strings.Contains`. -/
def contains (s sub : String) : Bool := s.toList.tails.any sub.toList.isPrefixOf

/-- The second switch of `deriveOSFamily`. -/
def familyOfName (name : String) : String :=
  if contains name "amzn2" || contains name "amazon-linux" || contains name "al2023" then "amzn"
  else if contains name "ubuntu" then "ubuntu"
  else if contains name "debian" then "debian"
  else if contains name "rhel" then "rhel"
  else if contains name "centos" then "centos"
  else if contains name "suse" || contains name "sles" then "suse"
  else if contains name "windows" then "windows"
  else ""

def deriveOSFamily (ownerID name : String) : String :=
  let name := toLower (trimSpace name)
  let owner := trimSpace ownerID
  if owner = "137112412989" then if contains name "ubuntu" then "ubuntu" else "amzn"
  else if owner = "099720109477" then "ubuntu"
  else if owner = "136693071363" then "debian"
  else if owner = "309956199498" then "rhel"
  else if owner = "013907871322" then "suse"
  else if owner = "125523088429" then "centos"
  else if (owner = "801119661308" ∨ owner = "591542846629") ∧ contains name "windows" = true then
    "windows"
  else familyOfName name

/-! ### Images -/

/-- `ec2.Image`. -/
structure Image where
  imageId : Option String
  name : Option String
  ownerId : Option String

/-- `amiMetadata`. -/
structure AmiMetadata where
  name : String
  owner : String
deriving DecidableEq

/-- `awssdk.StringValue`. -/
def stringValue (s : Option String) : String := s.getD ""

/-- The body of the loop over `out.Images`. -/
def addImage (result : List (String × AmiMetadata)) : Option Image → List (String × AmiMetadata)
  | none => result
  | some img =>
    if stringValue img.imageId = "" then result
    else Assoc.set (stringValue img.imageId) ⟨stringValue img.name, stringValue img.ownerId⟩ result

def batchSize : ℕ := 100

/-- `DescribeImages`: the answer to a request for the ids. -/
abbrev DescribeImages := List String → Except String (List (Option Image))

/-- What `lookupEC2Images` has asked for and what it knows of the images. -/
structure ImageLookup where
  requests : List (List String) := []
  result : List (String × AmiMetadata) := []

/-- The body of the loop over the batches.  A batch whose request fails is left out. -/
def ImageLookup.batch (describe : DescribeImages) (s : ImageLookup) (batch : List String) :
    ImageLookup :=
  match describe batch with
  | .error _ => { s with requests := s.requests ++ [batch] }
  | .ok images =>
    { requests := s.requests ++ [batch], result := images.foldl addImage s.result }

/-- `lookupEC2Images`, for the ids in the order in which the map is ranged over. -/
def lookupEC2Images (describe : DescribeImages) (all : List String) : ImageLookup :=
  (batches batchSize all).foldl (ImageLookup.batch describe) {}

/-! ### Items -/

/-- `ec2.Instance`; `state` is the name of its state. -/
structure Ec2Instance where
  instanceId : Option String := none
  imageId : Option String := none
  instanceType : Option String := none
  state : Option String := none
  publicIpAddress : Option String := none
  privateIpAddress : Option String := none
  privateDnsName : Option String := none
  availabilityZone : Option String := none
  vpcId : Option String := none
  subnetId : Option String := none
  keyName : Option String := none
  tags : List (Option Tag) := []

/-- `ec2.Vpc`. -/
structure Vpc where
  vpcId : Option String := none
  cidrBlock : Option String := none
  isDefault : Option Bool := none
  state : Option String := none
  tags : List (Option Tag) := []

/-- `ec2.SecurityGroup`. -/
structure SecurityGroup where
  groupId : Option String := none
  groupName : Option String := none
  description : Option String := none
  vpcId : Option String := none
  tags : List (Option Tag) := []

/-- `rds.DBInstance`; `endpoint` is the address of its endpoint. -/
structure DBInstance where
  dbInstanceIdentifier : Option String := none
  dbInstanceArn : Option String := none
  dbInstanceStatus : Option String := none
  dbInstanceClass : Option String := none
  engine : Option String := none
  engineVersion : Option String := none
  multiAZ : Option Bool := none
  endpoint : Option String := none

/-- The account and the region of a sync. -/
structure Place where
  accountID : String
  region : String

/-- The system tags that all items have. -/
def placeTags (p : Place) (resource : String) : JsonMap :=
  [("aws_account_id", .str p.accountID), ("aws_region", .str p.region),
    ("aws_resource_type", .str resource)]

/-- A tag that is left out when it is empty. -/
def optionalTag (key value : String) : JsonMap := if value = "" then [] else [(key, .str value)]

def arn (p : Place) (kind externalID : String) : String :=
  "arn:aws:ec2:" ++ p.region ++ ":" ++ p.accountID ++ ":" ++ kind ++ "/" ++ externalID

def ec2Item (p : Place) (images : List (String × AmiMetadata)) (instance_ : Ec2Instance) :
    AssetUpsert :=
  let externalID := stringValue instance_.instanceId
  let userTags := ec2TagsToMap instance_.tags
  let imageID := stringValue instance_.imageId
  let ami := (images.lookup imageID).getD ⟨"", ""⟩
  let osFamily := deriveOSFamily ami.owner ami.name
  { assetType := "aws_ec2_instance"
    name := coalesce [tagValue userTags "Name", externalID]
    status := toLower (stringValue instance_.state)
    env := inferEnv userTags
    externalID, externalARN := arn p "instance" externalID
    publicIP := stringValue instance_.publicIpAddress
    privateIP := stringValue instance_.privateIpAddress
    privateDNS := stringValue instance_.privateDnsName
    region := p.region, zone := stringValue instance_.availabilityZone, accountID := p.accountID
    instanceType := stringValue instance_.instanceType
    osImage := imageID, amiName := ami.name, amiOwnerID := ami.owner, osFamily
    vpcID := stringValue instance_.vpcId, subnetID := stringValue instance_.subnetId
    keyName := stringValue instance_.keyName
    owner := tagValue userTags "Owner", businessUnit := tagValue userTags "BusinessUnit"
    systemTags := some (placeTags p "ec2_instance" ++
      [("instance_type", .str (stringValue instance_.instanceType)),
        ("availability_zone", .str (stringValue instance_.availabilityZone)),
        ("vpc_id", .str (stringValue instance_.vpcId)),
        ("subnet_id", .str (stringValue instance_.subnetId)), ("image_id", .str imageID)] ++
      optionalTag "ami_name" ami.name ++ optionalTag "ami_owner_id" ami.owner ++
      optionalTag "os_family" osFamily)
    labels := some userTags.toLabels }

def vpcItem (p : Place) (vpc : Vpc) : AssetUpsert :=
  let externalID := stringValue vpc.vpcId
  let userTags := ec2TagsToMap vpc.tags
  { assetType := "aws_vpc"
    name := coalesce [tagValue userTags "Name", externalID]
    status := toLower (stringValue vpc.state)
    env := inferEnv userTags
    externalID, externalARN := arn p "vpc" externalID
    region := p.region, accountID := p.accountID, vpcID := externalID
    systemTags := some (placeTags p "vpc" ++
      [("cidr", .str (stringValue vpc.cidrBlock)),
        ("is_default", .bool (vpc.isDefault.getD false))])
    labels := some userTags.toLabels }

def securityGroupItem (p : Place) (group : SecurityGroup) : AssetUpsert :=
  let externalID := stringValue group.groupId
  let userTags := ec2TagsToMap group.tags
  { assetType := "aws_security_group"
    name := coalesce [stringValue group.groupName, externalID]
    status := "active"
    env := inferEnv userTags
    externalID, externalARN := arn p "security-group" externalID
    region := p.region, accountID := p.accountID, vpcID := stringValue group.vpcId
    systemTags := some (placeTags p "security_group" ++
      [("vpc_id", .str (stringValue group.vpcId)),
        ("group_name", .str (stringValue group.groupName)),
        ("description", .str (stringValue group.description))])
    labels := some userTags.toLabels }

/-- The tags of a database: `ListTagsForResource` is asked for those of its ARN, and an error
leaves none. -/
def dbTags (listTags : String → Except String (List Tag)) (instance_ : DBInstance) :
    Tags :=
  match instance_.dbInstanceArn with
  | none => []
  | some arn =>
    match listTags arn with
    | .error _ => []
    | .ok tags => rdsTagsToMap tags

def dbItem (p : Place) (listTags : String → Except String (List Tag))
    (instance_ : DBInstance) : AssetUpsert :=
  let externalID := stringValue instance_.dbInstanceIdentifier
  let endpoint := stringValue instance_.endpoint
  let userTags := dbTags listTags instance_
  { assetType := "aws_rds_instance"
    name := coalesce [tagValue userTags "Name", externalID]
    status := toLower (stringValue instance_.dbInstanceStatus)
    env := inferEnv userTags
    externalID, externalARN := stringValue instance_.dbInstanceArn
    privateDNS := endpoint
    region := p.region, accountID := p.accountID
    instanceType := stringValue instance_.dbInstanceClass
    owner := tagValue userTags "Owner", businessUnit := tagValue userTags "BusinessUnit"
    systemTags := some (placeTags p "rds_instance" ++
      [("engine", .str (stringValue instance_.engine)),
        ("engine_version", .str (stringValue instance_.engineVersion)),
        ("instance_class", .str (stringValue instance_.dbInstanceClass)),
        ("multi_az", .bool (instance_.multiAZ.getD false)), ("endpoint", .str endpoint)])
    labels := some userTags.toLabels }

/-! ### The loops -/

/-- What the statements of a sync find: the time, the id for a new row, and why the statement
fails, other than for the table. -/
structure Statements where
  now : ℕ → Time
  newId : ℕ → Uuid
  fails : ℕ → Option String := fun _ => none

/-- The state of a loop; `next` counts the statements. -/
structure Progress where
  db : Db
  next : ℕ := 0
  count : ℕ := 0
  errs : List String := []

/-- The statement of `UpsertAsset` for an item. -/
def Statements.exec (env : Statements) (step : ℕ) (db : Db) (item : AssetUpsert) :
    Except String Db :=
  match env.fails step with
  | some e => .error e
  | none => upsertAsset db (env.now step) (env.newId step) item

/-- A round of the loop. -/
def Progress.upsert (env : Statements) (s : Progress) (item : AssetUpsert) : Progress :=
  match env.exec s.next s.db item with
  | .error e => { s with next := s.next + 1, errs := s.errs ++ [e] }
  | .ok db => { s with db, next := s.next + 1, count := s.count + 1 }

def upsertAll (env : Statements) (db : Db) (items : List AssetUpsert) : Progress :=
  items.foldl (Progress.upsert env) { db }

/-- What a sync returns: its writes, its number of assets and the errors it joins. -/
structure Synced where
  db : Db
  count : ℕ
  errs : List String

/-- The pages of a listing, and the error after which there are no more. -/
structure Listing (α : Type) where
  pages : List (List α)
  err : Option String := none

/-- What AWS answers to `syncEC2Instances`; `order` is the order in which a map is ranged over. -/
structure Ec2Answer where
  listing : Listing (List (Option Ec2Instance))
  describeImages : DescribeImages
  order : List String → List String
  order_perm : ∀ ids, (order ids).Perm ids

namespace Ec2Answer

variable (answer : Ec2Answer)

/-- `pending`. -/
def pending : List Ec2Instance :=
  answer.listing.pages.flatten.flatten.filterMap fun instance_ =>
    instance_.filter fun i => stringValue i.instanceId ≠ ""

/-- The keys of `imageIDs`. -/
def imageIDs : List String :=
  ((answer.pending.map fun i => stringValue i.imageId).filter (· ≠ "")).dedup

def lookup : ImageLookup := lookupEC2Images answer.describeImages (answer.order answer.imageIDs)

def images : List (String × AmiMetadata) := answer.lookup.result

/-- The ids of the requests for images, in their order. -/
def requests : List (List String) := answer.lookup.requests

def items (p : Place) : List AssetUpsert := answer.pending.map (ec2Item p answer.images)

end Ec2Answer

/-- `syncEC2Instances`: all pages are read before the first statement. -/
def syncEC2Instances (env : Statements) (p : Place) (answer : Ec2Answer) (db : Db) : Synced :=
  let s := upsertAll env db (answer.items p)
  { db := s.db, count := s.count, errs := answer.listing.err.toList ++ s.errs }

/-- The resources of a listing that have an id. -/
def Listing.named {α : Type} (listing : Listing α) (id : α → Option String) : List α :=
  listing.pages.flatten.filter fun x => stringValue (id x) ≠ ""

/-- A sync that writes while it lists. -/
def syncListing {α : Type} (env : Statements) (listing : Listing α) (id : α → Option String)
    (item : α → AssetUpsert) (db : Db) : Synced :=
  let s := upsertAll env db ((listing.named id).map item)
  { db := s.db, count := s.count, errs := s.errs ++ listing.err.toList }

def syncVPCs (env : Statements) (p : Place) (listing : Listing Vpc) (db : Db) : Synced :=
  syncListing env listing Vpc.vpcId (vpcItem p) db

def syncSecurityGroups (env : Statements) (p : Place) (listing : Listing SecurityGroup) (db : Db) :
    Synced :=
  syncListing env listing SecurityGroup.groupId (securityGroupItem p) db

def syncRDSInstances (env : Statements) (p : Place) (listing : Listing DBInstance)
    (listTags : String → Except String (List Tag)) (db : Db) : Synced :=
  syncListing env listing DBInstance.dbInstanceIdentifier (dbItem p listTags) db

/-- What AWS answers to the sync of a resource. -/
inductive Answer where
  | ec2 (answer : Ec2Answer)
  | vpc (listing : Listing Vpc)
  | securityGroup (listing : Listing SecurityGroup)
  | rds (listing : Listing DBInstance) (listTags : String → Except String (List Tag))

namespace Answer

/-- The items of the resources that have an id, in the order of the listing. -/
def items (p : Place) : Answer → List AssetUpsert
  | .ec2 answer => answer.items p
  | .vpc listing => (listing.named Vpc.vpcId).map (vpcItem p)
  | .securityGroup listing => (listing.named SecurityGroup.groupId).map (securityGroupItem p)
  | .rds listing listTags =>
    (listing.named DBInstance.dbInstanceIdentifier).map (dbItem p listTags)

/-- `resource.run`. -/
def run (env : Statements) (p : Place) (db : Db) : Answer → Synced
  | .ec2 answer => syncEC2Instances env p answer db
  | .vpc listing => syncVPCs env p listing db
  | .securityGroup listing => syncSecurityGroups env p listing db
  | .rds listing listTags => syncRDSInstances env p listing listTags db

end Answer

end OpsPlatform.AwsSync
