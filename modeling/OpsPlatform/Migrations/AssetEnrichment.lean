/-
What the migrations do to the rows of `cmdb_asset`: the backfill of
`migrations/0007_cmdb_asset_enrichment.sql`, and the unique indexes of
`migrations/0013_cmdb_vpc_proxy_and_ami.sql`, `migrations/0020_cmdb_asset_aws_unique.sql` and
`migrations/0021_cmdb_asset_cloud_unique.sql`.

The backfill reads the column `tags`, which nothing in the program writes any more, and which
nothing clears either.
-/
import OpsPlatform.Cmdb.Asset

namespace OpsPlatform.Migrations

open Lib Lib.Table Cmdb

/-! ### The backfill -/

/-- The keys that a sync provides. -/
def syncKeys : List String :=
  ["aws_account_id", "aws_region", "aws_resource_type", "instance_type", "instance_class", "engine",
    "engine_version", "multi_az", "endpoint", "cidr", "is_default", "group_name", "description",
    "vpc_id", "subnet_id", "availability_zone", "az", "image_id", "ami_id", "public_ip",
    "private_ip"]

/-- The keys that a probe provides. -/
def probeKeys : List String :=
  ["os_name", "os_version", "kernel", "arch", "hostname", "cpu_model", "cpu_cores", "memory_mb",
    "probe_at", "probe_by", "probe_software"]

/-- The `WHERE` clause: the tags are an object that is not empty. -/
def hasTags : Json → Bool
  | .obj fields => !fields.isEmpty
  | _ => false

/-- `jsonb_each` of the object, or of none. -/
def eachField : Json → List (String × Json)
  | .obj fields => fields
  | _ => []

/-- What becomes of the tags that a sync has provided. -/
def systemTagsOf (tags : Json) : Json :=
  .obj ((eachField tags).filter fun field => syncKeys.contains field.1)

/-- What becomes of the tags that a user has given. -/
def labelsOf (tags : Json) : Json :=
  .obj ((eachField tags).filter fun field => !(syncKeys ++ probeKeys).contains field.1)

/-- `COALESCE(tags->>key, .., '')`. -/
def tagText (tags : Json) (keys : List String) : String :=
  (keys.findSome? fun key => tags.fieldText key).getD ""

/-- `COALESCE(NULLIF(current, ''), text)`. -/
def fillBlank (current text : String) : String := if current = "" then text else current

/-- The assignments of the backfill. -/
def enrich (a : AssetRow) : AssetRow :=
  { a with
    region := fillBlank a.region (tagText a.tags ["aws_region"])
    accountId := fillBlank a.accountId (tagText a.tags ["aws_account_id"])
    instanceType := fillBlank a.instanceType (tagText a.tags ["instance_type", "instance_class"])
    vpcId := fillBlank a.vpcId (tagText a.tags ["vpc_id"])
    zone := fillBlank a.zone (tagText a.tags ["availability_zone", "az"])
    subnetId := fillBlank a.subnetId (tagText a.tags ["subnet_id"])
    osImage := fillBlank a.osImage (tagText a.tags ["image_id", "ami_id"])
    systemTags := systemTagsOf a.tags
    labels := labelsOf a.tags }

/-- The `UPDATE` of migration 0007. -/
def backfill (assets : List AssetRow) : List AssetRow :=
  updateWhere (fun a => hasTags a.tags) enrich assets

/-! ### The unique indexes -/

/-- The key of `idx_cmdb_asset_aws_unique`, for the rows that the index covers. -/
def awsKey (a : AssetRow) : Option (List String) := if a.source = "aws" then a.cloudKey else none

/-- The order in which the duplicates of a key are ranked. -/
def ranksBefore (b a : AssetRow) : Bool :=
  decide (a.updatedAt < b.updatedAt) ||
    (b.updatedAt == a.updatedAt && (decide (a.createdAt < b.createdAt) ||
      (b.createdAt == a.createdAt && decide (b.id.toText < a.id.toText))))

/-- The `UPDATE` of migration 0020: of the rows with a key, the first one stays. -/
def dedupe (now : Time) (assets : List AssetRow) : List AssetRow :=
  updateWhere
    (fun a => (awsKey a).isSome && assets.any fun b => awsKey b == awsKey a && ranksBefore b a)
    (fun a => { a with deletedAt := some now, updatedAt := now }) assets

/-- Some rows share a key. -/
def sharesKey {κ : Type} [DecidableEq κ] (key : AssetRow → Option κ) (assets : List AssetRow) :
    Bool :=
  decide ¬ (assets.filterMap key).Nodup

/-- `CREATE UNIQUE INDEX IF NOT EXISTS`.  An index that exists has been kept by the statements. -/
def createUniqueIndex {κ : Type} [DecidableEq κ] (key : AssetRow → Option κ) (db : Db) :
    Except String Db :=
  if sharesKey key db.cmdbAsset then .error "could not create unique index" else .ok db

/-! ### What the backfill does to a row -/

/-- The columns of a row that the backfill and people write. -/
structure AssetFacts where
  id : Uuid
  labels : Json
  systemTags : Json
  texts : List String
  expiresAt : Option Time

def factsOf (a : AssetRow) : AssetFacts where
  id := a.id
  labels := a.labels
  systemTags := a.systemTags
  texts := [a.region, a.zone, a.accountId, a.instanceType, a.osImage, a.vpcId, a.subnetId, a.owner,
    a.businessUnit, a.criticality]
  expiresAt := a.expiresAt

/-- The columns that the backfill fills, with the tags that it fills them from. -/
def filledColumns : List ((AssetRow → String) × List String) :=
  [(AssetRow.region, ["aws_region"]), (AssetRow.accountId, ["aws_account_id"]),
    (AssetRow.instanceType, ["instance_type", "instance_class"]), (AssetRow.vpcId, ["vpc_id"]),
    (AssetRow.zone, ["availability_zone", "az"]), (AssetRow.subnetId, ["subnet_id"]),
    (AssetRow.osImage, ["image_id", "ami_id"])]

/-- No column is blank for which there is a tag. -/
def Filled (a : AssetRow) : Prop :=
  ∀ c ∈ filledColumns, c.1 a = "" → tagText a.tags c.2 = ""

instance (a : AssetRow) : Decidable (Filled a) :=
  inferInstanceAs (Decidable (∀ c ∈ filledColumns, c.1 a = "" → tagText a.tags c.2 = ""))

@[simp] lemma fillBlank_eq_self_iff {current text : String} :
    fillBlank current text = current ↔ (current = "" → text = "") := by
  rw [fillBlank]
  by_cases h : current = ""
  · simp [h]
  · simp [h]

/-- A row that the backfill leaves as it is. -/
lemma factsOf_enrich_iff (a : AssetRow) :
    factsOf (enrich a) = factsOf a ↔
      labelsOf a.tags = a.labels ∧ systemTagsOf a.tags = a.systemTags ∧ Filled a := by
  simp only [factsOf, enrich, AssetFacts.mk.injEq, List.cons.injEq, fillBlank_eq_self_iff, Filled,
    filledColumns, List.forall_mem_cons]
  constructor
  · rintro ⟨-, hlabels, htags, ⟨hregion, hzone, haccount, htype, himage, hvpc, hsubnet, -⟩, -⟩
    exact ⟨hlabels, htags, hregion, haccount, htype, hvpc, hzone, hsubnet, himage, by simp⟩
  · rintro ⟨hlabels, htags, hregion, haccount, htype, hvpc, hzone, hsubnet, himage, -⟩
    exact ⟨trivial, hlabels, htags,
      ⟨hregion, hzone, haccount, htype, himage, hvpc, hsubnet, by simp⟩, trivial⟩

/-- The backfill and the ranking, as far as the columns are concerned. -/
lemma map_factsOf_dedupe_backfill (now : Time) (assets : List AssetRow) :
    (dedupe now (backfill assets)).map factsOf =
      assets.map fun a => if hasTags a.tags then factsOf (enrich a) else factsOf a := by
  rw [dedupe, map_updateWhere (by intros; rfl), backfill, updateWhere, List.map_map]
  refine List.map_congr_left fun a _ => ?_
  rw [Function.comp_apply, apply_ite factsOf]

lemma map_id_dedupe_backfill (now : Time) (assets : List AssetRow) :
    (dedupe now (backfill assets)).map (·.id) = assets.map (·.id) := by
  rw [dedupe, map_updateWhere (by intros; rfl), backfill, map_updateWhere (by intros; rfl)]

/-- **What a replay keeps.** -/
lemma map_factsOf_eq_iff (now : Time) (assets : List AssetRow) :
    (dedupe now (backfill assets)).map factsOf = assets.map factsOf ↔
      ∀ a ∈ assets, hasTags a.tags = true →
        labelsOf a.tags = a.labels ∧ systemTagsOf a.tags = a.systemTags ∧ Filled a := by
  rw [map_factsOf_dedupe_backfill, List.map_inj_left]
  refine forall₂_congr fun a _ => ?_
  by_cases htags : hasTags a.tags = true
  · rw [if_pos htags, factsOf_enrich_iff]
    exact ⟨fun h _ => h, fun h => h htags⟩
  · simp [htags]

/-- What the backfill has made of a row with tags. -/
lemma mem_dedupe_backfill {now : Time} {assets : List AssetRow} {b : AssetRow}
    (hb : b ∈ dedupe now (backfill assets)) :
    ∃ a ∈ assets, b.id = a.id ∧ b.tags = a.tags ∧ (hasTags a.tags = true →
      b.labels = labelsOf a.tags ∧ b.systemTags = systemTagsOf a.tags) := by
  have hranked : ∃ c ∈ backfill assets, b.id = c.id ∧ b.tags = c.tags ∧ b.labels = c.labels ∧
      b.systemTags = c.systemTags := by
    obtain ⟨c, hc, ⟨-, rfl⟩ | ⟨-, rfl⟩⟩ := mem_updateWhere.mp hb
    · exact ⟨c, hc, rfl, rfl, rfl, rfl⟩
    · exact ⟨b, hc, rfl, rfl, rfl, rfl⟩
  obtain ⟨c, hc, hid, htags, hlabels, hsystem⟩ := hranked
  obtain ⟨a, ha, ⟨-, rfl⟩ | ⟨hnone, rfl⟩⟩ := mem_updateWhere.mp hc
  · exact ⟨a, ha, hid, htags, fun _ => ⟨hlabels, hsystem⟩⟩
  · exact ⟨c, ha, hid, htags, fun hsome => absurd hsome (by simp [hnone])⟩

end OpsPlatform.Migrations
