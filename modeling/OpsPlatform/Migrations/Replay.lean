/-
`cmd/migrate`, which executes every file of `migrations/` at every deployment.

No table says which files have been executed.  The statements that define tables, columns and
indexes do nothing when these are there; the others are executed again, on what the program has made
of the data since.  All of a run is one transaction.
-/
import OpsPlatform.Cmdb.AwsCuration
import OpsPlatform.Cmdb.ProbeSnapshot
import OpsPlatform.Lib.Run
import OpsPlatform.Migrations.AssetEnrichment
import OpsPlatform.Migrations.SessionConnect

namespace OpsPlatform.Migrations

open Lib Lib.Run Lib.Table Cmdb Iam

/-! ### The files that write rows -/

/-- What a run draws and meets. -/
structure MigrateRun where
  now : Time
  newRoleId : String → Uuid
  /-- the unique indexes are there from an earlier run -/
  indexed : Bool
  /-- an error of a statement, or of the commit -/
  error : Option String := none

/-- `INSERT INTO iam_role .. ON CONFLICT DO NOTHING`. -/
def insertRoles (newRoleId : String → Uuid) (names : List String) (db : Db) : Db :=
  { db with
    iamRole := names.foldl
      (fun roles name => upsert (·.name == name) (fun _ => false) id
        { id := newRoleId name, name } roles)
      db.iamRole }

/-- `INSERT INTO iam_role_permission .. ON CONFLICT DO NOTHING`, for the roles of these names. -/
def insertPermissions (names : List String) (permissions : List (String × String)) (db : Db) : Db :=
  let selected : List RolePermissionRow :=
    (db.iamRole.filter fun r => names.contains r.name).flatMap fun r =>
      permissions.map fun p => { roleId := r.id, resource := p.1, action := p.2 }
  { db with
    iamRolePermission := selected.foldl
      (fun rows new => upsert
        (fun rp => rp.roleId == new.roleId && rp.resource == new.resource &&
          rp.action == new.action)
        (fun _ => false) id new rows)
      db.iamRolePermission }

/-- `0002_iam.sql`. -/
def iam (env : MigrateRun) (db : Db) : Db :=
  let db := insertRoles env.newRoleId ["admin", "ops", "viewer"] db
  let db := insertPermissions ["admin"]
    [("cmdb.asset", "read"), ("cmdb.asset", "write"), ("aws.account", "read"),
      ("aws.account", "write"), ("iam.user", "read"), ("iam.user", "write"), ("system", "admin")] db
  let db := insertPermissions ["ops"]
    [("cmdb.asset", "read"), ("cmdb.asset", "write"), ("aws.account", "read"),
      ("aws.account", "write"), ("iam.user", "read")] db
  insertPermissions ["viewer"]
    [("cmdb.asset", "read"), ("aws.account", "read"), ("iam.user", "read")] db

/-- `0007_cmdb_asset_enrichment.sql`. -/
def cmdbAssetEnrichment (env : MigrateRun) (db : Db) : Except String Db :=
  let assets := backfill db.cmdbAsset
  if env.indexed && (sharesKey AssetRow.cloudKey assets || sharesKey AssetRow.vpcProxyKey assets)
  then .error errDuplicateAsset
  else .ok { db with cmdbAsset := assets }

/-- `0017_bastion_grants.sql`. -/
def bastionGrants (db : Db) : Db :=
  let db := insertPermissions ["admin"]
    [("bastion.grant", "read"), ("bastion.grant", "write"), ("bastion.request", "read"),
      ("bastion.request", "write")] db
  let db := insertPermissions ["ops"]
    [("bastion.grant", "read"), ("bastion.grant", "write"), ("bastion.request", "read"),
      ("bastion.request", "write")] db
  insertPermissions ["viewer"]
    [("bastion.grant", "read"), ("bastion.request", "read"), ("bastion.request", "write")] db

/-- `0018_bastion_session_perm.sql`. -/
def bastionSessionPerm (db : Db) : Db :=
  insertPermissions ["admin", "ops"] [("bastion.session", "read")] db

/-- `0020_cmdb_asset_aws_unique.sql`. -/
def cmdbAssetAwsUnique (env : MigrateRun) (db : Db) : Except String Db :=
  createUniqueIndex awsKey { db with cmdbAsset := dedupe env.now db.cmdbAsset }

/-- The files in their order, but for those that define tables, columns and indexes only. -/
def files (fns : JsonbFunctions) (env : MigrateRun) : List (Db → Except String Db) :=
  [fun db => .ok (iam env db),
    cmdbAssetEnrichment env,
    -- `0013_cmdb_vpc_proxy_and_ami.sql`
    createUniqueIndex AssetRow.vpcProxyKey,
    fun db => .ok (bastionGrants db),
    fun db => .ok (bastionSessionPerm db),
    cmdbAssetAwsUnique env,
    -- `0021_cmdb_asset_cloud_unique.sql`
    createUniqueIndex AssetRow.cloudKey,
    fun db => .ok (bastionSessionConnect fns db)]

/-- `main`.  A run that fails leaves nothing behind. -/
def migrate (fns : JsonbFunctions) (env : MigrateRun) (db : Db) : Except String Db := do
  let db ← (files fns env).foldlM (fun db file => file db) db
  match env.error with
  | some e => .error e
  | none => .ok db

/-- What a run leaves. -/
def deploy (fns : JsonbFunctions) (env : MigrateRun) (db : Db) : Db :=
  match migrate fns env db with
  | .ok db' => db'
  | .error _ => db

section

variable {fns : JsonbFunctions} {env : MigrateRun} {db db' : Db}

lemma createUniqueIndex_eq_ok {κ : Type} [DecidableEq κ] {key : AssetRow → Option κ}
    (h : createUniqueIndex key db = .ok db') : db' = db :=
  (Except.ok.inj (Except.ite_error_eq_ok.mp h).2).symm

/-- What a run leaves of the assets. -/
lemma migrate_eq_ok (h : migrate fns env db = .ok db') :
    db'.cmdbAsset = dedupe env.now (backfill db.cmdbAsset) := by
  rw [migrate, Except.bind_eq_ok] at h
  obtain ⟨db₁, hfiles, h⟩ := h
  simp only [files, List.foldlM_cons, List.foldlM_nil, Except.bind_eq_ok] at hfiles
  obtain ⟨db₂, h₂, db₃, h₃, db₄, h₄, db₅, h₅, db₆, h₆, db₇, h₇, db₈, h₈, db₉, h₉, h₁⟩ := hfiles
  have hcommitted : db' = db₁ := by
    split at h
    · cases h
    · exact (Except.ok.inj h).symm
  rw [hcommitted, ← Except.ok.inj h₁, ← Except.ok.inj h₉]
  rw [cmdbAssetEnrichment, Except.ite_error_eq_ok] at h₃
  calc (bastionSessionConnect fns db₈).cmdbAsset
      = db₇.cmdbAsset := by rw [createUniqueIndex_eq_ok h₈]; rfl
    _ = dedupe env.now db₆.cmdbAsset := by rw [createUniqueIndex_eq_ok h₇]
    _ = dedupe env.now db₃.cmdbAsset := by
      rw [← Except.ok.inj h₆, ← Except.ok.inj h₅, createUniqueIndex_eq_ok h₄]
      rfl
    _ = dedupe env.now (backfill db.cmdbAsset) := by
      rw [← Except.ok.inj h₃.2, ← Except.ok.inj h₂]
      rfl

end

/-! ### What the program does between two runs -/

inductive Operation where
  | createAsset (now : Time) (newId : Uuid) (req : CreateAssetRequest)
  | updateAsset (now : Time) (assetID : String) (req : UpdateAssetRequest)
  | deleteAsset (now : Time) (assetID : String)
  | promote (now : Time) (newProxyId : Uuid) (newId : Uuid → Uuid) (assetID : String)
      (opts : PromoteOptions)
  | demote (now : Time) (assetID : String)
  | upsertAsset (now : Time) (newId : Uuid) (item : AssetUpsert)
  | upsertAssetProbeSnapshot (marshalTime : Time → String) (w : SnapshotWrites) (assetID : String)
      (req : UpsertAssetProbeSnapshotRequest)
  /-- any other operation; it writes other tables -/
  | elsewhere (write : Db → Db)

def Operation.attempt (db : Db) : Operation → Except String Db
  | createAsset now newId req => Cmdb.createAsset db now newId req
  | updateAsset now assetID req => Cmdb.updateAsset db now assetID req
  | deleteAsset now assetID => Cmdb.deleteAsset db now assetID
  | promote now newProxyId newId assetID opts => Cmdb.promote db now newProxyId newId assetID opts
  | demote now assetID => Cmdb.demote db now assetID
  | upsertAsset now newId item => Cmdb.upsertAsset db now newId item
  | upsertAssetProbeSnapshot marshalTime w assetID req =>
    (Cmdb.upsertAssetProbeSnapshot db marshalTime w assetID req).map Prod.fst
  | elsewhere write => .ok { write db with cmdbAsset := db.cmdbAsset }

/-- An operation that fails does nothing. -/
def Operation.apply (db : Db) (op : Operation) : Db :=
  match op.attempt db with
  | .ok db' => db'
  | .error _ => db

/-- The row keeps its id and its tags. -/
structure SameTags (a a' : AssetRow) : Prop where
  id : a'.id = a.id
  tags : a'.tags = a.tags

lemma SameTags.refl (a : AssetRow) : SameTags a a := ⟨rfl, rfl⟩

/-- No operation writes `tags`: rows keep theirs, and a new row has none. -/
abbrev KeepsTags (db db' : Db) : Prop :=
  Revised SameTags (fun _ new => hasTags new.tags = false) db.cmdbAsset db'.cmdbAsset

section

variable {db db' : Db} {now : Time}

lemma keepsTags_updateWhere {p : AssetRow → Bool} {f : AssetRow → AssetRow}
    (h : db'.cmdbAsset = updateWhere p f db.cmdbAsset) (hf : ∀ a, SameTags a (f a)) :
    KeepsTags db db' := by
  rw [KeepsTags, h]
  exact Revised.updateWhere SameTags.refl (fun a _ => hf a) _

lemma keepsTags_of_eq (h : db'.cmdbAsset = db.cmdbAsset) : KeepsTags db db' := by
  rw [KeepsTags, h]
  exact Revised.refl SameTags.refl _

lemma keepsTags_append {new : AssetRow} (hnew : hasTags new.tags = false)
    (h : db'.cmdbAsset = db.cmdbAsset ++ [new]) : KeepsTags db db' := by
  rw [KeepsTags, h]
  exact Revised.append SameTags.refl hnew

lemma keepsTags_setVpcProxy (now : Time) (id : Uuid) (isVpcProxy : Bool)
    (h : db'.cmdbAsset = setVpcProxy now id isVpcProxy db.cmdbAsset) : KeepsTags db db' :=
  keepsTags_updateWhere h fun _ => ⟨rfl, rfl⟩

lemma keepsTags_promote {newProxyId : Uuid} {newId : Uuid → Uuid} {assetID : String}
    {opts : PromoteOptions} (h : Cmdb.promote db now newProxyId newId assetID opts = .ok db') :
    KeepsTags db db' := by
  obtain ⟨a, -, -, username, authType, db₁, p, hupsert, rfl⟩ := promote_eq_ok h
  refine keepsTags_setVpcProxy now a.id true ?_
  dsimp only
  rw [upsertProxyForAsset_frame hupsert]

lemma keepsTags_demote {assetID : String} (h : Cmdb.demote db now assetID = .ok db') :
    KeepsTags db db' := by
  obtain ⟨a, -, ⟨-, rfl⟩ | ⟨-, rfl⟩⟩ := demote_eq_ok h
  · exact keepsTags_setVpcProxy now a.id false rfl
  · exact keepsTags_of_eq rfl

lemma keepsTags_upsertAsset {newId : Uuid} {item : AssetUpsert}
    (h : Cmdb.upsertAsset db now newId item = .ok db') : KeepsTags db db' := by
  obtain ⟨-, hstore⟩ := upsertAsset_eq_ok h
  have hnew : hasTags (observedAsset now newId item.withDefaults).tags = false := rfl
  generalize observedAsset now newId item.withDefaults = new at hstore hnew
  rcases storeObserved_eq_ok hstore with ⟨-, rfl⟩ | ⟨-, rfl⟩
  · exact keepsTags_append hnew rfl
  · exact keepsTags_updateWhere rfl fun _ => ⟨rfl, rfl⟩

lemma Operation.keepsTags {op : Operation} (h : op.attempt db = .ok db') : KeepsTags db db' := by
  cases op with
  | createAsset now newId req =>
    obtain ⟨-, rfl⟩ := createAsset_eq_ok h
    exact keepsTags_append rfl rfl
  | updateAsset now assetID req =>
    obtain ⟨current, -, rfl⟩ := updateAsset_eq_ok h
    exact keepsTags_updateWhere rfl fun _ => ⟨rfl, rfl⟩
  | deleteAsset now assetID =>
    obtain ⟨id, -, rfl⟩ := deleteAsset_eq_ok h
    exact keepsTags_updateWhere rfl fun _ => ⟨rfl, rfl⟩
  | promote now newProxyId newId assetID opts => exact keepsTags_promote h
  | demote now assetID => exact keepsTags_demote h
  | upsertAsset now newId item => exact keepsTags_upsertAsset h
  | upsertAssetProbeSnapshot marshalTime w assetID req =>
    obtain ⟨snapshot, hsnapshot⟩ := Except.map_fst_eq_ok h
    obtain ⟨id, -, -, -, rfl⟩ := upsertAssetProbeSnapshot_eq_ok hsnapshot
    by_cases hsummarized : w.summarized = true
    · exact keepsTags_updateWhere (if_pos hsummarized) fun _ => ⟨rfl, rfl⟩
    · exact keepsTags_of_eq (if_neg hsummarized)
  | elsewhere write =>
    obtain rfl := Except.ok.inj h
    exact keepsTags_of_eq rfl

lemma keepsTags_apply (db : Db) (op : Operation) : KeepsTags db (op.apply db) := by
  rw [Operation.apply]
  split
  · next hok => exact op.keepsTags hok
  · exact keepsTags_of_eq rfl

/-- A row with tags has been there from the start, with the same ones. -/
lemma exists_of_hasTags (db : Db) (ops : List Operation) {a : AssetRow}
    (ha : a ∈ (run Operation.apply db ops).cmdbAsset) (htags : hasTags a.tags = true) :
    ∃ b ∈ db.cmdbAsset, b.id = a.id ∧ b.tags = a.tags := by
  have hrun : ∀ a ∈ (run Operation.apply db ops).cmdbAsset, hasTags a.tags = true →
      ∃ b ∈ db.cmdbAsset, b.id = a.id ∧ b.tags = a.tags := by
    refine invariant (I := fun db' : Db => ∀ a ∈ db'.cmdbAsset, hasTags a.tags = true →
      ∃ b ∈ db.cmdbAsset, b.id = a.id ∧ b.tags = a.tags) (fun db' op ih a' ha' htags => ?_)
      (fun a ha _ => ⟨a, ha, rfl, rfl⟩) ops
    rcases (keepsTags_apply db' op).mem_cases ha' with ⟨a, ha, hsame⟩ | hnone
    · rw [hsame.tags] at htags ⊢
      rw [hsame.id]
      exact ih a ha htags
    · exact absurd htags (by simp [hnone])
  exact hrun a ha htags

end

/-! ### The next run -/

/-- The row has the labels and the system tags that the run before has left, and no column is blank
for which there is a tag. -/
structure LeftAsBackfilled (db : Db) (a : AssetRow) : Prop where
  same : ∃ b ∈ db.cmdbAsset, b.id = a.id ∧ a.labels = b.labels ∧ a.systemTags = b.systemTags
  filled : Filled a

/-- **What a run of the migrations keeps.**  After a run and whatever the program has done since,
the next run leaves the labels, the system tags and the promoted columns of every asset as they are
if and only if every asset with tags of the time before migration 0007 has the labels and the system
tags that the first run has left, and no blank column for which there is a tag. -/
theorem replay_keeps_assets_iff {fns : JsonbFunctions} {first again : MigrateRun} {db₀ db₁ db₂ : Db}
    (hkeys : (db₀.cmdbAsset.map (·.id)).Nodup) (hfirst : migrate fns first db₀ = .ok db₁)
    (ops : List Operation) (hagain : migrate fns again (run Operation.apply db₁ ops) = .ok db₂) :
    db₂.cmdbAsset.map factsOf = (run Operation.apply db₁ ops).cmdbAsset.map factsOf ↔
      ∀ a ∈ (run Operation.apply db₁ ops).cmdbAsset, hasTags a.tags = true →
        LeftAsBackfilled db₁ a := by
  rw [migrate_eq_ok hagain, map_factsOf_eq_iff]
  have hunique : (db₁.cmdbAsset.map (·.id)).Nodup := by
    rwa [migrate_eq_ok hfirst, map_id_dedupe_backfill]
  have hbackfilled : ∀ b ∈ db₁.cmdbAsset, hasTags b.tags = true →
      b.labels = labelsOf b.tags ∧ b.systemTags = systemTagsOf b.tags := by
    intro b hb htags
    obtain ⟨c, -, -, hsame, hleft⟩ := mem_dedupe_backfill (migrate_eq_ok hfirst ▸ hb)
    rw [hsame] at htags ⊢
    exact hleft htags
  -- row by row: an asset with tags was there after the first run, with the same tags
  refine forall₂_congr fun a ha => forall_congr' fun htags => ?_
  obtain ⟨b, hb, hid, hsame⟩ := exists_of_hasTags db₁ ops ha htags
  obtain ⟨hlabels, hsystem⟩ := hbackfilled b hb (hsame ▸ htags)
  rw [hsame] at hlabels hsystem
  constructor
  · rintro ⟨hkept, hkeptSystem, hfilled⟩
    refine ⟨⟨b, hb, hid, ?_, ?_⟩, hfilled⟩
    · rw [← hkept, hlabels]
    · rw [← hkeptSystem, hsystem]
  · rintro ⟨⟨b', hb', hid', hkept, hkeptSystem⟩, hfilled⟩
    obtain rfl : b' = b := List.inj_on_of_nodup_map hunique hb' hb (hid'.trans hid.symm)
    refine ⟨?_, ?_, hfilled⟩
    · rw [hkept, hlabels]
    · rw [hkeptSystem, hsystem]

/-- An asset of the time before migration 0007. -/
def taggedAsset : Db where
  cmdbAsset := [{ id := Uuid.replicate 1, type := "server", name := "db-1"
                  tags := .obj [("team", .str "core"), ("aws_region", .str "eu-west-1")] }]

/-- The asset after the first run. -/
def enrichedAsset : AssetRow where
  id := Uuid.replicate 1
  type := "server"
  name := "db-1"
  region := "eu-west-1"
  tags := .obj [("team", .str "core"), ("aws_region", .str "eu-west-1")]
  systemTags := .obj [("aws_region", .str "eu-west-1")]
  labels := .obj [("team", .str "core")]

/-- The server takes the first of some values for the least. -/
def firstValue : JsonbFunctions where
  text := Json.text
  min := List.head?
  min_mem values hne := ⟨values.head hne, List.head_mem hne, List.head?_eq_some_head hne⟩

/-- The first run, and a later one. -/
def runOf (indexed : Bool) : MigrateRun :=
  { now := 5, newRoleId := fun _ => Uuid.replicate 9, indexed }

/-- A first run, and an edit of the asset. -/
def editedDb (req : UpdateAssetRequest) : Db :=
  run Operation.apply (deploy firstValue (runOf false) taggedAsset)
    [.updateAsset 6 (Uuid.replicate 1).toText req]

/-- A user gives the asset other labels, and the next run takes them back. -/
theorem replay_takes_labels_back :
    (editedDb { labels := some [("team", .str "edge")] }).cmdbAsset.map (·.labels) =
        [.obj [("team", .str "edge")]] ∧
      (deploy firstValue (runOf true)
          (editedDb { labels := some [("team", .str "edge")] })).cmdbAsset.map (·.labels) =
        [.obj [("team", .str "core")]] :=
  ⟨by rfl, by rfl⟩

/-- An edit of another column stays, and so do the labels. -/
theorem replay_keeps_assets_iff_owner :
    (deploy firstValue (runOf true) (editedDb { owner := some "bob" })).cmdbAsset.map factsOf =
      (editedDb { owner := some "bob" }).cmdbAsset.map factsOf := by
  have hfirst : migrate firstValue (runOf false) taggedAsset =
      .ok (deploy firstValue (runOf false) taggedAsset) := by rfl
  have hagain : migrate firstValue (runOf true) (editedDb { owner := some "bob" }) =
      .ok (deploy firstValue (runOf true) (editedDb { owner := some "bob" })) := by rfl
  refine (replay_keeps_assets_iff (by decide) hfirst _ hagain).mpr fun a ha _ => ?_
  have hbefore : (deploy firstValue (runOf false) taggedAsset).cmdbAsset = [enrichedAsset] := by rfl
  have hafter : (editedDb { owner := some "bob" }).cmdbAsset =
      [{ enrichedAsset with owner := "bob", updatedAt := 6 }] := by rfl
  obtain rfl := List.mem_singleton.mp (hafter ▸ ha)
  have hmem : enrichedAsset ∈ (deploy firstValue (runOf false) taggedAsset).cmdbAsset := by
    rw [hbefore]
    exact List.mem_singleton_self _
  exact ⟨⟨enrichedAsset, hmem, rfl, rfl, rfl⟩, by decide⟩

end OpsPlatform.Migrations
