/-
`LinkAWSRelations` (`internal/cmdb/aws_writer.go`): when a run leaves the relations that the assets
call for.

The function says that it rebuilds the `in_vpc` and `in_subnet` edges, but it only inserts.  An edge
of an earlier state stays when the asset has moved or is deleted, and an edge that is there under
another source keeps that source.  The cache is keyed by the account, the region, the type and the
external id, joined by bars; requests whose joined texts are the same share one answer.

A run is a loop of upserts under the keys of the edges that the requests ask for
(`relations_linkAWSRelations`), and the rest is about such loops.
-/
import OpsPlatform.Cmdb.AwsWriter
import OpsPlatform.Lib.Upserts

namespace OpsPlatform.Cmdb

open Lib Lib.Assoc Lib.Table Lib.Text SshProxy

/-! ### The property -/

/-- The key of `idx_cmdb_relation_unique`: the two assets and the type of the relation. -/
abbrev EdgeKey := Uuid × Uuid × String

def RelationRow.edgeKey (r : RelationRow) : EdgeKey := (r.fromAssetId, r.toAssetId, r.relationType)

/-- The asset names `t` as its VPC, or as its subnet. -/
def AssetRow.LinksTo (a t : AssetRow) (relationType : String) : Prop :=
  (relationType = "in_vpc" ∧ t.type = "aws_vpc" ∧ t.externalId = some a.vpcId) ∨
    (relationType = "in_subnet" ∧ t.type = "aws_subnet" ∧ t.externalId = some a.subnetId)

/-- The live AWS assets call for the edge. -/
def Edge (db : Db) (k : EdgeKey) : Prop :=
  ∃ a ∈ db.cmdbAsset, ∃ t ∈ db.cmdbAsset, a.source = sourceID ∧ a.live = true ∧
    t.source = sourceID ∧ t.live = true ∧ t.accountId = a.accountId ∧ t.region = a.region ∧
    a.LinksTo t k.2.2 ∧ k.1 = a.id ∧ k.2.1 = t.id ∧ k.1 ≠ k.2.1

/-- The types of the relations that are rebuilt. -/
def linkTypes : List String := ["in_vpc", "in_subnet"]

/-- There is a relation of AWS for the edge. -/
def Held (db : Db) (k : EdgeKey) : Prop :=
  ∃ r ∈ db.cmdbAssetRelation, r.edgeKey = k ∧ r.source = sourceID

def RelationRow.withoutTimestamp (r : RelationRow) : RelationRow := { r with updatedAt := 0 }

/-- The run leaves exactly the edges under AWS and does not touch other relations, and another run
changes timestamps only. -/
structure Rebuilds (db : Db) (now : Time) (newId : Uuid → Uuid → String → Uuid) : Prop where
  exact : ∀ k : EdgeKey, k.2.2 ∈ linkTypes →
    (Held (linkAWSRelations db now newId []) k ↔ Edge db k)
  others : ∀ r : RelationRow, r.source ≠ sourceID →
    (r ∈ (linkAWSRelations db now newId []).cmdbAssetRelation ↔ r ∈ db.cmdbAssetRelation)
  again : ∀ (now' : Time) (newId' : Uuid → Uuid → String → Uuid),
    ∃ relations, linkAWSRelations (linkAWSRelations db now newId []) now' newId' [] =
        { db with cmdbAssetRelation := relations } ∧
      relations.map RelationRow.withoutTimestamp =
        (linkAWSRelations db now newId []).cmdbAssetRelation.map RelationRow.withoutTimestamp

/-! ### The condition -/

/-- A call of `resolveID`, for one column of an asset. -/
structure LinkRequest where
  asset : AssetRow
  externalID : String
  assetType : String
  relationType : String

namespace LinkRequest

/-- What the cache knows the request by. -/
def key (q : LinkRequest) : String :=
  lookupKey q.externalID q.assetType q.asset.accountId q.asset.region

/-- The asset is what the request asks for. -/
def Names (q : LinkRequest) (t : AssetRow) : Prop :=
  t.source = sourceID ∧ t.live = true ∧ t.type = q.assetType ∧
    t.accountId = q.asset.accountId ∧ t.region = q.asset.region ∧ t.externalId = some q.externalID

end LinkRequest

def AssetRow.vpcRequest (a : AssetRow) : LinkRequest := ⟨a, a.vpcId, "aws_vpc", "in_vpc"⟩

def AssetRow.subnetRequest (a : AssetRow) : LinkRequest :=
  ⟨a, a.subnetId, "aws_subnet", "in_subnet"⟩

def AssetRow.linkRequests (a : AssetRow) : List LinkRequest :=
  [a.vpcRequest, a.subnetRequest].filter fun q => q.externalID != ""

/-- The requests of a run, in their order. -/
def linkRequests (db : Db) : List LinkRequest := (pendingAssets db).flatMap AssetRow.linkRequests

/-- The edge from the asset of a request to what the first request with its key asks for. -/
def Linked (db : Db) (k : EdgeKey) : Prop :=
  ∃ q ∈ linkRequests db, ∃ p, firstWithKey LinkRequest.key (linkRequests db) q = some p ∧
    ∃ t ∈ db.cmdbAsset, p.Names t ∧ k = (q.asset.id, t.id, q.relationType) ∧ k.1 ≠ k.2.1

/-- The relations from before are in step with the assets, and the requests that share a key in the
cache ask for the same. -/
structure LinksInStep (db : Db) (now : Time) : Prop where
  /-- No relation is left from an earlier state of the assets. -/
  current : ∀ r ∈ db.cmdbAssetRelation, r.source = sourceID → r.relationType ∈ linkTypes →
    Edge db r.edgeKey
  /-- No edge is there under another source. -/
  unclaimed : ∀ r ∈ db.cmdbAssetRelation, r.source ≠ sourceID → ¬ Edge db r.edgeKey
  /-- What is linked is an edge, or a relation of another source that is as of `now` already. -/
  sound : ∀ k, Linked db k →
    Edge db k ∨ ∃ r ∈ db.cmdbAssetRelation, r.edgeKey = k ∧ r.source ≠ sourceID ∧ r.updatedAt = now
  /-- An edge is linked, unless it is there. -/
  complete : ∀ k, Edge db k → Linked db k ∨ Held db k

/-- The unique indexes `idx_cmdb_asset_cloud_unique` and `idx_cmdb_relation_unique`. -/
structure LinksIndexed (db : Db) : Prop where
  assets : ∀ a ∈ db.cmdbAsset, ∀ b ∈ db.cmdbAsset, a.cloudKey.isSome = true →
    a.cloudKey = b.cloudKey → a = b
  relations : ∀ r ∈ db.cmdbAssetRelation, ∀ r' ∈ db.cmdbAssetRelation, r.edgeKey = r'.edgeKey →
    r = r'

/-! ### A run as a loop of upserts -/

def RelationRow.touch (now : Time) (r : RelationRow) : RelationRow := { r with updatedAt := now }

/-- The relation that is inserted. -/
def newLink (now : Time) (newId : Uuid → Uuid → String → Uuid) (k : EdgeKey) : RelationRow :=
  { id := newId k.1 k.2.1 k.2.2, fromAssetId := k.1, toAssetId := k.2.1, relationType := k.2.2
    source := sourceID, createdAt := now, updatedAt := now }

namespace LinkRequest

def select (db : Db) (q : LinkRequest) : Option Uuid :=
  selectID db q.externalID q.assetType q.asset.accountId q.asset.region

/-- The `WHERE` clause of the query. -/
def hits (q : LinkRequest) (a : AssetRow) : Bool :=
  a.source == sourceID && a.externalId == some q.externalID && a.type == q.assetType &&
    a.accountId == q.asset.accountId && a.region == q.asset.region && a.live

lemma hits_iff {q : LinkRequest} {t : AssetRow} : q.hits t = true ↔ q.Names t := by
  simp only [hits, Bool.and_eq_true, beq_iff_eq, Names]
  tauto

/-- The edge to the target, unless that is the asset itself. -/
def edgesTo (q : LinkRequest) : Option Uuid → List EdgeKey
  | none => []
  | some t => if t = q.asset.id then [] else [(q.asset.id, t, q.relationType)]

/-- What a request with a type asks `resolveID` for. -/
def WellFormed (q : LinkRequest) : Prop := q.externalID ≠ "" ∧ q.assetType ≠ ""

end LinkRequest

/-- The keys of the upserts of a run. -/
def linkKeys (db : Db) (requests : List LinkRequest) : List EdgeKey :=
  requests.flatMap fun q =>
    q.edgesTo ((firstWithKey LinkRequest.key (linkRequests db) q).bind (·.select db))

section

variable {db : Db} {now : Time} {newId : Uuid → Uuid → String → Uuid}

lemma mem_linkRequests {q : LinkRequest} : q ∈ linkRequests db ↔
    ∃ a ∈ db.cmdbAsset, a.source = sourceID ∧ a.live = true ∧
      (q = a.vpcRequest ∨ q = a.subnetRequest) ∧ q.externalID ≠ "" := by
  simp only [linkRequests, pendingAssets, AssetRow.linkRequests, List.mem_flatMap, List.mem_filter,
    List.mem_cons, List.not_mem_nil, or_false, Bool.and_eq_true, Bool.or_eq_true, beq_iff_eq,
    bne_iff_ne]
  constructor
  · rintro ⟨a, ⟨ha, ⟨hsource, hlive⟩, -⟩, hq, hext⟩
    exact ⟨a, ha, hsource, hlive, hq, hext⟩
  · rintro ⟨a, ha, hsource, hlive, hq, hext⟩
    refine ⟨a, ⟨ha, ⟨hsource, hlive⟩, ?_⟩, hq, hext⟩
    rcases hq with rfl | rfl
    · exact Or.inl hext
    · exact Or.inr hext

lemma wellFormed_of_mem {q : LinkRequest} (h : q ∈ linkRequests db) : q.WellFormed := by
  obtain ⟨a, -, -, -, hq, hext⟩ := mem_linkRequests.mp h
  refine ⟨hext, ?_⟩
  rcases hq with rfl | rfl
  · exact show "aws_vpc" ≠ "" by decide
  · exact show "aws_subnet" ≠ "" by decide

/-- The cache of `resolveID` is a cache of the query. -/
lemma resolveID_eq_cached {q : LinkRequest} (h : q.WellFormed) (lookup : Lookup) :
    resolveID db lookup q.externalID q.assetType q.asset.accountId q.asset.region =
      cached LinkRequest.key (·.select db) lookup q := by
  rw [resolveID, if_neg (not_or.mpr h), cached, LinkRequest.key]
  dsimp only
  cases lookup.lookup (lookupKey q.externalID q.assetType q.asset.accountId q.asset.region) <;> rfl

lemma linkAsset_eq_upsertAll (q : LinkRequest) (relations : List RelationRow)
    (target : Option Uuid) : linkAsset now newId q.asset.id q.relationType relations target =
      upsertAll RelationRow.edgeKey (RelationRow.touch now) (newLink now newId) relations
        (q.edgesTo target) := by
  cases target with
  | none => rfl
  | some t =>
    rw [linkAsset, LinkRequest.edgesTo]
    split
    · rfl
    · have hconflict : (fun r : RelationRow => r.fromAssetId == q.asset.id && r.toAssetId == t &&
          r.relationType == q.relationType) =
          fun r => decide (r.edgeKey = (q.asset.id, t, q.relationType)) := by
        funext r
        rw [Bool.eq_iff_iff]
        simp [RelationRow.edgeKey, and_assoc]
      rw [hconflict]
      rfl

/-- The state after the requests `before`. -/
def linkState (db : Db) (now : Time) (newId : Uuid → Uuid → String → Uuid)
    (state : Lookup × List RelationRow) (requests : List LinkRequest) :
    Lookup × List RelationRow :=
  requests.foldl (fun state q =>
    linkColumn db now newId [] q.asset q.externalID q.assetType q.relationType state) state

lemma linkColumn_eq {q : LinkRequest} (hq : q.WellFormed) (state : Lookup × List RelationRow) :
    linkColumn db now newId [] q.asset q.externalID q.assetType q.relationType state =
      ((cached LinkRequest.key (·.select db) state.1 q).2,
        upsertAll RelationRow.edgeKey (RelationRow.touch now) (newLink now newId) state.2
          (q.edgesTo (cached LinkRequest.key (·.select db) state.1 q).1)) := by
  rw [linkColumn, if_neg hq.1, resolveID_eq_cached hq, ← linkAsset_eq_upsertAll]
  simp

/-- The relations after the remaining requests, when the cache remembers those before. -/
lemma linkState_snd {before after : List LinkRequest} (hall : linkRequests db = before ++ after)
    {state : Lookup × List RelationRow}
    (hlookup : Remembers LinkRequest.key (·.select db) before state.1) :
    (linkState db now newId state after).2 =
      upsertAll RelationRow.edgeKey (RelationRow.touch now) (newLink now newId) state.2
        (linkKeys db after) := by
  induction after generalizing before state with
  | nil => rfl
  | cons q after ih =>
    have hq : q.WellFormed := wellFormed_of_mem (by rw [hall]; simp)
    have hanswer : (cached LinkRequest.key (·.select db) state.1 q).1 =
        (firstWithKey LinkRequest.key (linkRequests db) q).bind (·.select db) := by
      rw [hall, firstWithKey_self, Option.bind_some, cached_answer hlookup]
    have hsplit : linkRequests db = (before ++ [q]) ++ after := by rw [hall]; simp
    rw [linkKeys, List.flatMap_cons, upsertAll_append, ← hanswer, linkState, List.foldl_cons,
      linkColumn_eq hq]
    refine ih hsplit ?_
    exact remembers_cached hlookup q

/-- The loop over the assets is a loop over their requests. -/
lemma foldl_assets (assets : List AssetRow) (state : Lookup × List RelationRow) :
    assets.foldl (fun state a =>
      linkColumn db now newId [] a a.subnetId "aws_subnet" "in_subnet"
        (linkColumn db now newId [] a a.vpcId "aws_vpc" "in_vpc" state)) state =
      linkState db now newId state (assets.flatMap AssetRow.linkRequests) := by
  have hblank : ∀ (a : AssetRow) (assetType relationType : String)
      (state : Lookup × List RelationRow),
      linkColumn db now newId [] a "" assetType relationType state = state :=
    fun _ _ _ _ => if_pos rfl
  induction assets generalizing state with
  | nil => rfl
  | cons a assets ih =>
    rw [List.foldl_cons, ih, List.flatMap_cons, linkState, linkState, List.foldl_append,
      AssetRow.linkRequests, AssetRow.vpcRequest, AssetRow.subnetRequest]
    congr 1
    by_cases hvpc : a.vpcId = ""
    · by_cases hsubnet : a.subnetId = ""
      · simp [hvpc, hsubnet, hblank]
      · simp [hvpc, hsubnet, hblank]
    · by_cases hsubnet : a.subnetId = ""
      · simp [hvpc, hsubnet, hblank]
      · simp [hvpc, hsubnet]

/-- A run is a loop of upserts. -/
lemma relations_linkAWSRelations (db : Db) (now : Time) (newId : Uuid → Uuid → String → Uuid) :
    linkAWSRelations db now newId [] =
      { db with
        cmdbAssetRelation := upsertAll RelationRow.edgeKey (RelationRow.touch now)
          (newLink now newId) db.cmdbAssetRelation (linkKeys db (linkRequests db)) } := by
  rw [linkAWSRelations, foldl_assets]
  congr 1
  exact linkState_snd (List.nil_append _).symm remembers_nil

/-! ### The keys of the loop -/

/-- The query finds the one asset that the request names. -/
lemma select_eq_some_iff (hindexed : LinksIndexed db) {q : LinkRequest} (hq : q.WellFormed)
    {id : Uuid} : q.select db = some id ↔ ∃ t ∈ db.cmdbAsset, q.Names t ∧ t.id = id := by
  have hkey : ∀ t : AssetRow, q.Names t → t.cloudKey =
      some [sourceID, q.asset.accountId, q.asset.region, q.assetType, q.externalID] := by
    rintro t ⟨hsource, hlive, htype, haccount, hregion, hext⟩
    rw [AssetRow.cloudKey, hext]
    dsimp only
    rw [if_pos ⟨by rw [hsource]; decide, hlive, hq.1⟩, hsource, haccount, hregion, htype]
  have hselect : q.select db = (db.cmdbAsset.find? q.hits).map (·.id) := rfl
  rw [hselect, Option.map_eq_some_iff]
  constructor
  · rintro ⟨t, hfind, rfl⟩
    have hhit : q.hits t = true := List.find?_some hfind
    exact ⟨t, List.mem_of_find?_eq_some hfind, LinkRequest.hits_iff.mp hhit, rfl⟩
  · rintro ⟨t, ht, hnames, rfl⟩
    obtain ⟨t', hfind⟩ := Option.isSome_iff_exists.mp
      (List.find?_isSome.mpr ⟨t, ht, LinkRequest.hits_iff.mpr hnames⟩)
    have hnames' : q.Names t' := LinkRequest.hits_iff.mp (List.find?_some hfind)
    have hsame : t' = t := hindexed.assets t' (List.mem_of_find?_eq_some hfind) t ht
      (by rw [hkey t' hnames']; rfl) (by rw [hkey t' hnames', hkey t hnames])
    exact ⟨t', hfind, by rw [hsame]⟩

lemma mem_edgesTo {q : LinkRequest} {target : Option Uuid} {k : EdgeKey} :
    k ∈ q.edgesTo target ↔
      ∃ t, target = some t ∧ k = (q.asset.id, t, q.relationType) ∧ k.1 ≠ k.2.1 := by
  cases target with
  | none => simp [LinkRequest.edgesTo]
  | some t =>
    rw [LinkRequest.edgesTo]
    by_cases ht : t = q.asset.id
    · subst ht
      rw [if_pos rfl]
      constructor
      · intro h
        cases h
      · rintro ⟨t, ht, rfl, hne⟩
        exact absurd (Option.some.inj ht) hne
    · rw [if_neg ht, List.mem_singleton]
      constructor
      · rintro rfl
        exact ⟨t, rfl, rfl, Ne.symm ht⟩
      · rintro ⟨t', ht', rfl, -⟩
        rw [Option.some.inj ht']

lemma mem_linkKeys (hindexed : LinksIndexed db) {k : EdgeKey} :
    k ∈ linkKeys db (linkRequests db) ↔ Linked db k := by
  rw [linkKeys, List.mem_flatMap, Linked]
  refine exists_congr fun q => and_congr_right fun hq => ?_
  rw [mem_edgesTo]
  constructor
  · rintro ⟨id, hid, hk, hne⟩
    obtain ⟨p, hfirst, hselect⟩ := Option.bind_eq_some_iff.mp hid
    have hp : p ∈ linkRequests db := (of_firstWithKey hfirst).1
    obtain ⟨t, ht, hnames, rfl⟩ :=
      (select_eq_some_iff hindexed (wellFormed_of_mem hp)).mp hselect
    exact ⟨p, hfirst, t, ht, hnames, hk, hne⟩
  · rintro ⟨p, hfirst, t, ht, hnames, hk, hne⟩
    have hp : p ∈ linkRequests db := (of_firstWithKey hfirst).1
    have hselect : p.select db = some t.id :=
      (select_eq_some_iff hindexed (wellFormed_of_mem hp)).mpr ⟨t, ht, hnames, rfl⟩
    exact ⟨t.id, Option.bind_eq_some_iff.mpr ⟨p, hfirst, hselect⟩, hk, hne⟩

lemma linkType_of_edge {k : EdgeKey} (h : Edge db k) : k.2.2 ∈ linkTypes := by
  obtain ⟨-, -, -, -, -, -, -, -, -, -, ⟨hvpc, -⟩ | ⟨hsubnet, -⟩, -⟩ := h
  · rw [hvpc]
    exact List.mem_cons_self
  · rw [hsubnet]
    exact List.mem_cons_of_mem _ List.mem_cons_self

lemma linkType_of_linked {k : EdgeKey} (h : Linked db k) : k.2.2 ∈ linkTypes := by
  obtain ⟨q, hq, -, -, -, -, -, rfl, -⟩ := h
  obtain ⟨a, -, -, -, hq, -⟩ := mem_linkRequests.mp hq
  rcases hq with rfl | rfl
  · exact List.mem_cons_self
  · exact List.mem_cons_of_mem _ List.mem_cons_self

/-! ### The relations after a run -/

lemma upsertsByKey_newLink (now : Time) (newId : Uuid → Uuid → String → Uuid) :
    UpsertsByKey RelationRow.edgeKey (RelationRow.touch now) (newLink now newId) :=
  ⟨fun _ => rfl, fun _ => rfl, fun _ => rfl, fun _ => rfl⟩

lemma mem_relations (hindexed : LinksIndexed db) {r : RelationRow} :
    r ∈ (linkAWSRelations db now newId []).cmdbAssetRelation ↔
      (∃ r₀ ∈ db.cmdbAssetRelation, Linked db r₀.edgeKey ∧ r = r₀.touch now) ∨
        (r ∈ db.cmdbAssetRelation ∧ ¬ Linked db r.edgeKey) ∨
        ∃ k, Linked db k ∧ (∀ r₀ ∈ db.cmdbAssetRelation, r₀.edgeKey ≠ k) ∧
          r = newLink now newId k := by
  rw [relations_linkAWSRelations]
  show r ∈ upsertAll _ _ _ _ _ ↔ _
  rw [mem_upsertAll (upsertsByKey_newLink now newId)]
  simp only [mem_linkKeys hindexed]

/-- What AWS holds afterwards: what it held, and what is linked and was not there. -/
lemma held_linkAWSRelations (hindexed : LinksIndexed db) {k : EdgeKey} :
    Held (linkAWSRelations db now newId []) k ↔
      Held db k ∨ (Linked db k ∧ ∀ r₀ ∈ db.cmdbAssetRelation, r₀.edgeKey ≠ k) := by
  rw [Held]
  simp only [mem_relations hindexed]
  constructor
  · rintro ⟨r, ⟨r₀, hr₀, -, rfl⟩ | ⟨hr, -⟩ | ⟨k', hlinked, hfresh, rfl⟩, rfl, hsource⟩
    · exact Or.inl ⟨r₀, hr₀, rfl, hsource⟩
    · exact Or.inl ⟨r, hr, rfl, hsource⟩
    · exact Or.inr ⟨hlinked, hfresh⟩
  · rintro (⟨r, hr, rfl, hsource⟩ | ⟨hlinked, hfresh⟩)
    · by_cases hlinked : Linked db r.edgeKey
      · exact ⟨r.touch now, Or.inl ⟨r, hr, hlinked, rfl⟩, rfl, hsource⟩
      · exact ⟨r, Or.inr (Or.inl ⟨hr, hlinked⟩), rfl, hsource⟩
    · exact ⟨newLink now newId k, Or.inr (Or.inr ⟨k, hlinked, hfresh, rfl⟩), rfl, rfl⟩

/-- A relation of another source stays as it is exactly when nothing is linked under its key, or
it bears the time of the run. -/
lemma kept_linkAWSRelations (hindexed : LinksIndexed db) {r : RelationRow}
    (hr : r ∈ db.cmdbAssetRelation) :
    r ∈ (linkAWSRelations db now newId []).cmdbAssetRelation ↔
      ¬ Linked db r.edgeKey ∨ r.updatedAt = now := by
  rw [mem_relations hindexed]
  constructor
  · rintro (⟨r₀, hr₀, -, hr₀'⟩ | ⟨-, hmiss⟩ | ⟨k, -, hfresh, hnew⟩)
    · exact Or.inr (by rw [hr₀']; rfl)
    · exact Or.inl hmiss
    · refine absurd ?_ (hfresh r hr)
      rw [hnew]
      rfl
  · intro h
    by_cases hlinked : Linked db r.edgeKey
    · have hnow : r.updatedAt = now := h.resolve_left (not_not.mpr hlinked)
      refine Or.inl ⟨r, hr, hlinked, ?_⟩
      rw [RelationRow.touch, ← hnow]
    · exact Or.inr (Or.inl ⟨hr, hlinked⟩)

/-- A second run finds every key. -/
lemma again_linkAWSRelations (db : Db) (now now' : Time)
    (newId newId' : Uuid → Uuid → String → Uuid) :
    ∃ relations, linkAWSRelations (linkAWSRelations db now newId []) now' newId' [] =
        { db with cmdbAssetRelation := relations } ∧
      relations.map RelationRow.withoutTimestamp =
        (linkAWSRelations db now newId []).cmdbAssetRelation.map RelationRow.withoutTimestamp := by
  rw [relations_linkAWSRelations _ now' newId', relations_linkAWSRelations db now newId]
  refine ⟨_, rfl, map_upsertAll_of_held (upsertsByKey_newLink _ _) (fun _ => rfl) ?_⟩
  intro k hk
  exact exists_mem_upsertAll (upsertsByKey_newLink now newId) hk

/-! ### Plain keys -/

/-- Accounts and regions have no bar in them, and an external id is a text or missing. -/
structure PlainAsset (a : AssetRow) : Prop where
  accountId : '|' ∉ a.accountId.toList
  region : '|' ∉ a.region.toList
  externalId : a.externalId ≠ some ""

lemma lookupKey_inj {externalID assetType accountID region externalID' assetType' accountID'
    region' : String} (haccount : '|' ∉ accountID.toList) (haccount' : '|' ∉ accountID'.toList)
    (hregion : '|' ∉ region.toList) (hregion' : '|' ∉ region'.toList)
    (htype : '|' ∉ assetType.toList) (htype' : '|' ∉ assetType'.toList)
    (h : lookupKey externalID assetType accountID region =
      lookupKey externalID' assetType' accountID' region') :
    accountID = accountID' ∧ region = region' ∧ assetType = assetType' ∧
      externalID = externalID' := by
  have hbar : "|".toList = ['|'] := rfl
  have hlist := congrArg String.toList h
  simp only [lookupKey, String.toList_append, hbar, List.append_assoc, List.singleton_append]
    at hlist
  obtain ⟨hfirst, hlist⟩ := append_cons_inj haccount haccount' hlist
  obtain ⟨hsecond, hlist⟩ := append_cons_inj hregion hregion' hlist
  obtain ⟨hthird, hfourth⟩ := append_cons_inj htype htype' hlist
  exact ⟨String.toList_inj.mp hfirst, String.toList_inj.mp hsecond, String.toList_inj.mp hthird,
    String.toList_inj.mp hfourth⟩

/-- Plain requests with one key ask for the same. -/
lemma names_congr (hplain : ∀ a ∈ db.cmdbAsset, PlainAsset a) {p q : LinkRequest}
    (hp : p ∈ linkRequests db) (hq : q ∈ linkRequests db) (hkey : p.key = q.key) (t : AssetRow) :
    p.Names t ↔ q.Names t := by
  have hparts : ∀ {q : LinkRequest}, q ∈ linkRequests db → '|' ∉ q.asset.accountId.toList ∧
      '|' ∉ q.asset.region.toList ∧ '|' ∉ q.assetType.toList := by
    intro q hq
    obtain ⟨a, ha, -, -, hq, -⟩ := mem_linkRequests.mp hq
    rcases hq with rfl | rfl
    · exact ⟨(hplain a ha).accountId, (hplain a ha).region,
        show '|' ∉ "aws_vpc".toList by decide⟩
    · exact ⟨(hplain a ha).accountId, (hplain a ha).region,
        show '|' ∉ "aws_subnet".toList by decide⟩
  obtain ⟨haccount, hregion, htype⟩ := hparts hp
  obtain ⟨haccount', hregion', htype'⟩ := hparts hq
  obtain ⟨h₁, h₂, h₃, h₄⟩ := lookupKey_inj haccount haccount' hregion hregion' htype htype' hkey
  rw [LinkRequest.Names, LinkRequest.Names, h₁, h₂, h₃, h₄]

/-- An edge is from the asset of a request to what the request names. -/
lemma edge_iff (hplain : ∀ a ∈ db.cmdbAsset, PlainAsset a) {k : EdgeKey} : Edge db k ↔
    ∃ q ∈ linkRequests db, ∃ t ∈ db.cmdbAsset, q.Names t ∧
      k = (q.asset.id, t.id, q.relationType) ∧ k.1 ≠ k.2.1 := by
  obtain ⟨fromId, toId, relationType⟩ := k
  constructor
  · rintro ⟨a, ha, t, ht, hsource, hlive, hsource', hlive', haccount, hregion,
      ⟨rfl, htype, hext⟩ | ⟨rfl, htype, hext⟩, rfl, rfl, hne⟩
    · have hvpc : a.vpcId ≠ "" := fun hblank => (hplain t ht).externalId (hblank ▸ hext)
      exact ⟨a.vpcRequest, mem_linkRequests.mpr ⟨a, ha, hsource, hlive, Or.inl rfl, hvpc⟩, t, ht,
        ⟨hsource', hlive', htype, haccount, hregion, hext⟩, rfl, hne⟩
    · have hsubnet : a.subnetId ≠ "" := fun hblank => (hplain t ht).externalId (hblank ▸ hext)
      exact ⟨a.subnetRequest, mem_linkRequests.mpr ⟨a, ha, hsource, hlive, Or.inr rfl, hsubnet⟩, t,
        ht, ⟨hsource', hlive', htype, haccount, hregion, hext⟩, rfl, hne⟩
  · rintro ⟨q, hq, t, ht, ⟨hsource', hlive', htype, haccount, hregion, hext⟩, hk, hne⟩
    obtain ⟨a, ha, hsource, hlive, hq, -⟩ := mem_linkRequests.mp hq
    simp only [Prod.mk.injEq] at hk
    obtain ⟨rfl, rfl, rfl⟩ := hk
    rcases hq with rfl | rfl
    · exact ⟨a, ha, t, ht, hsource, hlive, hsource', hlive', haccount, hregion,
        Or.inl ⟨rfl, htype, hext⟩, rfl, rfl, hne⟩
    · exact ⟨a, ha, t, ht, hsource, hlive, hsource', hlive', haccount, hregion,
        Or.inr ⟨rfl, htype, hext⟩, rfl, rfl, hne⟩

lemma linked_iff_edge (hplain : ∀ a ∈ db.cmdbAsset, PlainAsset a) {k : EdgeKey} :
    Linked db k ↔ Edge db k := by
  rw [edge_iff hplain, Linked]
  refine exists_congr fun q => and_congr_right fun hq => ?_
  constructor
  · rintro ⟨p, hfirst, t, ht, hnames, hk⟩
    obtain ⟨hp, hkey⟩ := of_firstWithKey hfirst
    exact ⟨t, ht, (names_congr hplain hp hq hkey t).mp hnames, hk⟩
  · rintro ⟨t, ht, hnames, hk⟩
    obtain ⟨p, hfirst⟩ := exists_firstWithKey LinkRequest.key hq
    obtain ⟨hp, hkey⟩ := of_firstWithKey hfirst
    exact ⟨p, hfirst, t, ht, (names_congr hplain hp hq hkey t).mpr hnames, hk⟩

/-- Where the keys are plain, only the relations from before matter. -/
lemma linksInStep_of_plain (hplain : ∀ a ∈ db.cmdbAsset, PlainAsset a)
    (hcurrent : ∀ r ∈ db.cmdbAssetRelation, r.source = sourceID → r.relationType ∈ linkTypes →
      Edge db r.edgeKey)
    (hunclaimed : ∀ r ∈ db.cmdbAssetRelation, r.source ≠ sourceID → ¬ Edge db r.edgeKey) :
    LinksInStep db now where
  current := hcurrent
  unclaimed := hunclaimed
  sound _ hlinked := Or.inl ((linked_iff_edge hplain).mp hlinked)
  complete _ hedge := Or.inl ((linked_iff_edge hplain).mpr hedge)

/-! ### The theorem -/

lemma linksInStep_of_rebuilds (hindexed : LinksIndexed db) (h : Rebuilds db now newId) :
    LinksInStep db now where
  current r hr hsource htype :=
    (h.exact _ htype).mp ((held_linkAWSRelations hindexed).mpr (Or.inl ⟨r, hr, rfl, hsource⟩))
  unclaimed r hr hsource hedge := by
    have hheld := (h.exact _ (linkType_of_edge hedge)).mpr hedge
    rcases (held_linkAWSRelations hindexed).mp hheld with ⟨r', hr', hkey, hsource'⟩ | ⟨-, hfresh⟩
    · exact hsource (hindexed.relations r' hr' r hr hkey ▸ hsource')
    · exact hfresh r hr rfl
  sound k hlinked := by
    have hexact := h.exact k (linkType_of_linked hlinked)
    rw [held_linkAWSRelations hindexed] at hexact
    by_cases hfresh : ∀ r ∈ db.cmdbAssetRelation, r.edgeKey ≠ k
    · exact Or.inl (hexact.mp (Or.inr ⟨hlinked, hfresh⟩))
    · simp only [not_forall, not_not] at hfresh
      obtain ⟨r, hr, rfl⟩ := hfresh
      by_cases hsource : r.source = sourceID
      · exact Or.inl (hexact.mp (Or.inl ⟨r, hr, rfl, hsource⟩))
      · have hkept := (kept_linkAWSRelations hindexed hr).mp ((h.others r hsource).mpr hr)
        exact Or.inr ⟨r, hr, rfl, hsource, hkept.resolve_left (not_not.mpr hlinked)⟩
  complete k hedge := by
    have hheld := (h.exact k (linkType_of_edge hedge)).mpr hedge
    rcases (held_linkAWSRelations hindexed).mp hheld with hheld | ⟨hlinked, -⟩
    · exact Or.inr hheld
    · exact Or.inl hlinked

lemma rebuilds_of_linksInStep (hindexed : LinksIndexed db) (h : LinksInStep db now) :
    Rebuilds db now newId := by
  -- a relation of another source is never in the way of an edge
  have hstill : ∀ r ∈ db.cmdbAssetRelation, r.source ≠ sourceID → Linked db r.edgeKey →
      r.updatedAt = now := by
    intro r hr hsource hlinked
    rcases h.sound _ hlinked with hedge | ⟨r', hr', hkey, -, hnow⟩
    · exact absurd hedge (h.unclaimed r hr hsource)
    · rw [← hindexed.relations r' hr' r hr hkey]
      exact hnow
  refine ⟨fun k htype => ?_, fun r hsource => ?_, fun now' newId' =>
    again_linkAWSRelations db now now' newId newId'⟩
  · rw [held_linkAWSRelations hindexed]
    constructor
    · rintro (⟨r, hr, rfl, hsource⟩ | ⟨hlinked, hfresh⟩)
      · exact h.current r hr hsource htype
      · rcases h.sound k hlinked with hedge | ⟨r, hr, hkey, -⟩
        · exact hedge
        · exact absurd hkey (hfresh r hr)
    · intro hedge
      by_cases hfresh : ∀ r ∈ db.cmdbAssetRelation, r.edgeKey ≠ k
      · rcases h.complete k hedge with hlinked | hheld
        · exact Or.inr ⟨hlinked, hfresh⟩
        · exact Or.inl hheld
      · simp only [not_forall, not_not] at hfresh
        obtain ⟨r, hr, rfl⟩ := hfresh
        have hsource : r.source = sourceID := by
          by_contra hother
          exact h.unclaimed r hr hother hedge
        exact Or.inl ⟨r, hr, rfl, hsource⟩
  · constructor
    · intro hafter
      rcases (mem_relations hindexed).mp hafter with
        ⟨r₀, hr₀, hlinked, rfl⟩ | ⟨hr, -⟩ | ⟨k, -, -, rfl⟩
      · have hnow := hstill r₀ hr₀ hsource hlinked
        rw [RelationRow.touch, ← hnow]
        exact hr₀
      · exact hr
      · exact absurd rfl hsource
    · intro hr
      refine (kept_linkAWSRelations hindexed hr).mpr ?_
      by_cases hlinked : Linked db r.edgeKey
      · exact Or.inr (hstill r hr hsource hlinked)
      · exact Or.inl hlinked

end

/-- **The AWS relations.**  Under the unique indexes, a run without errors leaves exactly the edges
that the live assets call for, does not touch relations of other sources, and changes nothing but
timestamps when it is repeated, exactly when the relations from before are in step with the assets
and no request is answered with the target of another. -/
theorem relations_rebuilt_iff {db : Db} {now : Time} {newId : Uuid → Uuid → String → Uuid}
    (hindexed : LinksIndexed db) : Rebuilds db now newId ↔ LinksInStep db now :=
  ⟨linksInStep_of_rebuilds hindexed, rebuilds_of_linksInStep hindexed⟩

def vpcAsset (n : Fin 16) (externalID : String) : AssetRow :=
  { id := Uuid.replicate n, type := "aws_vpc", name := externalID, source := "aws"
    externalId := some externalID, accountId := "111", region := "us-east-1" }

def appInstance : AssetRow :=
  { id := Uuid.replicate 3, type := "aws_ec2_instance", name := "app", source := "aws"
    externalId := some "i-1", accountId := "111", region := "us-east-1", vpcId := "vpc-1" }

/-- An instance in the first of two VPCs. -/
def twoVpcs : Db := { cmdbAsset := [vpcAsset 1 "vpc-1", vpcAsset 2 "vpc-2", appInstance] }

lemma linksIndexed_twoVpcs : LinksIndexed twoVpcs := by
  refine ⟨?_, fun r hr => absurd hr List.not_mem_nil⟩
  intro a ha b hb _ hkey
  simp only [twoVpcs, List.mem_cons, List.not_mem_nil, or_false] at ha hb
  rcases ha with rfl | rfl | rfl
  · rcases hb with rfl | rfl | rfl
    · rfl
    · exact absurd hkey (by decide)
    · exact absurd hkey (by decide)
  · rcases hb with rfl | rfl | rfl
    · exact absurd hkey (by decide)
    · rfl
    · exact absurd hkey (by decide)
  · rcases hb with rfl | rfl | rfl
    · exact absurd hkey (by decide)
    · exact absurd hkey (by decide)
    · rfl

/-- The edge of the instance to the first VPC. -/
def firstEdge : RelationRow :=
  { id := Uuid.replicate 4, fromAssetId := Uuid.replicate 3, toAssetId := Uuid.replicate 1
    relationType := "in_vpc", source := "aws", createdAt := 5, updatedAt := 5 }

/-- The relations of the run that finds the instance in the first VPC. -/
theorem relations_rebuilt_twoVpcs :
    linkAWSRelations twoVpcs 5 (fun _ _ _ => Uuid.replicate 4) [] =
        { twoVpcs with cmdbAssetRelation := [firstEdge] } ∧
      Rebuilds twoVpcs 5 fun _ _ _ => Uuid.replicate 4 := by
  refine ⟨by rfl, (relations_rebuilt_iff linksIndexed_twoVpcs).mpr (linksInStep_of_plain ?_ ?_ ?_)⟩
  · intro a ha
    simp only [twoVpcs, List.mem_cons, List.not_mem_nil, or_false] at ha
    rcases ha with rfl | rfl | rfl
    · exact ⟨by decide, by decide, by decide⟩
    · exact ⟨by decide, by decide, by decide⟩
    · exact ⟨by decide, by decide, by decide⟩
  · exact fun r hr => absurd hr List.not_mem_nil
  · exact fun r hr => absurd hr List.not_mem_nil

/-- The instance as the next sync finds it, in the other VPC. -/
def movedInstance : AssetUpsert :=
  { assetType := "aws_ec2_instance", name := "app", externalID := "i-1", accountID := "111"
    region := "us-east-1", vpcID := "vpc-2" }

def twoVpcsMoved : Db :=
  { cmdbAsset := [vpcAsset 1 "vpc-1", vpcAsset 2 "vpc-2",
                  { appInstance with vpcId := "vpc-2", updatedAt := 6 }]
    cmdbAssetRelation := [firstEdge] }

/-- The edge to the first VPC stays when the instance has moved. -/
theorem stale_relation_kept :
    linkAWSRelations twoVpcs 5 (fun _ _ _ => Uuid.replicate 4) [] =
        { twoVpcs with cmdbAssetRelation := [firstEdge] } ∧
      upsertAsset { twoVpcs with cmdbAssetRelation := [firstEdge] } 6 (Uuid.replicate 5)
        movedInstance = .ok twoVpcsMoved ∧
      linkAWSRelations twoVpcsMoved 7 (fun _ _ _ => Uuid.replicate 6) [] =
        { twoVpcsMoved with
          cmdbAssetRelation := [firstEdge,
            { firstEdge with
              id := Uuid.replicate 6, toAssetId := Uuid.replicate 2, createdAt := 7
              updatedAt := 7 }] } ∧
      ¬ Rebuilds twoVpcsMoved 7 fun _ _ _ => Uuid.replicate 6 := by
  have hrun : linkAWSRelations twoVpcsMoved 7 (fun _ _ _ => Uuid.replicate 6) [] =
      { twoVpcsMoved with
        cmdbAssetRelation := [firstEdge,
          { firstEdge with
            id := Uuid.replicate 6, toAssetId := Uuid.replicate 2, createdAt := 7
            updatedAt := 7 }] } := by rfl
  refine ⟨by rfl, by rfl, hrun, ?_⟩
  intro h
  have hheld : Held (linkAWSRelations twoVpcsMoved 7 (fun _ _ _ => Uuid.replicate 6) [])
      firstEdge.edgeKey := by
    rw [hrun]
    exact ⟨_, List.mem_cons_self, rfl, rfl⟩
  obtain ⟨a, ha, t, ht, -, -, -, -, -, -, hlinks, hfrom, hto, -⟩ :=
    (h.exact _ List.mem_cons_self).mp hheld
  simp only [twoVpcsMoved, List.mem_cons, List.not_mem_nil, or_false] at ha ht
  -- the asset is the instance and the target is the first VPC
  rcases ha with rfl | rfl | rfl
  · exact absurd hfrom (by decide)
  · exact absurd hfrom (by decide)
  · rcases ht with rfl | rfl | rfl
    · rcases hlinks with ⟨-, -, hext⟩ | ⟨htype, -⟩
      · exact absurd hext (by decide)
      · exact absurd htype (by decide)
    · exact absurd hto (by decide)
    · exact absurd hto (by decide)

end OpsPlatform.Cmdb
