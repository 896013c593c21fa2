/-
Relations between assets (`UpsertRelation` and `DeleteRelation` in `internal/cmdb/repository.go`,
`CreateRelation` and `DeleteRelation` in `internal/cmdb/handler.go`).

The routes are under the path of an asset, and `withScopedAssetWrite` authorises the caller for
that asset.  `CreateRelation` takes the path asset for an endpoint that the body leaves out, and
otherwise what the body says; `DeleteRelation` does not look at the path asset at all.
-/
import OpsPlatform.Cmdb.ScopedWrite

namespace OpsPlatform.Cmdb

open Lib Lib.Table Lib.Text SshProxy Iam

/-! ### The repository -/

def errRelationForeignKey : String :=
  "insert or update on table violates foreign key constraint on cmdb_asset_relation"

def errDuplicateRelation : String := "duplicate key value violates unique constraint"

/-- `sql.ErrNoRows`. -/
def errNoRows : String := "sql: no rows in result set"

/-- The key of `idx_cmdb_relation_unique`. -/
def RelationRow.hasKey (fromAssetId toAssetId : Uuid) (relationType : String) (r : RelationRow) :
    Bool :=
  r.fromAssetId == fromAssetId && r.toAssetId == toAssetId && r.relationType == relationType

/-- `UpsertRelation`, with the row that its statement returns.  The foreign keys refer to assets,
live or not. -/
def upsertRelation (db : Db) (now : Time) (newId : Uuid)
    (fromAssetID toAssetID relationType source : String) :
    Except String (Db × RelationRow) := do
  let fromId ← castUuid fromAssetID
  let toId ← castUuid toAssetID
  match db.cmdbAssetRelation.find? (RelationRow.hasKey fromId toId relationType) with
  | some r =>
    let set := fun r : RelationRow => { r with source, updatedAt := now }
    .ok ({ db with
           cmdbAssetRelation := updateWhere (RelationRow.hasKey fromId toId relationType) set
             db.cmdbAssetRelation }, set r)
  | none =>
    let r : RelationRow := { id := newId, fromAssetId := fromId, toAssetId := toId, relationType,
                             source, createdAt := now, updatedAt := now }
    if ¬ (db.cmdbAsset.any (·.id == fromId) ∧ db.cmdbAsset.any (·.id == toId)) then
      .error errRelationForeignKey
    else if db.cmdbAssetRelation.any (·.id == newId) then .error errDuplicateRelation
    else .ok ({ db with cmdbAssetRelation := db.cmdbAssetRelation ++ [r] }, r)

/-- `DeleteRelation`, with the rows that it deletes. -/
def deleteRelation (db : Db) (id : String) : Except String (Db × List RelationRow) := do
  let id ← castUuid id
  let (hit, rest) := db.cmdbAssetRelation.partition (·.id == id)
  if hit.length = 0 then .error errNoRows else .ok ({ db with cmdbAssetRelation := rest }, hit)

/-! ### The handlers -/

/-- `CreateRelationRequest`. -/
structure CreateRelationRequest where
  fromAssetID : String := ""
  toAssetID : String := ""
  relationType : String := ""

namespace Handler

/-- `CreateRelation`.  A body that does not decode is `none`. -/
def createRelation (db : Db) (now : Time) (newId : Uuid) (assetID : String)
    (body : Option CreateRelationRequest) : Except HttpError (Db × RelationRow) :=
  match body with
  | none => .error ⟨400, "invalid json body", none⟩
  | some req =>
    if req.relationType = "" then .error ⟨400, "relation_type is required", none⟩
    else
      let fromAssetID := if req.fromAssetID = "" then assetID else req.fromAssetID
      let toAssetID := if req.toAssetID = "" then assetID else req.toAssetID
      (upsertRelation db now newId fromAssetID toAssetID req.relationType "manual").mapError
        fun e => ⟨500, e, none⟩

/-- `DeleteRelation`. -/
def deleteRelation (db : Db) (relationID : String) :
    Except HttpError (Db × List RelationRow) :=
  (Cmdb.deleteRelation db relationID).mapError fun e =>
    if e = errAssetNotFound then ⟨404, "relation not found", none⟩ else ⟨500, e, none⟩

end Handler

/-- A request to one of the two routes. -/
inductive RelationWrite where
  | post (newId : Uuid) (body : Option CreateRelationRequest)
  | delete (relationID : String)

/-- `Routes`: the gate of the route, then the handler; with the rows that are created, modified or
deleted. -/
def serveRelationWrite (db : Db) (now : Time) (ctx : Option UserIdentity) (assetID : String)
    (req : RelationWrite) : Except HttpError (Db × List RelationRow) := do
  withScopedAssetWrite db assetID ctx
  match req with
  | .post newId body => do
    let (db, r) ← Handler.createRelation db now newId assetID body
    .ok (db, [r])
  | .delete relationID => Handler.deleteRelation db relationID

/-! ### The property and the condition -/

/-- The asset of the path is an endpoint of the relation. -/
def RelationRow.Touches (assetID : String) (r : RelationRow) : Prop :=
  Uuid.parse assetID = some r.fromAssetId ∨ Uuid.parse assetID = some r.toAssetId

/-- The row was created, modified or deleted: it is there only before or only after. -/
def RelationRow.Changed (db db' : Db) (r : RelationRow) : Prop :=
  ¬ (r ∈ db.cmdbAssetRelation ↔ r ∈ db'.cmdbAssetRelation)

/-- Every row that was written, and every row that differs, is a relation of the asset. -/
def OnlyTouches (assetID : String) (db db' : Db) (written : List RelationRow) : Prop :=
  ∀ r : RelationRow, r ∈ written ∨ r.Changed db db' → r.Touches assetID

/-- A body names the asset of the path, or leaves an endpoint out; and the relation to delete, if
it exists, is one of that asset. -/
def RelationWrite.NamesAsset (db : Db) (assetID : String) : RelationWrite → Prop
  | .post _ (some req) => req.fromAssetID = "" ∨ req.toAssetID = "" ∨
      Uuid.parse req.fromAssetID = Uuid.parse assetID ∨
      Uuid.parse req.toAssetID = Uuid.parse assetID
  | .post _ none => True
  | .delete relationID => ∀ r ∈ db.cmdbAssetRelation, Uuid.parse relationID = some r.id →
      r.Touches assetID

/-! ### What the calls write -/

section

variable {db db' : Db} {now : Time} {newId : Uuid} {written : List RelationRow}

/-- What `UpsertRelation` writes is between its two assets. -/
lemma upsertRelation_eq_ok {fromAssetID toAssetID relationType source : String} {r : RelationRow}
    (h : upsertRelation db now newId fromAssetID toAssetID relationType source = .ok (db', r)) :
    ∃ fromId toId, Uuid.parse fromAssetID = some fromId ∧ Uuid.parse toAssetID = some toId ∧
      ∀ q : RelationRow, q = r ∨ q.Changed db db' →
        q.fromAssetId = fromId ∧ q.toAssetId = toId := by
  rw [upsertRelation, Except.bind_eq_ok] at h
  obtain ⟨fromId, hfrom, h⟩ := h
  rw [Except.bind_eq_ok] at h
  obtain ⟨toId, hto, h⟩ := h
  refine ⟨fromId, toId, castUuid_eq_ok.mp hfrom, castUuid_eq_ok.mp hto, ?_⟩
  have hkey : ∀ q : RelationRow, q.hasKey fromId toId relationType = true →
      q.fromAssetId = fromId ∧ q.toAssetId = toId := by
    intro q hq
    simp only [RelationRow.hasKey, Bool.and_eq_true, beq_iff_eq] at hq
    exact hq.1
  split at h
  -- a conflict: the row of the key is updated in its place
  · next r₀ hr₀ =>
    obtain ⟨rfl, rfl⟩ := Prod.mk.inj (Except.ok.inj h)
    rintro q (rfl | hchanged)
    · exact hkey r₀ (List.find?_some hr₀)
    · by_contra hother
      have hmiss : q.hasKey fromId toId relationType = false :=
        Bool.eq_false_iff.mpr fun hq => hother (hkey q hq)
      refine hchanged ⟨fun hq => mem_updateWhere.mpr ⟨q, hq, Or.inr ⟨hmiss, rfl⟩⟩, fun hq => ?_⟩
      obtain ⟨q₀, hq₀, ⟨hhit, rfl⟩ | ⟨-, rfl⟩⟩ := mem_updateWhere.mp hq
      · exact absurd (hkey q₀ hhit) hother
      · exact hq₀
  -- no conflict: the row is appended
  · rw [Except.ite_error_eq_ok, Except.ite_error_eq_ok] at h
    obtain ⟨rfl, rfl⟩ := Prod.mk.inj (Except.ok.inj h.2.2)
    rintro q (rfl | hchanged)
    · exact ⟨rfl, rfl⟩
    · by_contra hother
      refine hchanged ⟨List.mem_append_left _, fun hq => ?_⟩
      rcases List.mem_append.mp hq with hold | hnew
      · exact hold
      · obtain rfl := List.mem_singleton.mp hnew
        exact absurd ⟨rfl, rfl⟩ hother

/-- `DeleteRelation` deletes the rows with the id. -/
lemma deleteRelation_eq_ok {relationID : String}
    (h : deleteRelation db relationID = .ok (db', written)) :
    ∃ id, Uuid.parse relationID = some id ∧
      ∀ q : RelationRow, q ∈ written ∨ q.Changed db db' ↔ q ∈ db.cmdbAssetRelation ∧ q.id = id := by
  rw [deleteRelation, Except.bind_eq_ok] at h
  obtain ⟨id, hid, h⟩ := h
  simp only [List.partition_eq_filter_filter, Except.ite_error_eq_ok] at h
  obtain ⟨rfl, rfl⟩ := Prod.mk.inj (Except.ok.inj h.2)
  refine ⟨id, castUuid_eq_ok.mp hid, ?_⟩
  intro q
  by_cases hq : q.id = id
  · simp [RelationRow.Changed, hq]
  · simp [RelationRow.Changed, hq]

/-! ### The routes -/

variable {assetID : String} {ctx : Option UserIdentity} {req : RelationWrite}

/-- The gate has read the asset of the path. -/
lemma parse_of_withScopedAssetWrite {u : Unit} (h : withScopedAssetWrite db assetID ctx = .ok u) :
    ∃ id, Uuid.parse assetID = some id := by
  cases ctx with
  | none => cases h
  | some identity =>
    rw [withScopedAssetWrite, Except.ite_error_eq_ok, Except.bind_eq_ok] at h
    obtain ⟨-, a, hget, -⟩ := h
    exact ⟨a.id, (getAsset_eq_ok (Except.mapError_eq_ok.mp hget)).1⟩

lemma onlyTouches_post_iff {body : Option CreateRelationRequest}
    (h : serveRelationWrite db now ctx assetID (.post newId body) = .ok (db', written)) :
    OnlyTouches assetID db db' written ↔
      (RelationWrite.post newId body).NamesAsset db assetID := by
  rw [serveRelationWrite, Except.bind_eq_ok] at h
  obtain ⟨_, hgate, h⟩ := h
  obtain ⟨id, hid⟩ := parse_of_withScopedAssetWrite hgate
  rw [Except.bind_eq_ok] at h
  obtain ⟨⟨db₁, r⟩, hcreate, h⟩ := h
  obtain ⟨rfl, rfl⟩ := Prod.mk.inj (Except.ok.inj h)
  rcases body with _ | req
  · cases hcreate
  rw [Handler.createRelation, Except.ite_error_eq_ok] at hcreate
  obtain ⟨fromId, toId, hfrom, hto, hrows⟩ := upsertRelation_eq_ok
    (Except.mapError_eq_ok.mp hcreate.2)
  -- all rows in question have the same endpoints
  have hendpoints : OnlyTouches assetID db db₁ [r] ↔ id = fromId ∨ id = toId := by
    simp only [OnlyTouches, RelationRow.Touches, List.mem_singleton, hid, Option.some.injEq]
    constructor
    · intro hall
      obtain ⟨hr, hr'⟩ := hrows r (Or.inl rfl)
      rw [← hr, ← hr']
      exact hall r (Or.inl rfl)
    · intro hends q hq
      rw [(hrows q hq).1, (hrows q hq).2]
      exact hends
  rw [hendpoints, RelationWrite.NamesAsset, hid]
  by_cases hblank : req.fromAssetID = ""
  · rw [if_pos hblank, hid] at hfrom
    exact iff_of_true (Or.inl (Option.some.inj hfrom)) (Or.inl hblank)
  · rw [if_neg hblank] at hfrom
    by_cases hblank' : req.toAssetID = ""
    · rw [if_pos hblank', hid] at hto
      exact iff_of_true (Or.inr (Option.some.inj hto)) (Or.inr (Or.inl hblank'))
    · rw [if_neg hblank'] at hto
      simp only [hblank, hblank', hfrom, hto, false_or, Option.some.injEq]
      rw [eq_comm, eq_comm (a := id)]

lemma onlyTouches_delete_iff {relationID : String}
    (h : serveRelationWrite db now ctx assetID (.delete relationID) = .ok (db', written)) :
    OnlyTouches assetID db db' written ↔
      (RelationWrite.delete relationID).NamesAsset db assetID := by
  rw [serveRelationWrite, Except.bind_eq_ok] at h
  obtain ⟨_, -, h⟩ := h
  obtain ⟨id, hid, hrows⟩ := deleteRelation_eq_ok (Except.mapError_eq_ok.mp h)
  simp only [OnlyTouches, RelationWrite.NamesAsset, hrows, hid, Option.some.injEq]
  constructor
  · intro hall r hr hrid
    exact hall r ⟨hr, hrid.symm⟩
  · rintro hnames r ⟨hr, hrid⟩
    exact hnames r hr hrid.symm

end

/-- **Relations of the authorised asset.**  A served request under the path of an asset writes
only relations of that asset exactly when its body names the asset or leaves an endpoint out, or
the relation that it deletes is one of the asset. -/
theorem relations_bound_iff {db db' : Db} {now : Time} {ctx : Option UserIdentity}
    {assetID : String} {req : RelationWrite} {written : List RelationRow}
    (h : serveRelationWrite db now ctx assetID req = .ok (db', written)) :
    OnlyTouches assetID db db' written ↔ req.NamesAsset db assetID := by
  cases req with
  | post newId body => exact onlyTouches_post_iff h
  | delete relationID => exact onlyTouches_delete_iff h

/-- Three assets, of which `devWriter` may write only the first, and a relation between the other
two. -/
def threeAssets : Db :=
  { cmdbAsset := [{ id := Uuid.replicate 2, type := "vm", name := "dev-1", env := "dev" },
                  { id := Uuid.replicate 3, type := "vm", name := "prod-1", env := "prod" },
                  { id := Uuid.replicate 4, type := "vm", name := "prod-2", env := "prod" }]
    cmdbAssetRelation := [{ id := Uuid.replicate 5, fromAssetId := Uuid.replicate 3
                            toAssetId := Uuid.replicate 4, relationType := "depends_on" }] }

/-- The path of the first asset. -/
def firstAsset : String := "22222222-2222-2222-2222-222222222222"

/-- `threeAssets` with a relation of the first asset. -/
def newRelation : RelationRow :=
  { id := Uuid.replicate 6, fromAssetId := Uuid.replicate 2, toAssetId := Uuid.replicate 4
    relationType := "depends_on", createdAt := 9, updatedAt := 9 }

def postRelation : RelationWrite :=
  .post (Uuid.replicate 6) (some { toAssetID := "44444444-4444-4444-4444-444444444444"
                                   relationType := "depends_on" })

theorem relations_bound_iff_postRelation :
    serveRelationWrite threeAssets 9 (some devWriter) firstAsset postRelation =
        .ok ({ threeAssets with
               cmdbAssetRelation := threeAssets.cmdbAssetRelation ++ [newRelation] },
          [newRelation]) ∧
      OnlyTouches firstAsset threeAssets
        { threeAssets with
          cmdbAssetRelation := threeAssets.cmdbAssetRelation ++ [newRelation] } [newRelation] := by
  have hserve : serveRelationWrite threeAssets 9 (some devWriter) firstAsset postRelation =
      .ok ({ threeAssets with
             cmdbAssetRelation := threeAssets.cmdbAssetRelation ++ [newRelation] },
        [newRelation]) := by rfl
  exact ⟨hserve, (relations_bound_iff hserve).mpr (Or.inl rfl)⟩

/-- A relation between two assets that the caller may not write is deleted under the path of a
third one. -/
theorem foreign_relation_deleted :
    authorizeAssetWrite devWriter "prod" "manual" = .error ⟨403, "permission denied", none⟩ ∧
      serveRelationWrite threeAssets 9 (some devWriter) firstAsset
          (.delete "55555555-5555-5555-5555-555555555555") =
        .ok ({ threeAssets with cmdbAssetRelation := [] }, threeAssets.cmdbAssetRelation) ∧
      ¬ OnlyTouches firstAsset threeAssets { threeAssets with cmdbAssetRelation := [] }
          threeAssets.cmdbAssetRelation := by
  refine ⟨rfl, rfl, ?_⟩
  intro h
  rcases h _ (Or.inl (List.mem_singleton_self _)) with htouches | htouches
  · exact absurd htouches (by decide)
  · exact absurd htouches (by decide)

end OpsPlatform.Cmdb
