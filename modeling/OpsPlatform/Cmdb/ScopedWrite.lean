/-
`POST /cmdb/assets` and `PATCH /cmdb/assets/{id}` (`internal/cmdb/handler.go`) under a scoped
`cmdb.asset:write`.

A new asset is checked against the scopes with the env and source of the request body.  An
update is checked with the env and source that the row has before it, and nothing looks at the
env that it assigns: a scoped holder can move an asset out of their scopes.
-/
import OpsPlatform.Cmdb.Asset
import OpsPlatform.Iam.Middleware

namespace OpsPlatform.Cmdb

open Lib Lib.Table Iam

/-- The response to an error of the repository. -/
def repoError (message : String) : HttpError :=
  if message = errAssetNotFound then ⟨404, message, none⟩ else ⟨500, message, none⟩

/-- `identity.Authorize("cmdb.asset:write", attrs)` for the attributes of an asset. -/
def authorizeAssetWrite (identity : UserIdentity) (env source : String) : Except HttpError Unit :=
  if (identity.authorize "cmdb.asset:write" (some (Attrs.ofAsset env source))).allowed then .ok ()
  else .error ⟨403, "permission denied", none⟩

/-- `withScopedAssetWrite`. -/
def withScopedAssetWrite (db : Db) (assetID : String) (ctx : Option UserIdentity) :
    Except HttpError Unit :=
  match ctx with
  | none => .error ⟨401, "missing identity context", none⟩
  | some identity =>
    if assetID = "" then .error ⟨400, "asset id required", none⟩
    else do
      let asset ← (getAsset db assetID).mapError repoError
      authorizeAssetWrite identity asset.env asset.source

namespace Handler

/-- The defaults that `CreateAsset` fills in. -/
def withDefaults (req : CreateAssetRequest) : CreateAssetRequest :=
  { req with
    status := if req.status = "" then "active" else req.status
    env := if req.env = "" then "default" else req.env
    source := if req.source = "" then "manual" else req.source }

/-- `CreateAsset`.  A body that does not decode is `none`. -/
def createAsset (db : Db) (now : Time) (newId : Uuid) (ctx : Option UserIdentity)
    (body : Option CreateAssetRequest) : Except HttpError Db :=
  match body with
  | none => .error ⟨400, "invalid json body", none⟩
  | some req =>
    if req.type = "" ∨ req.name = "" then .error ⟨400, "type and name are required", none⟩
    else
      let req := withDefaults req
      match ctx with
      | none => .error ⟨401, "missing identity context", none⟩
      | some identity => do
        authorizeAssetWrite identity req.env req.source
        (Cmdb.createAsset db now newId req).mapError fun e => ⟨500, e, none⟩

/-- `UpdateAsset`. -/
def updateAsset (db : Db) (now : Time) (assetID : String) (body : Option UpdateAssetRequest) :
    Except HttpError Db :=
  match body with
  | none => .error ⟨400, "invalid json body", none⟩
  | some req => (Cmdb.updateAsset db now assetID req).mapError repoError

end Handler

/-- A request to one of the two routes. -/
inductive AssetWrite where
  | post (newId : Uuid) (body : Option CreateAssetRequest)
  | patch (assetID : String) (body : Option UpdateAssetRequest)

/-- `Routes`: the gate of the route, then the handler. -/
def serveAssetWrite (db : Db) (now : Time) (ctx : Option UserIdentity) :
    AssetWrite → Except HttpError Db
  | .post newId body => do
    let identity ← requirePermission "cmdb.asset" "write" ctx
    Handler.createAsset db now newId (some identity) body
  | .patch assetID body => do
    withScopedAssetWrite db assetID ctx
    Handler.updateAsset db now assetID body

/-- Some `cmdb.asset:write` scope holds of the env and source. -/
def WriteScope (rows : List PermissionRow) (env source : String) : Prop :=
  SatisfiesScope rows "cmdb.asset:write" (Attrs.ofAsset env source)

/-- Every row that the request changed is in one of the scopes, and was before if it existed. -/
def StaysInScope (rows : List PermissionRow) (db db' : Db) : Prop :=
  ∀ a' ∈ db'.cmdbAsset, a' ∉ db.cmdbAsset → WriteScope rows a'.env a'.source ∧
    ∀ a ∈ db.cmdbAsset, a.id = a'.id → WriteScope rows a.env a.source

/-- The request assigns no env to an asset that would take it out of the scopes. -/
def AssetWrite.KeepsScope (rows : List PermissionRow) (db : Db) : AssetWrite → Prop
  | .patch assetID (some req) => ∀ env, req.env = some env → ∀ a ∈ db.cmdbAsset, a.live = true →
      Uuid.parse assetID = some a.id → WriteScope rows env a.source
  | _ => True

/-! ### The gates -/

section

variable {db db' : Db} {now : Time} {user : User} {rows : List PermissionRow} {id : UserIdentity}

lemma authorizeAssetWrite_eq_ok (hbuilt : BuiltFrom rows id) (ha : isAdmin id = false)
    {env source : String} {u : Unit} (h : authorizeAssetWrite id env source = .ok u) :
    WriteScope rows env source := by
  rw [authorizeAssetWrite] at h
  split at h
  · next hallowed => exact (hbuilt.allowed_iff_satisfiesScope ha _ _).mp hallowed
  · cases h

/-- The gate of the update has found the asset in one of the scopes. -/
lemma withScopedAssetWrite_eq_ok (hbuilt : BuiltFrom rows id) (ha : isAdmin id = false)
    {assetID : String} {u : Unit} (h : withScopedAssetWrite db assetID (some id) = .ok u) :
    ∃ a, getAsset db assetID = .ok a ∧ WriteScope rows a.env a.source := by
  rw [withScopedAssetWrite, Except.ite_error_eq_ok, Except.bind_eq_ok] at h
  obtain ⟨-, a, hget, h⟩ := h
  exact ⟨a, Except.mapError_eq_ok.mp hget, authorizeAssetWrite_eq_ok hbuilt ha h⟩

/-! ### Creating -/

lemma staysInScope_post (hbuilt : BuiltFrom rows id) (ha : isAdmin id = false) {newId : Uuid}
    {body : Option CreateAssetRequest}
    (h : serveAssetWrite db now (some id) (.post newId body) = .ok db') :
    StaysInScope rows db db' := by
  rw [serveAssetWrite, Except.bind_eq_ok] at h
  obtain ⟨id', hid', h⟩ := h
  obtain rfl := Option.some.inj (requirePermission_eq_ok hid').1
  rcases body with _ | req
  · cases h
  rw [Handler.createAsset, Except.ite_error_eq_ok, Except.bind_eq_ok] at h
  obtain ⟨-, _, hauth, h⟩ := h
  obtain ⟨hfresh, rfl⟩ := createAsset_eq_ok (Except.mapError_eq_ok.mp h)
  intro a' ha' hnew
  rcases List.mem_append.mp ha' with hold | hadded
  · exact absurd hold hnew
  · obtain rfl := List.mem_singleton.mp hadded
    refine ⟨authorizeAssetWrite_eq_ok hbuilt ha hauth, ?_⟩
    intro a hmem hid
    exact absurd hid (hfresh a hmem)

/-! ### Updating -/

/-- An update leaves the source and assigns the env of the request. -/
lemma env_assignAsset (req : UpdateAssetRequest) (current row : AssetRow) :
    (assignAsset now (req.applyTo current) row).env = req.env.getD current.env ∧
      (assignAsset now (req.applyTo current) row).source = row.source ∧
      (assignAsset now (req.applyTo current) row).id = row.id := ⟨rfl, rfl, rfl⟩

lemma staysInScope_patch_iff (hkeys : (db.cmdbAsset.map (·.id)).Nodup)
    (hbuilt : BuiltFrom rows id) (ha : isAdmin id = false) {assetID : String}
    {body : Option UpdateAssetRequest}
    (h : serveAssetWrite db now (some id) (.patch assetID body) = .ok db') :
    StaysInScope rows db db' ↔ (AssetWrite.patch assetID body).KeepsScope rows db := by
  rw [serveAssetWrite, Except.bind_eq_ok] at h
  obtain ⟨_, hgate, h⟩ := h
  rcases body with _ | req
  · cases h
  obtain ⟨a, hget, hscope⟩ := withScopedAssetWrite_eq_ok hbuilt ha hgate
  obtain ⟨a', hget', rfl⟩ := updateAsset_eq_ok (Except.mapError_eq_ok.mp h)
  obtain rfl : a = a' := Except.ok.inj (hget.symm.trans hget')
  obtain ⟨hid, hmem, hlive⟩ := getAsset_eq_ok hget
  -- keys are unique, so the row that is updated is the one that was read
  have honly : ∀ b ∈ db.cmdbAsset, b.id = a.id → b = a := fun b hb h =>
    List.inj_on_of_nodup_map hkeys hb hmem h
  have hrow : assignAsset now (req.applyTo a) a ∈ updateWhere (fun b => b.id == a.id && b.live)
      (assignAsset now (req.applyTo a)) db.cmdbAsset :=
    mem_updateWhere.mpr ⟨a, hmem, Or.inl ⟨by simp [hlive], rfl⟩⟩
  constructor
  · intro hstays env henv b hb _ hid'
    obtain rfl := honly b hb (Option.some.inj (hid'.symm.trans hid))
    have hafter : WriteScope rows (req.env.getD b.env) b.source := by
      by_cases hnew : assignAsset now (req.applyTo b) b ∈ db.cmdbAsset
      · -- a row that did not change has the env that it had
        have hsame := honly _ hnew (env_assignAsset req b b).2.2
        have henv' := congrArg AssetRow.env hsame
        rw [(env_assignAsset req b b).1] at henv'
        rw [henv']
        exact hscope
      · exact (hstays _ hrow hnew).1
    rw [henv] at hafter
    exact hafter
  · intro hkeeps b' hb' hnew
    obtain ⟨b, hb, ⟨hhit, rfl⟩ | ⟨-, rfl⟩⟩ := mem_updateWhere.mp hb'
    · simp only [Bool.and_eq_true, beq_iff_eq] at hhit
      obtain rfl := honly b hb hhit.1
      refine ⟨?_, ?_⟩
      · show WriteScope rows (req.env.getD b.env) b.source
        cases henv : req.env with
        | none => exact hscope
        | some env => exact hkeeps env henv b hb hlive hid
      · intro c hc hcid
        rw [honly c hc hcid]
        exact hscope
    · exact absurd hb hnew

end

/-- **Scoped writes of assets.**  For a user who is no admin, every row that a served request
changes is in one of their `cmdb.asset:write` scopes after the change and, if it existed, before
it, exactly when the request assigns no env that takes its asset out of the scopes.  An unscoped
row of the permission is a scope that everything is in. -/
theorem scoped_write_iff {user : User} {rows : List PermissionRow} {id : UserIdentity}
    (hid : identityOfRows user rows = .ok id) (ha : isAdmin id = false) {db db' : Db}
    (hkeys : (db.cmdbAsset.map (·.id)).Nodup) {now : Time} {req : AssetWrite}
    (h : serveAssetWrite db now (some id) req = .ok db') :
    StaysInScope rows db db' ↔ req.KeepsScope rows db := by
  obtain ⟨hbuilt, -⟩ := builtFrom_of_identityOfRows hid
  cases req with
  | post newId body => exact iff_of_true (staysInScope_post hbuilt ha h) trivial
  | patch assetID body => exact staysInScope_patch_iff hkeys hbuilt ha h

/-- The identity of a user who may write assets outside production. -/
def devWriter : UserIdentity :=
  let outsideProd : Scope := [{ dimension := "env", op := .notIn, values := ["prod"] }]
  { user := { id := Uuid.replicate 1 }, roles := ["dev-ops"], permissions := ["cmdb.asset:write"]
    scopedPermissions :=
      [{ permission := "cmdb.asset:write", resource := "cmdb.asset", action := "write",
         scopes := [outsideProd],
         sources := [{ kind := "role", ref := "dev-ops", scope := outsideProd }] }] }

lemma identityOfRows_devWriter :
    identityOfRows { id := Uuid.replicate 1 } sampleRows = .ok devWriter := rfl

lemma allScoped_sampleRows : AllScoped sampleRows "cmdb.asset:write" := by
  intro row hrow hh
  obtain rfl := List.mem_singleton.mp hrow
  cases hh.2

/-- What `devWriter` may write is in the scope. -/
lemma writeScope_devWriter {env source : String} :
    WriteScope sampleRows env source ↔ (devWriter.authorize "cmdb.asset:write"
      (some (Attrs.ofAsset env source))).allowed = true :=
  ((builtFrom_of_identityOfRows identityOfRows_devWriter).1.allowed_iff_satisfiesScope
    (by decide) _ _).symm

/-- One asset in development, `22222222-2222-2222-2222-222222222222`. -/
def oneDevAsset : Db :=
  { cmdbAsset := [{ id := Uuid.replicate 2, type := "vm", name := "dev-1", env := "dev" }] }

/-- `PATCH` of that asset with the env. -/
def moveTo (env : String) : AssetWrite :=
  .patch "22222222-2222-2222-2222-222222222222" (some { env := some env })

/-- `oneDevAsset` after the request. -/
def oneDevAssetIn (env : String) : Db :=
  { cmdbAsset := [{ id := Uuid.replicate 2, type := "vm", name := "dev-1", env := env,
                    updatedAt := 5 }] }

theorem scoped_write_iff_staging :
    serveAssetWrite oneDevAsset 5 (some devWriter) (moveTo "staging") =
        .ok (oneDevAssetIn "staging") ∧
      StaysInScope sampleRows oneDevAsset (oneDevAssetIn "staging") := by
  have hserve : serveAssetWrite oneDevAsset 5 (some devWriter) (moveTo "staging") =
      .ok (oneDevAssetIn "staging") := by rfl
  refine ⟨hserve,
    (scoped_write_iff identityOfRows_devWriter (by decide) (by decide) hserve).mpr ?_⟩
  intro env henv a ha _ _
  obtain rfl := Option.some.inj henv
  obtain rfl := List.mem_singleton.mp ha
  exact writeScope_devWriter.mpr (by decide)

/-- The same user moves the asset to production, where they may write nothing. -/
theorem moves_out_of_scope :
    identityOfRows { id := Uuid.replicate 1 } sampleRows = .ok devWriter ∧
      isAdmin devWriter = false ∧ AllScoped sampleRows "cmdb.asset:write" ∧
      serveAssetWrite oneDevAsset 5 (some devWriter) (moveTo "prod") =
        .ok (oneDevAssetIn "prod") ∧
      ¬ StaysInScope sampleRows oneDevAsset (oneDevAssetIn "prod") := by
  have hserve : serveAssetWrite oneDevAsset 5 (some devWriter) (moveTo "prod") =
      .ok (oneDevAssetIn "prod") := by rfl
  have hbuilt := (builtFrom_of_identityOfRows identityOfRows_devWriter).1
  refine ⟨identityOfRows_devWriter, by decide, allScoped_sampleRows, hserve, ?_⟩
  rw [moveTo] at hserve
  rw [staysInScope_patch_iff (by decide) hbuilt (by decide) hserve]
  intro hkeeps
  have hprod := hkeeps "prod" rfl _ (List.mem_singleton_self _) rfl (by decide)
  exact absurd (writeScope_devWriter.mp hprod) (by decide)

end OpsPlatform.Cmdb
