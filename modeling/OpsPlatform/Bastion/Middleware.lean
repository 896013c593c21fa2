/-
The gate of the ticket routes (`internal/bastion/middleware.go`), and what the scope checks of
the package guarantee.

The evaluator answers the general question "could this user ever" when it is given no
attributes.  The three callers combine its answer with the outcome of the lookup in the same
way, `scopeAdmits`; what that combination means is said once, in terms of the rows of the
user's roles, and used for each of them.
-/
import OpsPlatform.Bastion.Handler

namespace OpsPlatform.Bastion

open Lib Lib.Run Lib.Text Iam

/-- `RequireSessionAuthorization`.  `seen` is the state that `AssetScopeAttrs` reads and `db`
the one that `FindActiveGrant` reads. -/
def requireSessionAuthorization (seen db : Db) (now : Time) (action assetID : String)
    (ctx : Option UserIdentity) : Except HttpError UserIdentity :=
  match ctx with
  | none => .error ⟨401, "missing identity", none⟩
  | some identity =>
    if isAdmin identity then .ok identity
    else if assetID = "" then .error ⟨400, "asset id required", none⟩
    else if scopeAdmits identity ("bastion.session:" ++ action) (assetScopeAttrs seen assetID) then
      .ok identity
    else
      match findActiveGrant db now identity.user.id assetID with
      | .error .grantNotFound => .error ⟨403, "no active grant for this asset", some assetID⟩
      | .error e => .error ⟨500, e.message, none⟩
      | .ok _ => .ok identity

/-- There is an active grant for the user on the asset that the text denotes. -/
def HasActiveGrant (db : Db) (now : Time) (userId : Uuid) (assetID : String) : Prop :=
  ∃ assetId, Uuid.parse assetID = some assetId ∧
    ∃ g ∈ db.bastionGrant, isActiveGrantFor now userId assetId g = true

/-- The asset is live, and some scope of the permission holds of its env and source. -/
def InScope (rows : List PermissionRow) (perm : String) (a : Cmdb.AssetRow) : Prop :=
  a.live = true ∧ SatisfiesScope rows perm (Attrs.ofAsset a.env a.source)

/-! ### The lookups -/

lemma exists_of_assetScopeAttrs {db : Db} {assetID env source : String}
    (h : assetScopeAttrs db assetID = some (env, source)) :
    ∃ a ∈ db.cmdbAsset, a.live = true ∧ a.id.toText = trimSpace assetID ∧ a.env = env ∧
      a.source = source := by
  rw [assetScopeAttrs, Option.map_eq_some_iff] at h
  obtain ⟨a, ha, heq⟩ := h
  have hp := List.find?_some ha
  simp only [Bool.and_eq_true, beq_iff_eq] at hp
  simp only [Prod.mk.injEq] at heq
  exact ⟨a, List.mem_of_find?_eq_some ha, hp.1, hp.2, heq.1, heq.2⟩

lemma exists_of_requestAssetScopeAttrs {db : Db} {requestID env source : String}
    (h : requestAssetScopeAttrs db requestID = .ok (some (env, source))) :
    ∃ id r, Uuid.parse (trimSpace requestID) = some id ∧
      db.bastionRequest.find? (·.id == id) = some r ∧
      ∃ a ∈ db.cmdbAsset, a.live = true ∧ a.id = r.assetId ∧ a.env = env ∧ a.source = source := by
  rw [requestAssetScopeAttrs, Except.bind_eq_ok] at h
  obtain ⟨id, hid, h⟩ := h
  have h' := Except.ok.inj h
  rw [Option.bind_eq_some_iff] at h'
  obtain ⟨r, hr, h'⟩ := h'
  rw [Option.map_eq_some_iff] at h'
  obtain ⟨a, ha, heq⟩ := h'
  have hp := List.find?_some ha
  simp only [Bool.and_eq_true, beq_iff_eq] at hp
  simp only [Prod.mk.injEq] at heq
  exact ⟨id, r, castUuid_eq_ok.mp hid, hr, a, List.mem_of_find?_eq_some ha, hp.2, hp.1, heq.1,
    heq.2⟩

lemma hasActiveGrant_of_findActiveGrant {db : Db} {now : Time} {userID : Uuid}
    {assetID : String} {g : GrantRow} (h : findActiveGrant db now userID assetID = .ok g) :
    HasActiveGrant db now userID assetID := by
  have h' := h
  rw [findActiveGrant, Except.bind_eq_ok] at h'
  obtain ⟨assetId, hid, -⟩ := h'
  rw [castUuid_eq_ok] at hid
  exact ⟨assetId, hid, (findActiveGrant_isOk_iff hid).mp ⟨g, h⟩⟩

/-! ### The combination of verdict and lookup -/

section

variable {rows : List PermissionRow} {id : UserIdentity} {perm : String}

/-- With scoped rows only, the check passes only for an asset that was found and that one of
the scopes admits. -/
lemma scopeAdmits_of_allScoped (h : BuiltFrom rows id) (ha : isAdmin id = false)
    (hs : AllScoped rows perm) {found : Option (String × String)}
    (hadm : scopeAdmits id perm found = true) :
    ∃ env source, found = some (env, source) ∧
      SatisfiesScope rows perm (Attrs.ofAsset env source) := by
  rw [scopeAdmits, Bool.and_eq_true] at hadm
  obtain ⟨hallowed, hfound⟩ := hadm
  rcases found with _ | ⟨env, source⟩
  · have hpartialFlag := h.isPartial_of_allScoped ha hs hallowed
    simp [hpartialFlag] at hfound
  · exact ⟨env, source, rfl, (h.allowed_iff_satisfiesScope ha perm _).mp hallowed⟩

/-- Admins and the holders of an unscoped row always pass the check. -/
lemma scopeAdmits_of_unscoped (h : BuiltFrom rows id)
    (hu : isAdmin id = true ∨ ∃ row ∈ rows, row.Holds perm [])
    (found : Option (String × String)) : scopeAdmits id perm found = true := by
  have key : ∀ attrs, (id.authorize perm attrs).allowed = true ∧
      (id.authorize perm attrs).isPartial = false := by
    intro attrs
    rcases hu with ha | ⟨row, hrow, hh⟩
    · exact authorize_of_isAdmin ha attrs
    · exact h.authorize_of_unscoped hrow hh attrs
  simp only [scopeAdmits, key, Bool.not_false, Bool.or_true, Bool.and_self]

end

/-! ### The three callers -/

/-- The gate lets a user pass who is an admin, whose scope check passes, or who has an active
grant. -/
lemma requireSessionAuthorization_eq_ok {seen db : Db} {now : Time} {action assetID : String}
    {identity identity' : UserIdentity}
    (h : requireSessionAuthorization seen db now action assetID (some identity) =
      .ok identity') :
    isAdmin identity = true ∨
      scopeAdmits identity ("bastion.session:" ++ action) (assetScopeAttrs seen assetID) = true ∨
      HasActiveGrant db now identity.user.id assetID := by
  rw [requireSessionAuthorization] at h
  split at h
  · next ha => exact Or.inl ha
  · rw [Except.ite_error_eq_ok] at h
    obtain ⟨-, h⟩ := h
    split at h
    · next hs => exact Or.inr (Or.inl hs)
    · split at h
      · cases h
      · cases h
      · next g hg => exact Or.inr (Or.inr (hasActiveGrant_of_findActiveGrant hg))

section

variable {user : User} {rows : List PermissionRow} {id : UserIdentity}

lemma connect_of_allScoped (hid : identityOfRows user rows = .ok id) (ha : isAdmin id = false)
    (hs : AllScoped rows "bastion.session:connect") {seen db : Db} {now : Time}
    {assetID : String} {id' : UserIdentity}
    (h : requireSessionAuthorization seen db now "connect" assetID (some id) = .ok id')
    (hgrant : ¬ HasActiveGrant db now user.id assetID) :
    ∃ a ∈ seen.cmdbAsset, a.id.toText = trimSpace assetID ∧
      InScope rows "bastion.session:connect" a := by
  obtain ⟨hbuilt, huser⟩ := builtFrom_of_identityOfRows hid
  rcases requireSessionAuthorization_eq_ok h with hadmin | hadm | hg
  · rw [ha] at hadmin
    cases hadmin
  · obtain ⟨env, source, hfound, hsat⟩ := scopeAdmits_of_allScoped hbuilt ha hs hadm
    obtain ⟨a, hmem, hlive, htext, rfl, rfl⟩ := exists_of_assetScopeAttrs hfound
    exact ⟨a, hmem, htext, hlive, hsat⟩
  · rw [huser] at hg
    exact absurd hg hgrant

/-- The check finds the asset by its text and the row stores what the text denotes; these are
the same asset. -/
lemma createGrant_of_allScoped (hid : identityOfRows user rows = .ok id)
    (ha : isAdmin id = false) (hs : AllScoped rows "bastion.grant:write") {seen db db' : Db}
    {now : Time} {newId : Uuid} {body : Option Handler.CreateGrantRequest} {g : GrantRow}
    (h : Handler.createGrant seen db now newId id body = .ok (db', g)) :
    ∃ a ∈ seen.cmdbAsset, a.id = g.assetId ∧ InScope rows "bastion.grant:write" a := by
  obtain ⟨hbuilt, -⟩ := builtFrom_of_identityOfRows hid
  obtain ⟨req, -, -, hadm, -, -, hasset, -⟩ := Handler.createGrant_eq_ok h
  obtain ⟨env, source, hfound, hsat⟩ := scopeAdmits_of_allScoped hbuilt ha hs hadm
  obtain ⟨a, hmem, hlive, htext, rfl, rfl⟩ := exists_of_assetScopeAttrs hfound
  have heq : g.assetId = a.id := Uuid.eq_of_trimSpace_eq_toText hasset htext.symm
  exact ⟨a, hmem, heq.symm, hlive, hsat⟩

/-- Between the check and the write other calls may run; they do not move a request to another
asset. -/
lemma approveRequest_of_allScoped (hid : identityOfRows user rows = .ok id)
    (ha : isAdmin id = false) (hs : AllScoped rows "bastion.grant:write") {seen db' : Db}
    {ws : List Write} {now : Time} {newId : Uuid} {requestID reason : String} {r' : RequestRow}
    {g : GrantRow}
    (h : Handler.approveRequest seen (run Write.apply seen ws) now newId id requestID reason =
      .ok (db', r', g)) :
    ∃ a ∈ seen.cmdbAsset, a.id = g.assetId ∧ InScope rows "bastion.grant:write" a := by
  obtain ⟨hbuilt, -⟩ := builtFrom_of_identityOfRows hid
  obtain ⟨⟨found, hfound, hadm⟩, happ⟩ := Handler.approveRequest_eq_ok h
  obtain ⟨rid, r, hrid, hr, -, -, rfl, -⟩ := approveRequest_eq_ok happ
  obtain ⟨env, source, rfl, hsat⟩ := scopeAdmits_of_allScoped hbuilt ha hs hadm
  obtain ⟨rid', r₀, hrid', hr₀, a, hmem, hlive, hasset, rfl, rfl⟩ :=
    exists_of_requestAssetScopeAttrs hfound
  have hsame : rid' = rid := by
    rw [Uuid.trimSpace_of_parse hrid, hrid] at hrid'
    exact (Option.some.inj hrid').symm
  subst hsame
  have htarget : r.assetId = r₀.assetId := assetId_of_run hr₀ hr
  exact ⟨a, hmem, hasset.trans htarget.symm, hlive, hsat⟩

/-- **Scopes fail closed.**  For a user who is no admin and whose rows for the permission are
all scoped: the ticket gate passes without an active grant only for a live asset in one of the
scopes, and `createGrant` and `approveRequest` insert a grant only for an asset that was live
and in one of the scopes when they checked it; what cannot be resolved is refused.  Admins and
the holders of an unscoped row are never refused by the check. -/
theorem scope_fails_closed (hid : identityOfRows user rows = .ok id) :
    (isAdmin id = false → AllScoped rows "bastion.session:connect" →
      ∀ seen db now assetID id',
        requireSessionAuthorization seen db now "connect" assetID (some id) = .ok id' →
        ¬ HasActiveGrant db now user.id assetID →
        ∃ a ∈ seen.cmdbAsset, a.id.toText = trimSpace assetID ∧
          InScope rows "bastion.session:connect" a) ∧
    (isAdmin id = false → AllScoped rows "bastion.grant:write" →
      (∀ seen db now newId body db' g,
        Handler.createGrant seen db now newId id body = .ok (db', g) →
        ∃ a ∈ seen.cmdbAsset, a.id = g.assetId ∧ InScope rows "bastion.grant:write" a) ∧
      (∀ seen ws now newId requestID reason db' r g,
        Handler.approveRequest seen (run Write.apply seen ws) now newId id requestID reason =
          .ok (db', r, g) →
        ∃ a ∈ seen.cmdbAsset, a.id = g.assetId ∧ InScope rows "bastion.grant:write" a) ∧
      Handler.enforceGrantScope id none = .error ⟨403, "permission denied", none⟩) ∧
    (isAdmin id = true ∨ (∃ row ∈ rows, row.Holds "bastion.session:connect" []) →
      ∀ seen db now assetID, assetID ≠ "" →
        requireSessionAuthorization seen db now "connect" assetID (some id) = .ok id) ∧
    (isAdmin id = true ∨ (∃ row ∈ rows, row.Holds "bastion.grant:write" []) →
      ∀ found, Handler.enforceGrantScope id found = .ok ()) := by
  have hbuilt := (builtFrom_of_identityOfRows hid).1
  refine ⟨?_, ?_, ?_, ?_⟩
  · intro ha hs seen db now assetID id' h hgrant
    exact connect_of_allScoped hid ha hs h hgrant
  · intro ha hs
    refine ⟨?_, ?_, ?_⟩
    · intro seen db now newId body db' g h
      exact createGrant_of_allScoped hid ha hs h
    · intro seen ws now newId requestID reason db' r g h
      exact approveRequest_of_allScoped hid ha hs h
    -- without attributes no scope can be satisfied
    · rw [Handler.enforceGrantScope, if_neg]
      intro hadm
      obtain ⟨env, source, hnone, -⟩ := scopeAdmits_of_allScoped hbuilt ha hs hadm
      cases hnone
  · intro hu seen db now assetID hne
    have hadm := scopeAdmits_of_unscoped hbuilt hu (assetScopeAttrs seen assetID)
    simp only [requireSessionAuthorization]
    split
    · rfl
    · exact if_pos hadm
  · intro hu found
    exact Handler.enforceGrantScope_eq_ok.mpr (scopeAdmits_of_unscoped hbuilt hu found)

end

/-- A user who may connect to, and approve grants for, assets outside production. -/
def devRows : List PermissionRow :=
  let outsideProd := some (Json.arr [.obj [("dimension", .str "env"), ("op", .str "not_in"),
    ("values", .arr [.str "prod"])]])
  [{ role := "dev", resource := some "bastion.session", action := some "connect",
     scopeRaw := outsideProd },
   { role := "dev", resource := some "bastion.grant", action := some "write",
     scopeRaw := outsideProd }]

/-- One asset in development, `22222222-2222-2222-2222-222222222222`. -/
def devDb : Db :=
  { cmdbAsset := [{ id := Uuid.replicate 2, type := "vm", name := "dev-1", env := "dev" }] }

/-- The identity that `devRows` give. -/
def devIdentity : UserIdentity :=
  let outsideProd : Scope := [{ dimension := "env", op := .notIn, values := ["prod"] }]
  let source : PermissionSource := { kind := "role", ref := "dev", scope := outsideProd }
  { user := { id := Uuid.replicate 1 }, roles := ["dev"]
    permissions := ["bastion.grant:write", "bastion.session:connect"]
    scopedPermissions :=
      [{ permission := "bastion.grant:write", resource := "bastion.grant", action := "write",
         scopes := [outsideProd], sources := [source] },
       { permission := "bastion.session:connect", resource := "bastion.session",
         action := "connect", scopes := [outsideProd], sources := [source] }] }

theorem scope_fails_closed_devRows :
    identityOfRows { id := Uuid.replicate 1 } devRows = .ok devIdentity ∧
      AllScoped devRows "bastion.session:connect" ∧
      requireSessionAuthorization devDb devDb 0 "connect"
        "22222222-2222-2222-2222-222222222222" (some devIdentity) = .ok devIdentity ∧
      ∃ a ∈ devDb.cmdbAsset, a.id.toText = trimSpace "22222222-2222-2222-2222-222222222222" ∧
        InScope devRows "bastion.session:connect" a := by
  have hid : identityOfRows { id := Uuid.replicate 1 } devRows = .ok devIdentity := rfl
  have hscoped : AllScoped devRows "bastion.session:connect" := by
    intro row hrow hh
    simp only [devRows, List.mem_cons, List.not_mem_nil, or_false] at hrow
    rcases hrow with rfl | rfl
    · cases hh.2
    · cases hh.2
  have hpass : requireSessionAuthorization devDb devDb 0 "connect"
      "22222222-2222-2222-2222-222222222222" (some devIdentity) = .ok devIdentity := by decide
  refine ⟨hid, hscoped, hpass, ?_⟩
  refine (scope_fails_closed hid).1 (by decide) hscoped devDb devDb 0 _ _ hpass ?_
  rintro ⟨assetId, -, g, hg, -⟩
  simp [devDb] at hg

end OpsPlatform.Bastion
