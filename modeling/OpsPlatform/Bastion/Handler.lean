/-
The HTTP handlers of the bastion package (`internal/bastion/handler.go`) with the gates of
their routes.

`createGrant` and `approveRequest` look at the target asset before they write.  They take
the database twice: `seen` is the state of that check and `db` the state of the write.  In a
sequential run the two are the same.
-/
import OpsPlatform.Bastion.Repository
import OpsPlatform.Iam.Middleware
import OpsPlatform.Lib.Run

namespace OpsPlatform.Bastion

open Lib Lib.Run Iam

/-- `dec.Allowed && (found || !dec.Partial)`: the identity may act on an asset whose env and
source are `found`, or on one that was not found. -/
def scopeAdmits (identity : UserIdentity) (permission : String)
    (found : Option (String × String)) : Bool :=
  let attrs := found.map fun (env, source) => Attrs.ofAsset env source
  let dec := identity.authorize permission attrs
  dec.allowed && (found.isSome || !dec.isPartial)

namespace Handler

/-- `defaultMaxDurationSecs`. -/
def maxDurationSecs : Int := 12 * 3600

/-- The duration that stands in for one that is absent or not positive. -/
def effectiveDuration (seconds : Int) : Int := if seconds ≤ 0 then 3600 else seconds

/-- `nowPlusSeconds`. -/
def nowPlusSeconds (now : Time) (seconds : Int) : Time := now + seconds * second

def enforceGrantScope (identity : UserIdentity) (found : Option (String × String)) :
    Except HttpError Unit :=
  if scopeAdmits identity "bastion.grant:write" found then .ok ()
  else .error ⟨403, "permission denied", none⟩

/-! ### The handlers -/

/-- `createGrantRequest`; absent fields are zero. -/
structure CreateGrantRequest where
  userID : String := ""
  assetID : String := ""
  reason : String := ""
  durationSeconds : Int := 0

/-- `createGrant`.  A body that does not decode is `none`. -/
def createGrant (seen db : Db) (now : Time) (newId : Uuid) (identity : UserIdentity)
    (body : Option CreateGrantRequest) : Except HttpError (Db × GrantRow) :=
  match body with
  | none => .error ⟨400, "invalid json body", none⟩
  | some req =>
    if req.userID = "" ∨ req.assetID = "" then
      .error ⟨400, "user_id and asset_id are required", none⟩
    else if req.userID = identity.user.id.toText then .error ⟨403, errSelfGrantDenied, none⟩
    else do
      enforceGrantScope identity (assetScopeAttrs seen req.assetID)
      if effectiveDuration req.durationSeconds > maxDurationSecs then
        .error ⟨400, "duration exceeds maximum", none⟩
      else
        let expiresAt := nowPlusSeconds now (effectiveDuration req.durationSeconds)
        (Bastion.createGrant db now newId
          { userID := req.userID, assetID := req.assetID, reason := req.reason, expiresAt }
          identity.user.id).mapError fun e => ⟨400, e.message, none⟩

/-- `revokeGrant`.  The body is optional: `reason` is empty without one. -/
def revokeGrant (db : Db) (now : Time) (identity : UserIdentity) (grantID reason : String) :
    Except HttpError Db :=
  (Bastion.revokeGrant db now
    { grantID, revokedByID := identity.user.id, revokeReason := reason }
    identity.user.name).mapError fun
      | .grantNotFound => ⟨404, RepoError.grantNotFound.message, none⟩
      | e => ⟨500, e.message, none⟩

/-- `createRequestPayload`. -/
structure CreateRequestPayload where
  assetID : String := ""
  reason : String := ""
  durationSeconds : Int := 0

/-- `createRequest`. -/
def createRequest (db : Db) (now : Time) (newId : Uuid) (identity : UserIdentity)
    (body : Option CreateRequestPayload) : Except HttpError (Db × RequestRow) :=
  match body with
  | none => .error ⟨400, "invalid json body", none⟩
  | some req =>
    if req.assetID = "" then .error ⟨400, "asset_id is required", none⟩
    else if effectiveDuration req.durationSeconds > maxDurationSecs then
      .error ⟨400, "duration exceeds maximum", none⟩
    else
      (Bastion.createRequest db now newId
        { userID := identity.user.id, assetID := req.assetID, reason := req.reason,
          requestedDurationSeconds := effectiveDuration req.durationSeconds }).mapError
        fun e => ⟨500, e.message, none⟩

/-- The response to a decision that the repository refused. -/
def conflictError : RepoError → HttpError
  | .requestNotPending => ⟨409, RepoError.requestNotPending.message, none⟩
  | e => ⟨500, e.message, none⟩

/-- The response to an approval that the repository refused. -/
def approvalError : RepoError → HttpError
  | .requestNotFound => ⟨404, RepoError.requestNotFound.message, none⟩
  | .selfApprovalDenied => ⟨403, RepoError.selfApprovalDenied.message, none⟩
  | e => conflictError e

/-- `approveRequest`.  The body is optional. -/
def approveRequest (seen db : Db) (now : Time) (newId : Uuid) (identity : UserIdentity)
    (requestID reason : String) : Except HttpError (Db × RequestRow × GrantRow) := do
  let found ← (requestAssetScopeAttrs seen requestID).mapError fun e => ⟨500, e.message, none⟩
  enforceGrantScope identity found
  (Bastion.approveRequest db now newId
    { requestID, decidedByID := identity.user.id, decisionReason := reason }
    identity.user.name).mapError approvalError

/-- `rejectRequest`.  The body is optional. -/
def rejectRequest (db : Db) (now : Time) (identity : UserIdentity) (requestID reason : String) :
    Except HttpError Db :=
  (Bastion.rejectRequest db now
    { requestID, decidedByID := identity.user.id, decisionReason := reason }
    identity.user.name).mapError conflictError

/-- `cancelRequest`. -/
def cancelRequest (db : Db) (now : Time) (identity : UserIdentity) (requestID : String) :
    Except HttpError Db :=
  (Bastion.cancelRequest db now requestID identity.user.id).mapError conflictError

/-! ### What a handler that succeeds has done -/

lemma enforceGrantScope_eq_ok {identity : UserIdentity} {found : Option (String × String)}
    {u : Unit} : enforceGrantScope identity found = .ok u ↔
      scopeAdmits identity "bastion.grant:write" found = true := by
  rw [enforceGrantScope]
  split <;> simp_all

/-- The guard of `createGrant` compares texts; the row it inserts holds their values. -/
lemma createGrant_eq_ok {seen db db' : Db} {now : Time} {newId : Uuid} {identity : UserIdentity}
    {body : Option CreateGrantRequest} {g : GrantRow}
    (h : createGrant seen db now newId identity body = .ok (db', g)) :
    ∃ req, body = some req ∧ req.userID ≠ identity.user.id.toText ∧
      scopeAdmits identity "bastion.grant:write" (assetScopeAttrs seen req.assetID) = true ∧
      db' = { db with bastionGrant := db.bastionGrant ++ [g] } ∧
      Uuid.parse req.userID = some g.userId ∧ Uuid.parse req.assetID = some g.assetId ∧
      g.grantedById = identity.user.id := by
  rcases body with _ | req
  · cases h
  · rw [createGrant, Except.ite_error_eq_ok, Except.ite_error_eq_ok, Except.bind_eq_ok] at h
    obtain ⟨-, hself, _, hscope, h⟩ := h
    rw [Except.ite_error_eq_ok, Except.mapError_eq_ok] at h
    exact ⟨req, rfl, hself, enforceGrantScope_eq_ok.mp hscope, Bastion.createGrant_eq_ok h.2⟩

lemma approveRequest_eq_ok {seen db db' : Db} {now : Time} {newId : Uuid}
    {identity : UserIdentity} {requestID reason : String} {r' : RequestRow} {g : GrantRow}
    (h : approveRequest seen db now newId identity requestID reason = .ok (db', r', g)) :
    (∃ found, requestAssetScopeAttrs seen requestID = .ok found ∧
      scopeAdmits identity "bastion.grant:write" found = true) ∧
      Bastion.approveRequest db now newId
        { requestID, decidedByID := identity.user.id, decisionReason := reason }
        identity.user.name = .ok (db', r', g) := by
  rw [approveRequest, Except.bind_eq_ok] at h
  obtain ⟨found, hfound, h⟩ := h
  rw [Except.bind_eq_ok] at h
  obtain ⟨_, hscope, h⟩ := h
  exact ⟨⟨found, Except.mapError_eq_ok.mp hfound, enforceGrantScope_eq_ok.mp hscope⟩,
    Except.mapError_eq_ok.mp h⟩

/-- `createGrant` leaves the request of its grant empty. -/
lemma exists_createGrant {seen db db' : Db} {now : Time} {newId : Uuid} {identity : UserIdentity}
    {body : Option CreateGrantRequest} {g : GrantRow}
    (h : createGrant seen db now newId identity body = .ok (db', g)) :
    ∃ input : CreateGrantInput, input.requestID = "" ∧
      Bastion.createGrant db now newId input identity.user.id = .ok (db', g) := by
  rcases body with _ | req
  · cases h
  · rw [createGrant, Except.ite_error_eq_ok, Except.ite_error_eq_ok, Except.bind_eq_ok] at h
    obtain ⟨-, -, _, -, h⟩ := h
    rw [Except.ite_error_eq_ok, Except.mapError_eq_ok] at h
    exact ⟨_, rfl, h.2⟩

lemma exists_createRequest {db db' : Db} {now : Time} {newId : Uuid} {identity : UserIdentity}
    {body : Option CreateRequestPayload} {r : RequestRow}
    (h : createRequest db now newId identity body = .ok (db', r)) :
    ∃ input, Bastion.createRequest db now newId input = .ok (db', r) := by
  rcases body with _ | req
  · cases h
  · rw [createRequest, Except.ite_error_eq_ok, Except.ite_error_eq_ok, Except.mapError_eq_ok] at h
    exact ⟨_, h.2.2⟩

/-- `createRequest` never looks at a grant. -/
lemma createRequest_eq_ok {db db' : Db} {now : Time} {newId : Uuid} {identity : UserIdentity}
    {body : Option CreateRequestPayload} {r : RequestRow}
    (h : createRequest db now newId identity body = .ok (db', r)) :
    db' = { db with bastionRequest := db.bastionRequest ++ [r] } := by
  obtain ⟨input, hr⟩ := exists_createRequest h
  exact (Bastion.createRequest_eq_ok hr).2.2

end Handler

end OpsPlatform.Bastion
