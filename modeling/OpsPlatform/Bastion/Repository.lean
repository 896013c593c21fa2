/-
The bastion repository (`internal/bastion/repository.go`), one call at a time.

A call reads and writes the whole database at one instant `now`; a call that returns an error
leaves it as it was.  Identifiers that the program draws with `uuid.NewString` are arguments.
`Bastion.Lifecycle` takes the same statements apart and lets calls interleave.
-/
import OpsPlatform.Db
import OpsPlatform.Lib.Outcome
import OpsPlatform.Lib.Run
import OpsPlatform.Lib.Table

namespace OpsPlatform.Bastion

open Lib Lib.Run Lib.Table Lib.Text

/-- `$1::uuid`. -/
def castUuid (text : String) : Except RepoError Uuid :=
  match Uuid.parse text with
  | some u => .ok u
  | none => .error (.invalidUuid text)

lemma castUuid_eq_ok {text : String} {u : Uuid} :
    castUuid text = .ok u ↔ Uuid.parse text = some u := by
  rw [castUuid]
  cases Uuid.parse text <;> simp

/-! ### Reading -/

/-- `AssetScopeAttrs`: env and source of a live asset, found by the text of its id. -/
def assetScopeAttrs (db : Db) (assetID : String) : Option (String × String) :=
  (db.cmdbAsset.find? fun a => a.live && a.id.toText == trimSpace assetID).map
    fun a => (a.env, a.source)

/-- `RequestAssetScopeAttrs`: the same for the asset of a request, found by the value of the
request's id. -/
def requestAssetScopeAttrs (db : Db) (requestID : String) :
    Except RepoError (Option (String × String)) := do
  let id ← castUuid (trimSpace requestID)
  .ok ((db.bastionRequest.find? (·.id == id)).bind fun r =>
    (db.cmdbAsset.find? fun a => a.id == r.assetId && a.live).map fun a => (a.env, a.source))

/-- The `WHERE` clause of `FindActiveGrant`. -/
def isActiveGrantFor (now : Time) (userId assetId : Uuid) (g : GrantRow) : Bool :=
  g.userId == userId && g.assetId == assetId && g.active now

/-- `FindActiveGrant`: the grant that expires last. -/
def findActiveGrant (db : Db) (now : Time) (userID : Uuid) (assetID : String) :
    Except RepoError GrantRow := do
  let assetId ← castUuid assetID
  match firstBy (fun g h => h.expiresAt ≤ g.expiresAt) (isActiveGrantFor now userID assetId)
      db.bastionGrant with
  | some g => .ok g
  | none => .error .grantNotFound

/-- `SELECT COALESCE(name, '') FROM iam_user`, with every error read as the empty name. -/
def userName (db : Db) (userID : String) : String :=
  match Uuid.parse userID with
  | none => ""
  | some id => ((db.iamUser.find? (·.id == id)).bind (·.name)).getD ""

/-- `SELECT COALESCE(name, '') FROM cmdb_asset`, with every error read as the empty name. -/
def assetName (db : Db) (assetID : String) : String :=
  match Uuid.parse assetID with
  | none => ""
  | some id => ((db.cmdbAsset.find? (·.id == id)).map (·.name)).getD ""

/-! ### Grants -/

structure CreateGrantInput where
  userID : String
  assetID : String
  reason : String
  expiresAt : Time
  requestID : String := ""

/-- The error of a primary key that is taken. -/
def RepoError.duplicateGrant : RepoError :=
  .statement "duplicate key value violates unique constraint \"bastion_grant_pkey\""

/-- `INSERT INTO bastion_grant`, refused when the primary key is taken. -/
def insertGrant (db : Db) (g : GrantRow) : Except RepoError (Db × GrantRow) :=
  if db.bastionGrant.any (·.id == g.id) then .error .duplicateGrant
  else .ok ({ db with bastionGrant := db.bastionGrant ++ [g] }, g)

/-- `$10::uuid` of a request id that is `nil` when its text is blank. -/
def requestIDArg (requestID : String) : Except RepoError (Option Uuid) :=
  if trimSpace requestID ≠ "" then (castUuid requestID).map some else .ok none

/-- The row that `CreateGrant` inserts, with the names that it has read. -/
def grantOfInput (now : Time) (newId : Uuid) (input : CreateGrantInput) (granterID : Uuid)
    (userName assetName granterName : String) : Except RepoError GrantRow := do
  let userId ← castUuid input.userID
  let assetId ← castUuid input.assetID
  let requestId ← requestIDArg input.requestID
  .ok { id := newId, userId, userName, assetId, assetName, grantedById := granterID,
        grantedByName := granterName, reason := input.reason, expiresAt := input.expiresAt,
        requestId, createdAt := now }

/-- `CreateGrant`. -/
def createGrant (db : Db) (now : Time) (newId : Uuid) (input : CreateGrantInput)
    (granterID : Uuid) : Except RepoError (Db × GrantRow) := do
  let g ← grantOfInput now newId input granterID (userName db input.userID)
    (assetName db input.assetID) (userName db granterID.toText)
  insertGrant db g

structure RevokeGrantInput where
  grantID : String
  revokedByID : Uuid
  revokeReason : String

/-- `RevokeGrant`. -/
def revokeGrant (db : Db) (now : Time) (input : RevokeGrantInput) (revokerName : String) :
    Except RepoError Db := do
  let id ← castUuid input.grantID
  let hit : GrantRow → Bool := fun g => g.id == id && g.revokedAt.isNone
  if db.bastionGrant.any hit then
    .ok { db with
          bastionGrant := updateWhere hit
            (fun g => { g with revokedAt := some now, revokedById := some input.revokedByID,
                               revokedByName := revokerName, revokeReason := input.revokeReason })
            db.bastionGrant }
  else .error .grantNotFound

/-! ### Requests -/

structure CreateRequestInput where
  userID : Uuid
  assetID : String
  reason : String
  requestedDurationSeconds : Int

/-- The row that `CreateRequest` inserts, with the names that it has read, unless the column of
the duration refuses its value. -/
def requestOfInput (now : Time) (newId : Uuid) (input : CreateRequestInput)
    (userName assetName : String) : Except RepoError RequestRow := do
  let assetId ← castUuid input.assetID
  if 2147483647 < input.requestedDurationSeconds then
    .error (.statement "value is out of range for type integer")
  else if input.requestedDurationSeconds ≤ 0 then
    .error (.statement "new row violates check constraint on requested_duration_seconds")
  else
    .ok { id := newId, userId := input.userID, userName, assetId, assetName,
          reason := input.reason, requestedDurationSeconds := input.requestedDurationSeconds,
          createdAt := now, updatedAt := now }

/-- The error of a primary key that is taken. -/
def RepoError.duplicateRequest : RepoError :=
  .statement "duplicate key value violates unique constraint \"bastion_request_pkey\""

/-- `CreateRequest`. -/
def createRequest (db : Db) (now : Time) (newId : Uuid) (input : CreateRequestInput) :
    Except RepoError (Db × RequestRow) := do
  let r ← requestOfInput now newId input (userName db input.userID.toText)
    (assetName db input.assetID)
  if db.bastionRequest.any (·.id == newId) then .error .duplicateRequest
  else .ok ({ db with bastionRequest := db.bastionRequest ++ [r] }, r)

structure DecideRequestInput where
  requestID : String
  decidedByID : Uuid
  decisionReason : String

/-- The grant that `ApproveRequest` inserts for the request `r`. -/
def grantOfRequest (now : Time) (newId : Uuid) (input : DecideRequestInput)
    (approverName : String) (r : RequestRow) : GrantRow :=
  { id := newId, userId := r.userId, userName := r.userName, assetId := r.assetId,
    assetName := r.assetName, grantedById := input.decidedByID, grantedByName := approverName,
    reason := input.decisionReason, expiresAt := now + r.requestedDurationSeconds * second,
    requestId := some r.id, createdAt := now }

/-- The assignments of `ApproveRequest` to the request. -/
def RequestRow.approve (r : RequestRow) (now : Time) (grantId : Uuid)
    (input : DecideRequestInput) (approverName : String) : RequestRow :=
  { r with status := .approved, decidedById := some input.decidedByID,
           decidedByName := approverName, decidedAt := some now,
           decisionReason := input.decisionReason, grantId := some grantId, updatedAt := now }

/-- The assignments of `RejectRequest`. -/
def RequestRow.reject (r : RequestRow) (now : Time) (input : DecideRequestInput)
    (deciderName : String) : RequestRow :=
  { r with status := .rejected, decidedById := some input.decidedByID,
           decidedByName := deciderName, decidedAt := some now,
           decisionReason := input.decisionReason, updatedAt := now }

/-- The assignments of `CancelRequest`. -/
def RequestRow.cancel (r : RequestRow) (now : Time) : RequestRow :=
  { r with status := .cancelled, updatedAt := now }

/-- `ApproveRequest`. -/
def approveRequest (db : Db) (now : Time) (newId : Uuid) (input : DecideRequestInput)
    (approverName : String) : Except RepoError (Db × RequestRow × GrantRow) := do
  let id ← castUuid input.requestID
  match db.bastionRequest.find? (·.id == id) with
  | none => .error .requestNotFound
  | some r =>
    if r.status ≠ .pending then .error .requestNotPending
    else if r.userId.toText = input.decidedByID.toText then .error .selfApprovalDenied
    else
      let (db, g) ← insertGrant db (grantOfRequest now newId input approverName r)
      let approve := fun r : RequestRow => r.approve now newId input approverName
      .ok ({ db with bastionRequest := updateWhere (·.id == id) approve db.bastionRequest },
        approve r, g)

/-- `UPDATE bastion_request .. WHERE id = $1::uuid AND ..`, with the error of no row
affected. -/
def decideRequest (db : Db) (requestID : String) (guard : RequestRow → Bool)
    (assign : RequestRow → RequestRow) : Except RepoError Db := do
  let id ← castUuid requestID
  let hit : RequestRow → Bool := fun r => r.id == id && guard r && r.status == .pending
  if db.bastionRequest.any hit then
    .ok { db with bastionRequest := updateWhere hit assign db.bastionRequest }
  else .error .requestNotPending

/-- `RejectRequest`. -/
def rejectRequest (db : Db) (now : Time) (input : DecideRequestInput) (deciderName : String) :
    Except RepoError Db :=
  decideRequest db input.requestID (fun _ => true) fun r => r.reject now input deciderName

/-- `CancelRequest`: only the requester can cancel. -/
def cancelRequest (db : Db) (now : Time) (requestID : String) (userID : Uuid) :
    Except RepoError Db :=
  decideRequest db requestID (fun r => r.userId == userID) fun r => r.cancel now

/-! ### What the calls do -/

lemma insertGrant_eq_ok {db db' : Db} {g g' : GrantRow} (h : insertGrant db g = .ok (db', g')) :
    db' = { db with bastionGrant := db.bastionGrant ++ [g] } ∧ g' = g ∧
      ∀ g₀ ∈ db.bastionGrant, g₀.id ≠ g.id := by
  rw [insertGrant, Except.ite_error_eq_ok] at h
  obtain ⟨hfresh, h⟩ := h
  have h' := Except.ok.inj h
  simp only [Prod.mk.injEq] at h'
  refine ⟨h'.1.symm, h'.2.symm, ?_⟩
  simpa using hfresh

/-- The row is for the values that the texts of the input denote. -/
lemma grantOfInput_eq_ok {now : Time} {newId : Uuid} {input : CreateGrantInput} {granterID : Uuid}
    {userName assetName granterName : String} {g : GrantRow}
    (h : grantOfInput now newId input granterID userName assetName granterName = .ok g) :
    g.id = newId ∧ Uuid.parse input.userID = some g.userId ∧
      Uuid.parse input.assetID = some g.assetId ∧ g.grantedById = granterID ∧
      requestIDArg input.requestID = .ok g.requestId := by
  rw [grantOfInput, Except.bind_eq_ok] at h
  obtain ⟨userId, hu, h⟩ := h
  rw [Except.bind_eq_ok] at h
  obtain ⟨assetId, ha, h⟩ := h
  rw [Except.bind_eq_ok] at h
  obtain ⟨requestId, hr, h⟩ := h
  obtain rfl := Except.ok.inj h
  exact ⟨rfl, castUuid_eq_ok.mp hu, castUuid_eq_ok.mp ha, rfl, hr⟩

/-- `CreateGrant` appends one grant, for the values that the texts of its input denote. -/
lemma createGrant_eq_ok {db db' : Db} {now : Time} {newId : Uuid} {input : CreateGrantInput}
    {granterID : Uuid} {g : GrantRow}
    (h : createGrant db now newId input granterID = .ok (db', g)) :
    db' = { db with bastionGrant := db.bastionGrant ++ [g] } ∧
      Uuid.parse input.userID = some g.userId ∧ Uuid.parse input.assetID = some g.assetId ∧
      g.grantedById = granterID := by
  rw [createGrant, Except.bind_eq_ok] at h
  obtain ⟨g', hg', h⟩ := h
  obtain ⟨hdb, rfl, -⟩ := insertGrant_eq_ok h
  obtain ⟨-, hu, ha, hgranter, -⟩ := grantOfInput_eq_ok hg'
  exact ⟨hdb, hu, ha, hgranter⟩

/-- `ApproveRequest` appends one grant, made from a pending request of another user, under an
id that is not taken. -/
lemma approveRequest_eq_ok {db db' : Db} {now : Time} {newId : Uuid} {input : DecideRequestInput}
    {approverName : String} {r' : RequestRow} {g : GrantRow}
    (h : approveRequest db now newId input approverName = .ok (db', r', g)) :
    ∃ id r, Uuid.parse input.requestID = some id ∧
      db.bastionRequest.find? (·.id == id) = some r ∧ r.status = .pending ∧
      r.userId ≠ input.decidedByID ∧ g = grantOfRequest now newId input approverName r ∧
      (∀ g₀ ∈ db.bastionGrant, g₀.id ≠ newId) ∧
      db' = { db with
              bastionGrant := db.bastionGrant ++ [g]
              bastionRequest := updateWhere (·.id == id)
                (fun r => r.approve now newId input approverName) db.bastionRequest } := by
  rw [approveRequest, Except.bind_eq_ok] at h
  obtain ⟨id, hid, h⟩ := h
  split at h
  · simp at h
  · next r hr =>
    rw [Except.ite_error_eq_ok] at h
    obtain ⟨hpending, h⟩ := h
    rw [Except.ite_error_eq_ok, Except.bind_eq_ok] at h
    obtain ⟨hself, ⟨db₁, g₁⟩, hins, h⟩ := h
    obtain ⟨rfl, rfl, hfresh⟩ := insertGrant_eq_ok hins
    have h' := Except.ok.inj h
    simp only [Prod.mk.injEq] at h'
    obtain ⟨rfl, -, rfl⟩ := h'
    refine ⟨id, r, castUuid_eq_ok.mp hid, hr, not_not.mp hpending, ?_, rfl, hfresh, rfl⟩
    exact fun heq => hself (by rw [heq])

/-- The row is a pending request of the caller. -/
lemma requestOfInput_eq_ok {now : Time} {newId : Uuid} {input : CreateRequestInput}
    {userName assetName : String} {r : RequestRow}
    (h : requestOfInput now newId input userName assetName = .ok r) :
    r.id = newId ∧ r.userId = input.userID ∧ r.status = .pending ∧ r.grantId = none ∧
      r.requestedDurationSeconds = input.requestedDurationSeconds := by
  rw [requestOfInput, Except.bind_eq_ok] at h
  obtain ⟨assetId, -, h⟩ := h
  rw [Except.ite_error_eq_ok, Except.ite_error_eq_ok] at h
  obtain ⟨-, -, h⟩ := h
  obtain rfl := Except.ok.inj h
  exact ⟨rfl, rfl, rfl, rfl, rfl⟩

/-- `CreateRequest` appends one row, under an id that is new. -/
lemma createRequest_eq_ok {db db' : Db} {now : Time} {newId : Uuid} {input : CreateRequestInput}
    {r : RequestRow} (h : createRequest db now newId input = .ok (db', r)) :
    requestOfInput now newId input (userName db input.userID.toText)
        (assetName db input.assetID) = .ok r ∧
      (∀ r₀ ∈ db.bastionRequest, r₀.id ≠ newId) ∧
      db' = { db with bastionRequest := db.bastionRequest ++ [r] } := by
  rw [createRequest, Except.bind_eq_ok] at h
  obtain ⟨r', hr', h⟩ := h
  rw [Except.ite_error_eq_ok] at h
  obtain ⟨hfresh, h⟩ := h
  have h' := Except.ok.inj h
  simp only [Prod.mk.injEq] at h'
  obtain ⟨rfl, rfl⟩ := h'
  exact ⟨hr', by simpa using hfresh, rfl⟩

/-- `RejectRequest` and `CancelRequest` touch only the table of requests, in which they find a
pending one. -/
lemma decideRequest_eq_ok {db db' : Db} {requestID : String} {guard : RequestRow → Bool}
    {assign : RequestRow → RequestRow} (h : decideRequest db requestID guard assign = .ok db') :
    ∃ id, Uuid.parse requestID = some id ∧
      (∃ r ∈ db.bastionRequest, r.id = id ∧ guard r = true ∧ r.status = .pending) ∧
      db' = { db with
              bastionRequest := updateWhere
                (fun r => r.id == id && guard r && r.status == .pending) assign
                db.bastionRequest } := by
  rw [decideRequest, Except.bind_eq_ok] at h
  obtain ⟨id, hid, h⟩ := h
  dsimp only at h
  split at h
  · next hany =>
    obtain ⟨r, hr, hhit⟩ := List.any_eq_true.mp hany
    simp only [Bool.and_eq_true, beq_iff_eq, and_assoc] at hhit
    exact ⟨id, castUuid_eq_ok.mp hid, ⟨r, hr, hhit⟩, (Except.ok.inj h).symm⟩
  · cases h

/-- `RevokeGrant` touches only the revocation columns of grants, of which it finds one that is not
revoked. -/
lemma revokeGrant_eq_ok {db db' : Db} {now : Time} {input : RevokeGrantInput}
    {revokerName : String} (h : revokeGrant db now input revokerName = .ok db') :
    ∃ id, Uuid.parse input.grantID = some id ∧
      (∃ g ∈ db.bastionGrant, g.id = id ∧ g.revokedAt = none) ∧
      db' = { db with
              bastionGrant := updateWhere (fun g => g.id == id && g.revokedAt.isNone)
                (fun g => { g with revokedAt := some now, revokedById := some input.revokedByID,
                                   revokedByName := revokerName,
                                   revokeReason := input.revokeReason })
                db.bastionGrant } := by
  rw [revokeGrant, Except.bind_eq_ok] at h
  obtain ⟨id, hid, h⟩ := h
  dsimp only at h
  split at h
  · next hany =>
    obtain ⟨g, hg, hhit⟩ := List.any_eq_true.mp hany
    simp only [Bool.and_eq_true, beq_iff_eq, Option.isNone_iff_eq_none] at hhit
    exact ⟨id, castUuid_eq_ok.mp hid, ⟨g, hg, hhit⟩, (Except.ok.inj h).symm⟩
  · cases h

/-- `FindActiveGrant` finds a grant exactly when there is an active one. -/
lemma findActiveGrant_isOk_iff {db : Db} {now : Time} {userID : Uuid} {assetID : String}
    {assetId : Uuid} (hid : Uuid.parse assetID = some assetId) :
    (∃ g, findActiveGrant db now userID assetID = .ok g) ↔
      ∃ g ∈ db.bastionGrant, isActiveGrantFor now userID assetId g = true := by
  rw [findActiveGrant, castUuid_eq_ok.mpr hid]
  simp only [bind, Except.bind]
  split
  · next g hg =>
    obtain ⟨hmem, hact⟩ := mem_of_firstBy hg
    exact ⟨fun _ => ⟨g, hmem, hact⟩, fun _ => ⟨g, rfl⟩⟩
  · next hnone =>
    rw [firstBy_eq_none_iff] at hnone
    constructor
    · rintro ⟨g, hg⟩
      simp at hg
    · rintro ⟨g, hmem, hact⟩
      rw [hnone g hmem] at hact
      simp at hact

/-! ### Calls one after the other -/

/-- A call of the repository with any arguments, or a write of another package, which leaves
the two tables of this one alone. -/
inductive Write where
  | createGrant (now : Time) (newId : Uuid) (input : CreateGrantInput) (granterID : Uuid)
  | revokeGrant (now : Time) (input : RevokeGrantInput) (revokerName : String)
  | createRequest (now : Time) (newId : Uuid) (input : CreateRequestInput)
  | approveRequest (now : Time) (newId : Uuid) (input : DecideRequestInput)
      (approverName : String)
  | rejectRequest (now : Time) (input : DecideRequestInput) (deciderName : String)
  | cancelRequest (now : Time) (requestID : String) (userID : Uuid)
  | elsewhere (tables : Db)

def Write.attempt (db : Db) : Write → Except RepoError Db
  | .createGrant now newId input granterID =>
    (Bastion.createGrant db now newId input granterID).map Prod.fst
  | .revokeGrant now input revokerName => Bastion.revokeGrant db now input revokerName
  | .createRequest now newId input => (Bastion.createRequest db now newId input).map Prod.fst
  | .approveRequest now newId input approverName =>
    (Bastion.approveRequest db now newId input approverName).map Prod.fst
  | .rejectRequest now input deciderName => Bastion.rejectRequest db now input deciderName
  | .cancelRequest now requestID userID => Bastion.cancelRequest db now requestID userID
  | .elsewhere tables =>
    .ok { tables with bastionGrant := db.bastionGrant, bastionRequest := db.bastionRequest }

/-- The database after a call. -/
def Write.apply (db : Db) (w : Write) : Db :=
  match w.attempt db with
  | .ok db' => db'
  | .error _ => db

/-- What never changes about a request. -/
def RequestRow.target (r : RequestRow) : Uuid × Uuid := (r.id, r.assetId)

/-- Calls add requests, and keep the target of those there are. -/
lemma Write.map_target_apply (db : Db) (w : Write) : ∃ added,
    (w.apply db).bastionRequest.map RequestRow.target =
      db.bastionRequest.map RequestRow.target ++ added := by
  have hsame : ∀ {rows : List RequestRow}, rows.map RequestRow.target =
      db.bastionRequest.map RequestRow.target → ∃ added, rows.map RequestRow.target =
        db.bastionRequest.map RequestRow.target ++ added := fun h => ⟨[], by simpa using h⟩
  rw [Write.apply]
  split
  · next db' h =>
    cases w with
    | createGrant now newId input granterID =>
      obtain ⟨g, hg⟩ := Except.map_fst_eq_ok h
      exact hsame (by rw [(createGrant_eq_ok hg).1])
    | revokeGrant now input revokerName =>
      obtain ⟨id, -, -, rfl⟩ := revokeGrant_eq_ok h
      exact hsame rfl
    | createRequest now newId input =>
      obtain ⟨r, hr⟩ := Except.map_fst_eq_ok h
      exact ⟨[r.target], by rw [(createRequest_eq_ok hr).2.2, List.map_append]; rfl⟩
    | approveRequest now newId input approverName =>
      obtain ⟨⟨r, g⟩, hg⟩ := Except.map_fst_eq_ok h
      obtain ⟨id, r, -, -, -, -, -, -, rfl⟩ := approveRequest_eq_ok hg
      refine hsame (map_updateWhere ?_ _)
      exact fun r _ => rfl
    | rejectRequest now input deciderName =>
      obtain ⟨id, -, -, rfl⟩ := decideRequest_eq_ok h
      refine hsame (map_updateWhere ?_ _)
      exact fun r _ => rfl
    | cancelRequest now requestID userID =>
      obtain ⟨id, -, -, rfl⟩ := decideRequest_eq_ok h
      refine hsame (map_updateWhere ?_ _)
      exact fun r _ => rfl
    | elsewhere tables =>
      obtain rfl := Except.ok.inj h
      exact hsame rfl
  · exact hsame rfl

lemma map_target_run (db : Db) (ws : List Write) : ∃ added,
    (run Write.apply db ws).bastionRequest.map RequestRow.target =
      db.bastionRequest.map RequestRow.target ++ added := by
  refine invariant (I := fun db' : Db => ∃ added, db'.bastionRequest.map RequestRow.target =
    db.bastionRequest.map RequestRow.target ++ added) ?_ ⟨[], by simp⟩ ws
  rintro db' w ⟨added, h⟩
  obtain ⟨added', h'⟩ := w.map_target_apply db'
  exact ⟨added ++ added', by rw [h', h, List.append_assoc]⟩

/-- A request that was found by its id is found later on with the same asset. -/
lemma assetId_of_run {db : Db} {ws : List Write} {id : Uuid} {r₀ r : RequestRow}
    (h₀ : db.bastionRequest.find? (·.id == id) = some r₀)
    (h : (run Write.apply db ws).bastionRequest.find? (·.id == id) = some r) :
    r.assetId = r₀.assetId := by
  have hfind : ∀ rows : List RequestRow, (rows.find? (·.id == id)).map RequestRow.target =
      (rows.map RequestRow.target).find? (·.1 == id) := fun rows => by rw [List.find?_map]; rfl
  obtain ⟨added, hadded⟩ := map_target_run db ws
  have hr := hfind (run Write.apply db ws).bastionRequest
  rw [hadded, List.find?_append, ← hfind, h₀, h] at hr
  exact congrArg Prod.snd (Option.some.inj hr)

end OpsPlatform.Bastion
