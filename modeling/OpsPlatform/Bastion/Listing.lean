/-
The lists of grants and requests: `ListGrants` and `ListRequests`
(`internal/bastion/repository.go`) and the handlers of their routes.
-/
import OpsPlatform.Bastion.Handler
import OpsPlatform.Lib.Strconv

namespace OpsPlatform.Bastion

open Lib Lib.Table Lib.Text Lib.Strconv Iam

/-- `Grant`: the columns of the row, and whether it was active when it was read. -/
structure Grant extends GrantRow where
  active : Bool
deriving DecidableEq

/-- `scanGrant`. -/
def scanGrant (now : Time) (g : GrantRow) : Grant := { g with active := g.active now }

/-- The text of a status in its column. -/
def RequestStatus.text : RequestStatus → String
  | .pending => "pending"
  | .approved => "approved"
  | .rejected => "rejected"
  | .cancelled => "cancelled"
  | .expired => "expired"

structure ListGrantsQuery where
  userID : String := ""
  assetID : String := ""
  activeOnly : Bool := false
  limit : Int := 0
  offset : Int := 0

structure ListRequestsQuery where
  userID : String := ""
  status : String := ""
  limit : Int := 0
  offset : Int := 0

/-! ### The queries -/

/-- A condition `column = $1::uuid`, which is there when the parameter is not blank. -/
def uuidFilter (text : String) : Except RepoError (Uuid → Bool) :=
  if trimSpace text ≠ "" then do
    let id ← castUuid text
    .ok fun column => column == id
  else .ok fun _ => true

/-- The limit of a page. -/
def pageLimit (limit : Int) : ℕ := (if limit ≤ 0 ∨ 500 < limit then 100 else limit).toNat

/-- The offset of a page, which the server refuses when it is negative. -/
def pageOffset (offset : Int) : Except RepoError ℕ :=
  if offset < 0 then .error (.statement "OFFSET must not be negative") else .ok offset.toNat

/-- `ListGrants`: the newest grants first. -/
def listGrants (db : Db) (now : Time) (q : ListGrantsQuery) : Except RepoError (List Grant) := do
  let ofUser ← uuidFilter q.userID
  let ofAsset ← uuidFilter q.assetID
  let offset ← pageOffset q.offset
  .ok ((pageBy (fun g g' => g'.createdAt ≤ g.createdAt)
    (fun g => ofUser g.userId && ofAsset g.assetId && (!q.activeOnly || g.active now))
    (pageLimit q.limit) offset db.bastionGrant).map (scanGrant now))

/-- `ListRequests`: the newest requests first. -/
def listRequests (db : Db) (q : ListRequestsQuery) : Except RepoError (List RequestRow) := do
  let ofUser ← uuidFilter q.userID
  let offset ← pageOffset q.offset
  .ok (pageBy (fun r r' => r'.createdAt ≤ r.createdAt)
    (fun r => ofUser r.userId && (q.status == "" || r.status.text == q.status))
    (pageLimit q.limit) offset db.bastionRequest)

/-! ### The handlers -/

/-- `r.URL.Query().Get`: a parameter that is absent is empty. -/
abbrev QueryParams := String → String

/-- A number among the parameters; what is no number is left out. -/
def intParam (params : QueryParams) (name : String) : Int := (atoi (params name).toList).getD 0

/-- `canSeeAllBastionRecords`. -/
def canSeeAllBastionRecords (identity : UserIdentity) : Bool :=
  isAdmin identity || identity.permissions.any (· == "bastion.grant:write")

namespace Handler

/-- `listGrants`. -/
def listGrants (db : Db) (now : Time) (identity : UserIdentity) (params : QueryParams) :
    Except HttpError (List Grant) :=
  let q : ListGrantsQuery :=
    { userID := if canSeeAllBastionRecords identity then params "user_id"
                else identity.user.id.toText
      assetID := params "asset_id"
      activeOnly := params "active" == "true" || params "active" == "1"
      limit := intParam params "limit", offset := intParam params "offset" }
  (Bastion.listGrants db now q).mapError fun e => ⟨500, e.message, none⟩

/-- `listRequests`. -/
def listRequests (db : Db) (identity : UserIdentity) (params : QueryParams) :
    Except HttpError (List RequestRow) :=
  let q : ListRequestsQuery :=
    { userID := if canSeeAllBastionRecords identity then
                  if params "mine" == "true" then identity.user.id.toText else params "user_id"
                else identity.user.id.toText
      status := params "status"
      limit := intParam params "limit", offset := intParam params "offset" }
  (Bastion.listRequests db q).mapError fun e => ⟨500, e.message, none⟩

end Handler

/-! ### What `ListGrants` shows -/

/-- With `ActiveOnly` a page holds active grants only. -/
lemma active_of_listGrants {db : Db} {now : Time} {q : ListGrantsQuery} {items : List Grant}
    (hq : q.activeOnly = true) (h : listGrants db now q = .ok items) {g : GrantRow}
    (hg : scanGrant now g ∈ items) : g.active now = true := by
  rw [listGrants, Except.bind_eq_ok] at h
  obtain ⟨ofUser, -, h⟩ := h
  rw [Except.bind_eq_ok] at h
  obtain ⟨ofAsset, -, h⟩ := h
  rw [Except.bind_eq_ok] at h
  obtain ⟨offset, -, h⟩ := h
  obtain rfl := Except.ok.inj h
  obtain ⟨g', hg', hscan⟩ := List.mem_map.mp hg
  obtain rfl : g' = g := congrArg Grant.toGrantRow hscan
  have hfilter := (mem_of_pageBy hg').2
  simp only [hq, Bool.not_true, Bool.false_or, Bool.and_eq_true] at hfilter
  exact hfilter.2

/-- With `ActiveOnly` and no other condition every active grant is on some page. -/
lemma exists_listGrants {db : Db} {now : Time} {g : GrantRow} (hg : g ∈ db.bastionGrant)
    (hactive : g.active now = true) : ∃ q : ListGrantsQuery, q.activeOnly = true ∧
      ∃ items, listGrants db now q = .ok items ∧ scanGrant now g ∈ items := by
  obtain ⟨offset, hmem⟩ := exists_pageBy (fun g g' : GrantRow => g'.createdAt ≤ g.createdAt)
    (p := fun g => g.active now) hg hactive
  refine ⟨{ activeOnly := true, limit := 1, offset := offset }, rfl, _, rfl, ?_⟩
  exact List.mem_map_of_mem hmem

end OpsPlatform.Bastion
