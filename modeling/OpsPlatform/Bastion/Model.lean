/-
The rows of `bastion_grant` and `bastion_request` (`migrations/0017_bastion_grants.sql`) and
the errors of the package (`internal/bastion/model.go`).
-/
import OpsPlatform.Iam.Model

namespace OpsPlatform.Bastion

open Lib

/-- `RequestStatus`; the check constraint of the column admits exactly these. -/
inductive RequestStatus where
  | pending
  | approved
  | rejected
  | cancelled
  | expired
deriving DecidableEq

/-- A row of `bastion_grant`. -/
structure GrantRow where
  id : Uuid
  userId : Uuid
  userName : String := ""
  assetId : Uuid
  assetName : String := ""
  grantedById : Uuid
  grantedByName : String := ""
  reason : String := ""
  expiresAt : Time
  revokedAt : Option Time := none
  revokedById : Option Uuid := none
  revokedByName : String := ""
  revokeReason : String := ""
  requestId : Option Uuid := none
  createdAt : Time
deriving DecidableEq

/-- `revoked_at IS NULL AND expires_at > now()`. -/
def GrantRow.active (g : GrantRow) (now : Time) : Bool := g.revokedAt.isNone && now < g.expiresAt

/-- A row of `bastion_request`. -/
structure RequestRow where
  id : Uuid
  userId : Uuid
  userName : String := ""
  assetId : Uuid
  assetName : String := ""
  reason : String := ""
  requestedDurationSeconds : Int
  status : RequestStatus := .pending
  decidedById : Option Uuid := none
  decidedByName : String := ""
  decidedAt : Option Time := none
  decisionReason : String := ""
  grantId : Option Uuid := none
  createdAt : Time
  updatedAt : Time
deriving DecidableEq

/-- The errors that the repository returns.  `statement` is the error of a statement that the
server refused or that did not reach it. -/
inductive RepoError where
  | grantNotFound
  | requestNotFound
  | requestNotPending
  | selfApprovalDenied
  | statement (message : String)
deriving DecidableEq

def RepoError.message : RepoError → String
  | .grantNotFound => "grant not found"
  | .requestNotFound => "request not found"
  | .requestNotPending => "request is not pending"
  | .selfApprovalDenied => "you cannot approve your own request"
  | .statement message => message

/-- `ErrSelfGrantDenied`. -/
def errSelfGrantDenied : String := "you cannot grant access to yourself"

/-- The error of a text that is cast to `uuid` and is none. -/
def RepoError.invalidUuid (text : String) : RepoError :=
  .statement ("invalid input syntax for type uuid: \"" ++ text ++ "\"")

end OpsPlatform.Bastion
