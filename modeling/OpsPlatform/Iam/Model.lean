/-
The data of the IAM package (`internal/iam/model.go`) and the rows of its tables
(`migrations/0002_iam.sql`, `migrations/0004_auth_local_and_oidc_config.sql`,
`migrations/0022_iam_permission_scope.sql`).
-/
import OpsPlatform.Lib.Uuid
import OpsPlatform.Lib.Json

namespace OpsPlatform

open Lib

/-- Instants, in nanoseconds. -/
abbrev Time := Int

/-- `time.Second`. -/
def second : Int := 1000000000

namespace Iam

/-- `ScopeOp`.  The column may hold any string; those the evaluator does not know are
`other`. -/
inductive ScopeOp where
  | in_
  | notIn
  | eq
  | other (text : String)
deriving DecidableEq

def ScopeOp.ofString (s : String) : ScopeOp :=
  if s = "in" then .in_ else if s = "not_in" then .notIn else if s = "eq" then .eq else .other s

def ScopeOp.toString : ScopeOp → String
  | .in_ => "in"
  | .notIn => "not_in"
  | .eq => "eq"
  | .other s => s

/-- `ScopeConstraint`: it narrows one resource attribute. -/
structure ScopeConstraint where
  dimension : String := ""
  op : ScopeOp := .other ""
  values : List String := []
deriving DecidableEq

/-- `Scope`: constraints that all have to hold.  The empty scope is unscoped. -/
abbrev Scope := List ScopeConstraint

/-- `PermissionSource`: where a permission came from. -/
structure PermissionSource where
  kind : String := ""
  ref : String := ""
  scope : Scope := []
deriving DecidableEq

/-- `ScopedPermission`: one permission of a user over all the user's roles. -/
structure ScopedPermission where
  permission : String
  resource : String
  action : String
  unscoped : Bool := false
  scopes : List Scope := []
  sources : List PermissionSource := []
deriving DecidableEq

/-- `User`.  The `id` is read from a column of type `uuid`, so its text is canonical. -/
structure User where
  id : Uuid
  oidcSubject : String := ""
  email : String := ""
  name : String := ""
deriving DecidableEq

/-- `UserIdentity`: what `AuthMiddleware` puts in the request context. -/
structure UserIdentity where
  user : User
  roles : List String := []
  permissions : List String := []
  scopedPermissions : List ScopedPermission := []
deriving DecidableEq

/-- `ResourceAttrs`, a map that is not nil; a nil map is the `none` of `Option Attrs`. -/
abbrev Attrs := String → Option String

/-- `iam.ResourceAttrs{"env": env, "source": source}`. -/
def Attrs.ofAsset (env source : String) : Attrs := fun key =>
  if key = "env" then some env else if key = "source" then some source else none

/-! ### Tables -/

/-- A row of `iam_user`; `email` and `name` are nullable. -/
structure UserRow where
  id : Uuid
  oidcSubject : String
  email : Option String := none
  name : Option String := none
  createdAt : Time := 0
  updatedAt : Time := 0
  lastLoginAt : Option Time := none
deriving DecidableEq

/-- A row of `iam_local_user`. -/
structure LocalUserRow where
  username : String
  userId : Uuid
  passwordHash : String
  enabled : Bool := true
  createdAt : Time := 0
  updatedAt : Time := 0
  lastLoginAt : Option Time := none
deriving DecidableEq

/-- The row of `iam_oidc_config`; its `id` is 1. -/
structure OidcConfigRow where
  enabled : Bool := false
  issuerUrl : String := ""
  clientId : String := ""
  clientSecretEncrypted : String := ""
  redirectUrl : String := ""
  authorizeUrl : String := ""
  tokenUrl : String := ""
  userinfoUrl : String := ""
  scopes : Json
  updatedAt : Time := 0

/-- A row of `iam_role`. -/
structure RoleRow where
  id : Uuid
  name : String
deriving DecidableEq

/-- A row of `iam_role_permission`. -/
structure RolePermissionRow where
  roleId : Uuid
  resource : String
  action : String
  scopeJson : Option Json := none

/-- A row of `iam_user_role_binding`. -/
structure UserRoleBindingRow where
  userId : Uuid
  roleId : Uuid
deriving DecidableEq

end Iam

end OpsPlatform
