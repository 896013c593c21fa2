/-
The gates of `internal/iam/middleware.go`: a request is authenticated once, and every route
then asks for one coarse permission.
-/
import OpsPlatform.Iam.Identity

namespace OpsPlatform

/-- A response that `httpx.WriteError` writes.  The refusal of the ticket gate also carries
the asset for which a grant is missing. -/
structure HttpError where
  status : ℕ
  message : String
  needsGrant : Option String := none
deriving DecidableEq

namespace Iam

open Lib Lib.Text

/-- The token of an `Authorization` header. -/
def bearerToken (header : String) : Option String :=
  let authHeader := (trimSpace header).toList
  if "Bearer ".toList.isPrefixOf authHeader then
    some (trimSpace (String.ofList (authHeader.drop "Bearer ".length)))
  else none

/-- `AuthMiddleware`.  `parse` stands for `TokenService.Parse`; it gives the user id of the
claims of a valid token. -/
def authMiddleware (parse : String → Option String) (db : Db) (header : String) :
    Except HttpError UserIdentity :=
  match bearerToken header with
  | none => .error ⟨401, "missing bearer token", none⟩
  | some token =>
    match parse token with
    | none => .error ⟨401, "invalid token", none⟩
    | some userID =>
      (identityForUser db userID).mapError fun _ => ⟨401, "user session not found", none⟩

/-- `RequirePermission`: the identity of the context, when it passes. -/
def requirePermission (resource action : String) (ctx : Option UserIdentity) :
    Except HttpError UserIdentity :=
  match ctx with
  | none => .error ⟨401, "missing identity context", none⟩
  | some identity =>
    if isAdmin identity then .ok identity
    else if identity.permissions.any (· == resource ++ ":" ++ action) then .ok identity
    else .error ⟨403, "permission denied", none⟩

lemma requirePermission_eq_ok {resource action : String} {ctx : Option UserIdentity}
    {identity : UserIdentity} (h : requirePermission resource action ctx = .ok identity) :
    ctx = some identity ∧
      (isAdmin identity = true ∨ resource ++ ":" ++ action ∈ identity.permissions) := by
  rcases ctx with _ | id
  · cases h
  · rw [requirePermission] at h
    split at h
    · next ha =>
      obtain rfl := Except.ok.inj h
      exact ⟨rfl, Or.inl ha⟩
    · split at h
      · next hp =>
        obtain rfl := Except.ok.inj h
        exact ⟨rfl, Or.inr (by simpa using hp)⟩
      · cases h

lemma requirePermission_isOk_iff {resource action : String} {identity : UserIdentity} :
    requirePermission resource action (some identity) = .ok identity ↔
      isAdmin identity = true ∨ resource ++ ":" ++ action ∈ identity.permissions := by
  constructor
  · exact fun h => (requirePermission_eq_ok h).2
  · rintro (h | h)
    · simp [requirePermission, h]
    · simp [requirePermission, h]

end Iam

end OpsPlatform
