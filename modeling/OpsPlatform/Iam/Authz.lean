/-
The scope evaluator (`internal/iam/authz.go`).

`authorize` is the only place where a scope is compared with a resource.  Its verdict on a
concrete resource is `authorize_some_allowed_iff`: the coarse list of permissions decides
when the permission has no scoped entry, and otherwise the entry's scopes do.
-/
import OpsPlatform.Iam.Model

namespace OpsPlatform.Iam

open Lib Lib.Text

/-- `Decision`. -/
structure Decision where
  allowed : Bool
  isPartial : Bool := false
  scope : Scope := []
  source : PermissionSource := {}
  reason : String := ""
deriving DecidableEq

/-- The comparison of one value of a constraint with an attribute. -/
def valueMatches (val v : String) : Bool := equalFold (trimSpace v) (trimSpace val)

def constraintMatches (c : ScopeConstraint) (attrs : Attrs) : Bool :=
  match c.op with
  | .in_ | .eq =>
    match attrs c.dimension with
    | none => false
    | some val => c.values.any (valueMatches val)
  | .notIn =>
    match attrs c.dimension with
    | none => true
    | some val => !c.values.any (valueMatches val)
  | .other _ => false

def Scope.matches (s : Scope) (attrs : Attrs) : Bool :=
  if s.length = 0 then true else s.all fun c => constraintMatches c attrs

/-- `AdminPermission`. -/
def adminPermission : String := "system:admin"

def isAdmin (identity : UserIdentity) : Bool := identity.permissions.any (· == adminPermission)

def UserIdentity.scopedPermission (id : UserIdentity) (permission : String) :
    Option ScopedPermission :=
  id.scopedPermissions.find? (·.permission == permission)

/-- The search for the first admitting scope, with the source of the same index. -/
def admittingScope (attrs : Attrs) : List Scope → List PermissionSource →
    Option (Scope × PermissionSource)
  | [], _ => none
  | sc :: scopes, sources =>
    if Scope.matches sc attrs then
      some (sc, sources.headD { kind := "role", ref := "role", scope := sc })
    else admittingScope attrs scopes sources.tail

def UserIdentity.authorize (id : UserIdentity) (permission : String) (attrs : Option Attrs) :
    Decision :=
  if isAdmin id then
    { allowed := true, source := { kind := "role", ref := "admin" }, reason := "admin bypass" }
  else
    match id.scopedPermission permission with
    | none =>
      -- the coarse list still resolves a permission that has no scoped entry
      if id.permissions.any (· == permission) then
        { allowed := true, source := { kind := "role", ref := "role" }, reason := "granted" }
      else { allowed := false, reason := "no grant for " ++ permission }
    | some sp =>
      if sp.unscoped then
        { allowed := true, source := sp.sources.headD { kind := "role", ref := "role" },
          reason := "granted (unscoped)" }
      else
        match attrs with
        | none =>
          let combined := sp.scopes.headD []
          { allowed := true, isPartial := true, scope := combined,
            source := sp.sources.headD { kind := "role", ref := "role", scope := combined },
            reason := "granted (scoped)" }
        | some attrs =>
          match admittingScope attrs sp.scopes sp.sources with
          | some (sc, source) =>
            { allowed := true, isPartial := true, scope := sc, source := source,
              reason := "in scope" }
          | none =>
            { allowed := false, isPartial := true,
              reason := "resource outside permitted scope for " ++ permission }

/-! ### What a scope means -/

/-- What a constraint asks of the attributes of a resource, as a proposition. -/
def ConstraintHolds (c : ScopeConstraint) (attrs : Attrs) : Prop :=
  match c.op with
  | .in_ | .eq => ∃ val, attrs c.dimension = some val ∧
      ∃ v ∈ c.values, equalFold (trimSpace v) (trimSpace val) = true
  | .notIn => ∀ val, attrs c.dimension = some val →
      ∀ v ∈ c.values, equalFold (trimSpace v) (trimSpace val) = false
  | .other _ => False

lemma constraintMatches_iff (c : ScopeConstraint) (attrs : Attrs) :
    constraintMatches c attrs = true ↔ ConstraintHolds c attrs := by
  obtain ⟨dimension, op, values⟩ := c
  cases op with
  | in_ => cases h : attrs dimension <;> simp [constraintMatches, ConstraintHolds, valueMatches, h]
  | eq => cases h : attrs dimension <;> simp [constraintMatches, ConstraintHolds, valueMatches, h]
  | notIn =>
    cases h : attrs dimension <;> simp [constraintMatches, ConstraintHolds, valueMatches, h]
  | other s => simp [constraintMatches, ConstraintHolds]

lemma Scope.matches_iff (s : Scope) (attrs : Attrs) :
    Scope.matches s attrs = true ↔ ∀ c ∈ s, ConstraintHolds c attrs := by
  rw [Scope.matches]
  split
  · next h =>
    have : s = [] := List.length_eq_zero_iff.mp h
    simp [this]
  · simp only [List.all_eq_true, constraintMatches_iff]

lemma isAdmin_iff (identity : UserIdentity) :
    isAdmin identity = true ↔ adminPermission ∈ identity.permissions := by
  simp [isAdmin]

lemma isSome_admittingScope (attrs : Attrs) (scopes : List Scope)
    (sources : List PermissionSource) :
    (admittingScope attrs scopes sources).isSome = true ↔
      ∃ sc ∈ scopes, Scope.matches sc attrs = true := by
  induction scopes generalizing sources with
  | nil => simp [admittingScope]
  | cons sc scopes ih =>
    rw [admittingScope]
    by_cases h : Scope.matches sc attrs = true
    · simp [h]
    · simp [h, ih]

/-! ### The verdicts -/

variable {id : UserIdentity} {permission : String}

lemma authorize_of_isAdmin (h : isAdmin id = true) (attrs : Option Attrs) :
    (id.authorize permission attrs).allowed = true ∧
      (id.authorize permission attrs).isPartial = false := by
  simp [UserIdentity.authorize, h]

lemma authorize_of_unscoped {sp : ScopedPermission}
    (hsp : id.scopedPermission permission = some sp) (hun : sp.unscoped = true)
    (attrs : Option Attrs) :
    (id.authorize permission attrs).allowed = true ∧
      (id.authorize permission attrs).isPartial = false := by
  by_cases ha : isAdmin id = true
  · exact authorize_of_isAdmin ha attrs
  · simp [UserIdentity.authorize, ha, hsp, hun]

/-- The verdict on a concrete resource, for an identity that is not an admin. -/
lemma authorize_some_allowed_iff (ha : isAdmin id = false) (attrs : Attrs) :
    (id.authorize permission (some attrs)).allowed = true ↔
      (id.scopedPermission permission = none ∧ permission ∈ id.permissions) ∨
      ∃ sp, id.scopedPermission permission = some sp ∧
        (sp.unscoped = true ∨ ∃ sc ∈ sp.scopes, Scope.matches sc attrs = true) := by
  cases hsp : id.scopedPermission permission with
  | none => by_cases hp : permission ∈ id.permissions <;> simp [UserIdentity.authorize, ha, hsp, hp]
  | some sp =>
    cases hun : sp.unscoped with
    | true => simp [UserIdentity.authorize, ha, hsp, hun]
    | false =>
      have hadm := isSome_admittingScope attrs sp.scopes sp.sources
      cases h : admittingScope attrs sp.scopes sp.sources <;>
        simp_all [UserIdentity.authorize]

/-- A scoped entry answers the general question with yes, but marks it partial. -/
lemma authorize_none_of_scoped (ha : isAdmin id = false) {sp : ScopedPermission}
    (hsp : id.scopedPermission permission = some sp) (hun : sp.unscoped = false) :
    (id.authorize permission none).isPartial = true := by
  simp [UserIdentity.authorize, ha, hsp, hun]

end OpsPlatform.Iam
