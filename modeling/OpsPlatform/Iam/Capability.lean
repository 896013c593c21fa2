/-
The capability resolver (`ResolveCapability` in `internal/iam/capability_repository.go`):
it answers "can this user do this on that resource", with the path that produces the answer.
-/
import OpsPlatform.Iam.Identity
import OpsPlatform.Lib.Outcome

namespace OpsPlatform.Iam

open Lib Lib.Table Lib.Text

/-- The errors of `ResolveCapability`. -/
inductive ResolveError where
  | capabilityRequired
  | resourceNotFound
  | iam (e : IamError)
deriving DecidableEq

/-- `resolvedAsset`; the `id` is its text. -/
structure ResolvedAsset where
  id : String
  name : String
  env : String
  source : String
  status : String

/-- `lookupAsset`: by id or by name, a match of the id first. -/
def lookupAsset (db : Db) (ref : String) : Except ResolveError ResolvedAsset :=
  let ref := trimSpace ref
  let byId : Cmdb.AssetRow → Bool := fun a => a.id.toText == ref
  match firstBy (fun a b => byId b ≤ byId a) (fun a => a.live && (byId a || a.name == ref))
      db.cmdbAsset with
  | none => .error .resourceNotFound
  | some a => .ok { id := a.id.toText, name := a.name, env := a.env, source := a.source,
                    status := a.status }

/-- `activeGrantFor`; `none` when there is no such grant. -/
def activeGrantFor (db : Db) (now : Time) (userID assetID : String) :
    Except ResolveError (Option Bastion.GrantRow) :=
  match Uuid.parse userID, Uuid.parse assetID with
  | some userId, some assetId =>
    .ok (firstBy (fun g h => h.expiresAt ≤ g.expiresAt)
      (fun g => g.userId == userId && g.assetId == assetId && g.revokedAt.isNone &&
        now < g.expiresAt)
      db.bastionGrant)
  | _, _ => .error (.iam (.statement "invalid input syntax for type uuid"))

def isBastionSessionCapability (permission : String) : Bool :=
  permission == "bastion.session:connect"

/-- `ResolveRequest`. -/
structure ResolveRequest where
  userID : String
  capability : String
  resourceRef : String

/-- `ResolveStep`. -/
structure ResolveStep where
  source : String
  ref : String
  capability : String
  scope : Scope := []
  note : String

/-- `ResolveResult`. -/
structure ResolveResult where
  allowed : Bool
  effect : String
  expiresAt : Option Time := none
  path : List ResolveStep
  deniedReason : String := ""

/-- The result of an active grant for an asset. -/
def resolveByGrant (capability : String) (asset : ResolvedAsset) (grant : Bastion.GrantRow) :
    ResolveResult :=
  let ref :=
    match grant.requestId with
    | some requestId => "grant " ++ grant.id.toText ++ " · request " ++ requestId.toText
    | none => "grant " ++ grant.id.toText
  { allowed := true, effect := "allow", expiresAt := some grant.expiresAt
    path := [{ source := "grant", ref, capability,
               note := "time-bounded grant for " ++ asset.name }] }

/-- The result of a verdict that allows. -/
def resolveByDecision (capability : String) (decision : Decision) : ResolveResult :=
  { allowed := true, effect := "allow"
    path := [{ source := decision.source.kind, ref := decision.source.ref, capability,
               scope := decision.source.scope, note := decision.reason }] }

/-- The result of a verdict that denies. -/
def resolveDenied (capability : String) (decision : Decision) : ResolveResult :=
  { allowed := false, effect := "deny", path := []
    deniedReason :=
      if decision.reason = "" then "no grant for " ++ capability else decision.reason }

/-- The asset that a request names, when it names one. -/
def resolveAsset (db : Db) (resourceRef : String) : Except ResolveError (Option ResolvedAsset) :=
  if trimSpace resourceRef ≠ "" then (lookupAsset db (trimSpace resourceRef)).map some
  else .ok none

/-- The grant that may stand in for a role: only for a bastion session on an asset. -/
def resolveGrant (db : Db) (now : Time) (identity : UserIdentity) (capability : String)
    (asset : Option ResolvedAsset) :
    Except ResolveError (Option (ResolvedAsset × Bastion.GrantRow)) :=
  match asset with
  | none => .ok none
  | some asset =>
    if isBastionSessionCapability capability then
      (activeGrantFor db now identity.user.id.toText asset.id).map
        fun grant => grant.map fun g => (asset, g)
    else .ok none

/-- `ResolveCapability` once the user and the resource are known. -/
def resolveFor (db : Db) (now : Time) (identity : UserIdentity) (capability : String)
    (asset : Option ResolvedAsset) : Except ResolveError ResolveResult :=
  let decision := identity.authorize capability (asset.map fun a => Attrs.ofAsset a.env a.source)
  if decision.allowed then .ok (resolveByDecision capability decision)
  else
    -- the role path denied; a grant can still authorize
    match resolveGrant db now identity capability asset with
    | .error e => .error e
    | .ok (some (asset, grant)) => .ok (resolveByGrant capability asset grant)
    | .ok none => .ok (resolveDenied capability decision)

/-- `ResolveCapability`. -/
def resolveCapability (db : Db) (now : Time) (req : ResolveRequest) :
    Except ResolveError ResolveResult :=
  let capability := trimSpace req.capability
  if capability = "" then .error .capabilityRequired
  else do
    let identity ← (identityForUser db (trimSpace req.userID)).mapError .iam
    let asset ← resolveAsset db req.resourceRef
    resolveFor db now identity capability asset

/-! ### What the resolver answers -/

/-- The id of a live asset is resolved to this asset, even if it is the name of another. -/
lemma lookupAsset_of_mem {db : Db} (hkey : (db.cmdbAsset.map (·.id)).Nodup)
    {a : Cmdb.AssetRow} (ha : a ∈ db.cmdbAsset) (hlive : a.live = true) :
    lookupAsset db a.id.toText =
      .ok { id := a.id.toText, name := a.name, env := a.env, source := a.source,
            status := a.status } := by
  have htotal : Std.Total fun b c : Cmdb.AssetRow =>
      (c.id.toText == a.id.toText) ≤ (b.id.toText == a.id.toText) :=
    ⟨fun b c => le_total _ _⟩
  have htrans : IsTrans Cmdb.AssetRow fun b c =>
      (c.id.toText == a.id.toText) ≤ (b.id.toText == a.id.toText) :=
    ⟨fun b c d hbc hcd => le_trans hcd hbc⟩
  simp only [lookupAsset, Uuid.trimSpace_toText]
  split
  · next hnone =>
    have := firstBy_eq_none_iff.mp hnone a ha
    simp [hlive] at this
  · next b hb =>
    -- `a` itself matches by its id, so what comes first does too
    have hid := firstBy_le hb ha (by simp [hlive])
    rw [beq_self_eq_true] at hid
    have hb' : b.id = a.id := by simpa using le_antisymm (Bool.le_true _) hid
    have heq : b = a := List.inj_on_of_nodup_map hkey (mem_of_firstBy hb).1 ha hb'
    rw [heq]

lemma activeGrantFor_toText (db : Db) (now : Time) (userId assetId : Uuid) :
    ∃ grant, activeGrantFor db now userId.toText assetId.toText = .ok grant ∧
      (grant.isSome = true ↔ ∃ g ∈ db.bastionGrant, g.userId = userId ∧ g.assetId = assetId ∧
        g.active now = true) := by
  refine ⟨_, by rw [activeGrantFor, Uuid.parse_toText, Uuid.parse_toText], ?_⟩
  rw [← Option.ne_none_iff_isSome, Ne, firstBy_eq_none_iff]
  push Not
  simp only [Ne, Bool.not_eq_false, Bool.and_eq_true, beq_iff_eq, Bastion.GrantRow.active,
    and_assoc]

lemma resolveFor_allowed_iff {db : Db} {now : Time} {identity : UserIdentity}
    {capability : String} {asset : ResolvedAsset} {assetId : Uuid}
    (hcap : isBastionSessionCapability capability = true) (hid : asset.id = assetId.toText) :
    (∃ res, resolveFor db now identity capability (some asset) = .ok res ∧
      res.allowed = true) ↔
      (identity.authorize capability
        (some (Attrs.ofAsset asset.env asset.source))).allowed = true ∨
      ∃ g ∈ db.bastionGrant, g.userId = identity.user.id ∧ g.assetId = assetId ∧
        g.active now = true := by
  obtain ⟨grant, hgrant, hsome⟩ := activeGrantFor_toText db now identity.user.id assetId
  have hgrant' : resolveGrant db now identity capability (some asset) =
      .ok (grant.map fun g => (asset, g)) := by
    rw [resolveGrant, if_pos hcap, hid, hgrant]
    rfl
  rw [← hsome]
  simp only [resolveFor, hgrant', Option.map_some]
  split
  · next hallowed => simp [hallowed, resolveByDecision]
  · next hdenied =>
    cases grant with
    | none => simp [hdenied, resolveDenied]
    | some g => simp [resolveByGrant]

/-- The question whether a user may open a session on an asset. -/
def connectRequest (userId assetId : Uuid) : ResolveRequest :=
  { userID := userId.toText, capability := "bastion.session:connect",
    resourceRef := assetId.toText }

/-- On an asset that resolves, the answer for a bastion session is the verdict of the evaluator
or else an active grant. -/
lemma resolveCapability_allowed_iff {db : Db} {now : Time} {userId assetId : Uuid}
    {asset : ResolvedAsset} (hasset : lookupAsset db assetId.toText = .ok asset)
    (hid : asset.id = assetId.toText) :
    (∃ res, resolveCapability db now (connectRequest userId assetId) = .ok res ∧
      res.allowed = true) ↔
      ∃ identity, identityForUser db userId.toText = .ok identity ∧
        ((identity.authorize "bastion.session:connect"
          (some (Attrs.ofAsset asset.env asset.source))).allowed = true ∨
        ∃ g ∈ db.bastionGrant, g.userId = identity.user.id ∧ g.assetId = assetId ∧
          g.active now = true) := by
  have hcap : trimSpace "bastion.session:connect" = "bastion.session:connect" := by decide
  have hcap' : ¬ "bastion.session:connect" = "" := by decide
  have hres : resolveAsset db assetId.toText = .ok (some asset) := by
    rw [resolveAsset, Uuid.trimSpace_toText, if_pos (Uuid.toText_ne_empty assetId), hasset]
    rfl
  have hunfold : ∀ res, resolveCapability db now (connectRequest userId assetId) = .ok res ↔
      ∃ identity, identityForUser db userId.toText = .ok identity ∧
        resolveFor db now identity "bastion.session:connect" (some asset) = .ok res := by
    intro res
    simp only [resolveCapability, connectRequest, hcap, Uuid.trimSpace_toText, if_neg hcap', hres]
    rw [Except.bind_eq_ok]
    simp only [Except.mapError_eq_ok]
    rfl
  constructor
  · rintro ⟨res, hok, hallowed⟩
    obtain ⟨identity, hident, hfor⟩ := (hunfold res).mp hok
    exact ⟨identity, hident, (resolveFor_allowed_iff rfl hid).mp ⟨res, hfor, hallowed⟩⟩
  · rintro ⟨identity, hident, hor⟩
    obtain ⟨res, hfor, hallowed⟩ := (resolveFor_allowed_iff rfl hid).mpr hor
    exact ⟨res, (hunfold res).mpr ⟨identity, hident, hfor⟩, hallowed⟩

end OpsPlatform.Iam
