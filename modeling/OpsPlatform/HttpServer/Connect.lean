/-
The connect routes (`internal/httpserver/server.go`): authentication, the coarse permission
`cmdb.asset:read`, the ticket gate, and the handler that issues the ticket.

The gate and the capability resolver look up the asset and the grant with statements of their
own.  They give the same answer; a route, however, asks for `cmdb.asset:read` first, and the
resolver does not.
-/
import OpsPlatform.Bastion.Middleware
import OpsPlatform.Connectivity.Ticket
import OpsPlatform.Iam.Capability

namespace OpsPlatform.HttpServer

open Lib Lib.Table Iam Bastion Connectivity

/-- `POST /api/v1/cmdb/assets/{assetID}/<protocol>/ticket`.  `parse` reads a token, `rand` is
the outcome of `rand.Read`, and all statements see the state `db`. -/
def postTicket (p : Protocol) (parse : String → Option String) (db : Db) (now : Time)
    (tickets : TicketService) (rand : Except String String) (header assetID : String) :
    Except HttpError (TicketService × String × Time) := do
  let identity ← authMiddleware parse db header
  let identity ← requirePermission "cmdb.asset" "read" (some identity)
  let identity ← requireSessionAuthorization db db now "connect" assetID (some identity)
  p.issueTicket tickets now rand (some identity) assetID

/-! ### The gates, one by one -/

lemma authMiddleware_eq_ok_iff {parse : String → Option String} {db : Db}
    {header token userID : String} {identity : UserIdentity}
    (htoken : bearerToken header = some token) (hparse : parse token = some userID) :
    authMiddleware parse db header = .ok identity ↔ identityForUser db userID = .ok identity := by
  simp only [authMiddleware, htoken, hparse]
  exact Except.mapError_eq_ok

lemma issueTicket_isOk (p : Protocol) (tickets : TicketService) (now : Time) (rand : String)
    (identity : UserIdentity) {assetID : String} (hne : assetID ≠ "") :
    ∃ t, p.issueTicket tickets now (.ok rand) (some identity) assetID = .ok t := by
  rw [Protocol.issueTicket, if_neg hne]
  exact ⟨_, rfl⟩

/-- By the text of its id the gate finds a live asset with its env and source. -/
lemma assetScopeAttrs_of_mem {db : Db} (hkey : (db.cmdbAsset.map (·.id)).Nodup)
    {a : Cmdb.AssetRow} (ha : a ∈ db.cmdbAsset) (hlive : a.live = true) :
    assetScopeAttrs db a.id.toText = some (a.env, a.source) := by
  rw [assetScopeAttrs, Uuid.trimSpace_toText, find?_eq_of_nodup hkey ha (by simp [hlive])]
  · rfl
  · intro b _ hb
    simpa using (Bool.and_eq_true_iff.mp hb).2

lemma hasActiveGrant_toText {db : Db} {now : Time} {userId assetId : Uuid} :
    HasActiveGrant db now userId assetId.toText ↔
      ∃ g ∈ db.bastionGrant, g.userId = userId ∧ g.assetId = assetId ∧ g.active now = true := by
  simp only [HasActiveGrant, Uuid.parse_toText, Option.some.injEq, exists_eq_left',
    isActiveGrantFor, Bool.and_eq_true, beq_iff_eq, and_assoc]

/-- The ticket gate on a live asset asks what the resolver asks. -/
lemma requireSessionAuthorization_iff {db : Db} {now : Time} {identity : UserIdentity}
    (hkey : (db.cmdbAsset.map (·.id)).Nodup) {a : Cmdb.AssetRow} (ha : a ∈ db.cmdbAsset)
    (hlive : a.live = true) :
    requireSessionAuthorization db db now "connect" a.id.toText (some identity) = .ok identity ↔
      (identity.authorize "bastion.session:connect"
        (some (Attrs.ofAsset a.env a.source))).allowed = true ∨
      ∃ g ∈ db.bastionGrant, g.userId = identity.user.id ∧ g.assetId = a.id ∧
        g.active now = true := by
  have hfound := assetScopeAttrs_of_mem hkey ha hlive
  have hadm : scopeAdmits identity "bastion.session:connect" (some (a.env, a.source)) =
      (identity.authorize "bastion.session:connect"
        (some (Attrs.ofAsset a.env a.source))).allowed := by
    simp [scopeAdmits]
  rw [← hasActiveGrant_toText, ← hadm]
  constructor
  · intro h
    rcases requireSessionAuthorization_eq_ok h with hadmin | hs | hg
    · refine Or.inl ?_
      rw [hadm]
      exact (authorize_of_isAdmin hadmin _).1
    · rw [hfound] at hs
      exact Or.inl hs
    · exact Or.inr hg
  · intro h
    simp only [requireSessionAuthorization, hfound, if_neg (Uuid.toText_ne_empty a.id)]
    split
    · rfl
    · split
      · rfl
      · next hs =>
        -- only the grant is left, and the lookup finds it
        obtain ⟨assetId, hparse, hg⟩ := h.resolve_left hs
        obtain ⟨g, hfind⟩ := (findActiveGrant_isOk_iff hparse).mpr hg
        rw [hfind]

/-- An identity passes the gate of the coarse permission exactly when a row of its roles holds
it, or makes it an admin. -/
lemma mayRead_iff {db : Db} {userId : Uuid} {identity : UserIdentity}
    (h : identityForUser db userId.toText = .ok identity) :
    requirePermission "cmdb.asset" "read" (some identity) = .ok identity ↔
      ∃ row ∈ permissionRows db userId, row.permission = some adminPermission ∨
        row.permission = some "cmdb.asset:read" := by
  obtain ⟨user, hrows⟩ := identityOfRows_of_identityForUser h
  have hbuilt := (builtFrom_of_identityOfRows hrows).1
  rw [requirePermission_isOk_iff, hbuilt.isAdmin_iff, hbuilt.mem_permissions_iff]
  constructor
  · rintro (⟨row, hrow, hp⟩ | ⟨row, hrow, hp⟩)
    · exact ⟨row, hrow, Or.inl hp⟩
    · exact ⟨row, hrow, Or.inr hp⟩
  · rintro ⟨row, hrow, hp | hp⟩
    · exact Or.inl ⟨row, hrow, hp⟩
    · exact Or.inr ⟨row, hrow, hp⟩

lemma eq_of_requireSessionAuthorization {seen db : Db} {now : Time} {action assetID : String}
    {identity identity' : UserIdentity}
    (h : requireSessionAuthorization seen db now action assetID (some identity) =
      .ok identity') : identity' = identity := by
  rw [requireSessionAuthorization] at h
  split at h
  · exact (Except.ok.inj h).symm
  · rw [Except.ite_error_eq_ok] at h
    obtain ⟨-, h⟩ := h
    split at h
    · exact (Except.ok.inj h).symm
    · split at h
      · cases h
      · cases h
      · exact (Except.ok.inj h).symm

/-- A ticket is issued when each of the gates lets the identity of the user pass. -/
lemma postTicket_isOk_iff {p : Protocol} {parse : String → Option String} {db : Db} {now : Time}
    {tickets : TicketService} {rand header token userID assetID : String}
    (htoken : bearerToken header = some token) (hparse : parse token = some userID)
    (hne : assetID ≠ "") :
    (∃ t, postTicket p parse db now tickets (.ok rand) header assetID = .ok t) ↔
      ∃ identity, identityForUser db userID = .ok identity ∧
        requirePermission "cmdb.asset" "read" (some identity) = .ok identity ∧
        requireSessionAuthorization db db now "connect" assetID (some identity) =
          .ok identity := by
  constructor
  · rintro ⟨t, h⟩
    rw [postTicket, Except.bind_eq_ok] at h
    obtain ⟨identity, hauth, h⟩ := h
    rw [Except.bind_eq_ok] at h
    obtain ⟨identity₁, hread, h⟩ := h
    rw [Except.bind_eq_ok] at h
    obtain ⟨identity₂, hsession, -⟩ := h
    obtain rfl : identity = identity₁ := Option.some.inj (requirePermission_eq_ok hread).1
    obtain rfl : identity₂ = identity := eq_of_requireSessionAuthorization hsession
    exact ⟨identity₂, (authMiddleware_eq_ok_iff htoken hparse).mp hauth, hread, hsession⟩
  · rintro ⟨identity, hident, hread, hsession⟩
    obtain ⟨t, ht⟩ := issueTicket_isOk p tickets now rand identity hne
    refine ⟨t, ?_⟩
    rw [postTicket, (authMiddleware_eq_ok_iff htoken hparse).mpr hident]
    simp only [bind, Except.bind, hread, hsession, ht]

/-- **The resolver and the connect routes agree up to `cmdb.asset:read`**: on a live asset an
authenticated request for a ticket succeeds exactly when the resolver allows the user to
connect and a row of the user's roles holds `cmdb.asset:read` or makes the user an admin. -/
theorem ticket_iff_resolve {p : Protocol} {parse : String → Option String} {db : Db} {now : Time}
    {tickets : TicketService} {rand header token : String} {userId : Uuid} {a : Cmdb.AssetRow}
    (hkey : (db.cmdbAsset.map (·.id)).Nodup) (ha : a ∈ db.cmdbAsset) (hlive : a.live = true)
    (htoken : bearerToken header = some token) (hparse : parse token = some userId.toText) :
    (∃ t, postTicket p parse db now tickets (.ok rand) header a.id.toText = .ok t) ↔
      (∃ res, resolveCapability db now (connectRequest userId a.id) = .ok res ∧
        res.allowed = true) ∧
      ∃ row ∈ permissionRows db userId, row.permission = some adminPermission ∨
        row.permission = some "cmdb.asset:read" := by
  have hlookup := lookupAsset_of_mem hkey ha hlive
  rw [postTicket_isOk_iff htoken hparse (Uuid.toText_ne_empty a.id),
    resolveCapability_allowed_iff hlookup rfl]
  constructor
  · rintro ⟨identity, hident, hread, hsession⟩
    rw [requireSessionAuthorization_iff hkey ha hlive] at hsession
    exact ⟨⟨identity, hident, hsession⟩, (mayRead_iff hident).mp hread⟩
  · rintro ⟨⟨identity, hident, hsession⟩, hrow⟩
    rw [← requireSessionAuthorization_iff hkey ha hlive] at hsession
    exact ⟨identity, hident, (mayRead_iff hident).mpr hrow, hsession⟩

/-- One user, `11111111-..`, with one role that has the given permissions, and one asset. -/
def oneUserDb (permissions : List (String × String)) : Db :=
  { iamUser := [{ id := Uuid.replicate 1, oidcSubject := "u" }]
    iamRole := [{ id := Uuid.replicate 2, name := "operator" }]
    iamRolePermission := permissions.map fun (resource, action) =>
      { roleId := Uuid.replicate 2, resource, action }
    iamUserRoleBinding := [{ userId := Uuid.replicate 1, roleId := Uuid.replicate 2 }]
    cmdbAsset := [{ id := Uuid.replicate 3, type := "vm", name := "db-1" }] }

/-- Every token is one of the user `11111111-..`. -/
def anyToken : String → Option String := fun _ => some (Uuid.replicate 1).toText

theorem ticket_iff_resolve_operator :
    (∃ t, postTicket .terminal anyToken
        (oneUserDb [("bastion.session", "connect"), ("cmdb.asset", "read")]) 0
        (newTicketService 0) (.ok "t") "Bearer x" (Uuid.replicate 3).toText = .ok t) ∧
      ∃ res, resolveCapability (oneUserDb [("bastion.session", "connect"), ("cmdb.asset", "read")])
        0 (connectRequest (Uuid.replicate 1) (Uuid.replicate 3)) = .ok res ∧
        res.allowed = true := by
  refine ⟨⟨_, rfl⟩, ?_⟩
  have hiff := @ticket_iff_resolve .terminal anyToken
    (oneUserDb [("bastion.session", "connect"), ("cmdb.asset", "read")]) 0 (newTicketService 0)
    "t" "Bearer x" "x" (Uuid.replicate 1)
    { id := Uuid.replicate 3, type := "vm", name := "db-1" } (by decide)
    (List.mem_singleton_self _) rfl (by decide) rfl
  exact (hiff.mp ⟨_, rfl⟩).1

/-- Without `cmdb.asset:read` the resolver allows what the route refuses. -/
theorem resolve_without_ticket :
    ¬ ((∃ res, resolveCapability (oneUserDb [("bastion.session", "connect")]) 0
          (connectRequest (Uuid.replicate 1) (Uuid.replicate 3)) = .ok res ∧
          res.allowed = true) ↔
        ∃ t, postTicket .terminal anyToken (oneUserDb [("bastion.session", "connect")]) 0
          (newTicketService 0) (.ok "t") "Bearer x" (Uuid.replicate 3).toText = .ok t) := by
  intro h
  obtain ⟨t, ht⟩ := h.mp ⟨_, rfl, rfl⟩
  have hrefused : postTicket .terminal anyToken (oneUserDb [("bastion.session", "connect")]) 0
      (newTicketService 0) (.ok "t") "Bearer x" (Uuid.replicate 3).toText =
        .error ⟨403, "permission denied", none⟩ := rfl
  rw [hrefused] at ht
  cases ht

end OpsPlatform.HttpServer
