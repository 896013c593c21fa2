/-
The two-person rule: nobody holds a grant that they gave to themselves.

Grants come from `createGrant` and from `approveRequest`.  An approval compares the requester
that it read from the row with the approver, both in canonical spelling, and so compares the
users.  `createGrant` compares the text of the request body, which the `INSERT` afterwards
reads with `uuid_in`; a caller whose text is another spelling of their own id passes the
comparison.  The rule holds along the runs in which no call does this.
-/
import OpsPlatform.Bastion.Handler

namespace OpsPlatform.Bastion

open Lib Lib.Run Lib.Table Iam

/-- A request to one of the writing routes of the bastion, with the identity that the
authentication put in its context, the instant at which it is served and the id that is drawn
for its row. -/
inductive Call where
  | createGrant (identity : UserIdentity) (body : Option Handler.CreateGrantRequest)
      (newId : Uuid) (now : Time)
  | revokeGrant (identity : UserIdentity) (grantID reason : String) (now : Time)
  | createRequest (identity : UserIdentity) (body : Option Handler.CreateRequestPayload)
      (newId : Uuid) (now : Time)
  | cancelRequest (identity : UserIdentity) (requestID : String) (now : Time)
  | approveRequest (identity : UserIdentity) (requestID reason : String) (newId : Uuid)
      (now : Time)
  | rejectRequest (identity : UserIdentity) (requestID reason : String) (now : Time)

/-- `Routes`: the gate of the route, then the handler. -/
def serve (db : Db) : Call → Except HttpError Db
  | .createGrant identity body newId now => do
    let identity ← requirePermission "bastion.grant" "write" (some identity)
    (Handler.createGrant db db now newId identity body).map Prod.fst
  | .revokeGrant identity grantID reason now => do
    let identity ← requirePermission "bastion.grant" "write" (some identity)
    Handler.revokeGrant db now identity grantID reason
  | .createRequest identity body newId now => do
    let identity ← requirePermission "bastion.request" "write" (some identity)
    (Handler.createRequest db now newId identity body).map Prod.fst
  | .cancelRequest identity requestID now => do
    let identity ← requirePermission "bastion.request" "write" (some identity)
    Handler.cancelRequest db now identity requestID
  | .approveRequest identity requestID reason newId now => do
    let identity ← requirePermission "bastion.grant" "write" (some identity)
    (Handler.approveRequest db db now newId identity requestID reason).map Prod.fst
  | .rejectRequest identity requestID reason now => do
    let identity ← requirePermission "bastion.grant" "write" (some identity)
    Handler.rejectRequest db now identity requestID reason

/-- The database after a call: a refused one leaves it as it was. -/
def exec (db : Db) (call : Call) : Db :=
  match serve db call with
  | .ok db' => db'
  | .error _ => db

/-- No grant was given by its own holder. -/
def NoSelfGrant (db : Db) : Prop := ∀ g ∈ db.bastionGrant, g.userId ≠ g.grantedById

/-- The body names the caller by a text that is not the canonical one. -/
def RespellsCaller (identity : UserIdentity) (req : Handler.CreateGrantRequest) : Prop :=
  Uuid.parse req.userID = some identity.user.id ∧ req.userID ≠ identity.user.id.toText

instance (identity : UserIdentity) (req : Handler.CreateGrantRequest) :
    Decidable (RespellsCaller identity req) := inferInstanceAs (Decidable (_ ∧ _))

/-- The condition on a call: `createGrant` is not asked to grant to the caller under another
spelling. -/
def Call.NamesOthers : Call → Prop
  | .createGrant identity (some req) _ _ => ¬ RespellsCaller identity req
  | _ => True

/-! ### One call -/

/-- A call that is served with success has passed its gate with the identity it came with. -/
lemma gate_eq_ok {α : Type} {resource action : String} {identity : UserIdentity}
    {k : UserIdentity → Except HttpError α} {a : α}
    (h : (requirePermission resource action (some identity) >>= k) = .ok a) :
    k identity = .ok a := by
  obtain ⟨id, hid, hk⟩ := Except.bind_eq_ok.mp h
  obtain ⟨hctx, -⟩ := requirePermission_eq_ok hid
  rw [Option.some.inj hctx]
  exact hk

/-- What a call can do to the grants: nothing, a revocation, or one more grant, which
`createGrant` makes from texts that the caller chose and `approveRequest` from a request of
another user. -/
lemma serve_grants {db db' : Db} {call : Call} (h : serve db call = .ok db') :
    (∃ p f, (∀ g : GrantRow, (f g).userId = g.userId ∧ (f g).grantedById = g.grantedById) ∧
      db'.bastionGrant = updateWhere p f db.bastionGrant) ∨
    ∃ g, db'.bastionGrant = db.bastionGrant ++ [g] ∧
      ((∃ identity req newId now, call = .createGrant identity (some req) newId now ∧
        req.userID ≠ identity.user.id.toText ∧ Uuid.parse req.userID = some g.userId ∧
        g.grantedById = identity.user.id) ∨
      g.userId ≠ g.grantedById) := by
  have hsame : db'.bastionGrant = db.bastionGrant → ∃ p f,
      (∀ g : GrantRow, (f g).userId = g.userId ∧ (f g).grantedById = g.grantedById) ∧
      db'.bastionGrant = updateWhere p f db.bastionGrant := by
    intro heq
    refine ⟨fun _ => false, id, fun g => ⟨rfl, rfl⟩, ?_⟩
    simp [heq, updateWhere]
  cases call with
  | createGrant identity body newId now =>
    obtain ⟨g, hg⟩ := Except.map_fst_eq_ok (gate_eq_ok h)
    obtain ⟨req, rfl, hne, -, rfl, huser, -, hby⟩ := Handler.createGrant_eq_ok hg
    exact Or.inr ⟨g, rfl, Or.inl ⟨identity, req, newId, now, rfl, hne, huser, hby⟩⟩
  | revokeGrant identity grantID reason now =>
    obtain ⟨id, -, -, rfl⟩ := revokeGrant_eq_ok (Except.mapError_eq_ok.mp (gate_eq_ok h))
    refine Or.inl ⟨_, _, ?_, rfl⟩
    exact fun g => ⟨rfl, rfl⟩
  | createRequest identity body newId now =>
    obtain ⟨r, hr⟩ := Except.map_fst_eq_ok (gate_eq_ok h)
    exact Or.inl (hsame (by rw [Handler.createRequest_eq_ok hr]))
  | cancelRequest identity requestID now =>
    obtain ⟨id, -, -, rfl⟩ := decideRequest_eq_ok (Except.mapError_eq_ok.mp (gate_eq_ok h))
    exact Or.inl (hsame rfl)
  | approveRequest identity requestID reason newId now =>
    obtain ⟨⟨r', g⟩, hg⟩ := Except.map_fst_eq_ok (gate_eq_ok h)
    obtain ⟨id, r, -, -, -, hne, rfl, -, rfl⟩ :=
      approveRequest_eq_ok (Handler.approveRequest_eq_ok hg).2
    exact Or.inr ⟨_, rfl, Or.inr hne⟩
  | rejectRequest identity requestID reason now =>
    obtain ⟨id, -, -, rfl⟩ := decideRequest_eq_ok (Except.mapError_eq_ok.mp (gate_eq_ok h))
    exact Or.inl (hsame rfl)

/-- A grant that `createGrant` made is a self-grant exactly when the body respelled the
caller's id. -/
lemma createGrant_selfGrant_iff {seen db db' : Db} {now : Time} {newId : Uuid}
    {identity : UserIdentity} {req : Handler.CreateGrantRequest} {g : GrantRow}
    (h : Handler.createGrant seen db now newId identity (some req) = .ok (db', g)) :
    g.userId = g.grantedById ↔ RespellsCaller identity req := by
  obtain ⟨req', hreq, hne, -, -, huser, -, hby⟩ := Handler.createGrant_eq_ok h
  obtain rfl := Option.some.inj hreq
  rw [RespellsCaller, huser, hby, Option.some.injEq]
  exact ⟨fun heq => ⟨heq, hne⟩, fun heq => heq.1⟩

lemma exec_noSelfGrant {db : Db} {call : Call} (hdb : NoSelfGrant db) (hcall : call.NamesOthers) :
    NoSelfGrant (exec db call) := by
  rw [exec]
  split
  · next db' h =>
    rcases serve_grants h with ⟨p, f, hf, hgrants⟩ | ⟨g, hgrants, hg⟩
    · intro g hg
      rw [hgrants, mem_updateWhere] at hg
      obtain ⟨g₀, hg₀, ⟨-, rfl⟩ | ⟨-, rfl⟩⟩ := hg
      · rw [(hf g₀).1, (hf g₀).2]
        exact hdb g₀ hg₀
      · exact hdb g hg₀
    · intro g' hg'
      rw [hgrants, List.mem_append, List.mem_singleton] at hg'
      rcases hg' with hg' | rfl
      · exact hdb g' hg'
      · rcases hg with ⟨identity, req, newId, now, rfl, hne, huser, hby⟩ | hg
        · intro heq
          exact hcall ⟨by rw [huser, heq, hby], hne⟩
        · exact hg
  · exact hdb

/-! ### Every run -/

/-- **The two-person rule.**  Along every run of calls of which none asks `createGrant` for a
grant to the caller under another spelling of the caller's id, no grant has its holder as its
granter. -/
theorem noSelfGrant_run {db : Db} {calls : List Call} (hdb : NoSelfGrant db)
    (hcalls : Along exec (fun _ call => call.NamesOthers) db calls) :
    ∀ g ∈ (run exec db calls).bastionGrant, g.userId ≠ g.grantedById :=
  invariant_along (fun _ _ => exec_noSelfGrant) hdb hcalls

/-- An admin whose id is `aaaaaaaa-aaaa-aaaa-aaaa-aaaaaaaaaaaa`. -/
def adminA : UserIdentity :=
  { user := { id := Uuid.replicate 10, name := "a" }, permissions := [adminPermission] }

/-- `adminA` asks for a grant to `userID` on the asset `bbbbbbbb-bbbb-bbbb-bbbb-bbbbbbbbbbbb`. -/
def grantBy (userID : String) : Call :=
  .createGrant adminA
    (some { userID, assetID := "bbbbbbbb-bbbb-bbbb-bbbb-bbbbbbbbbbbb", reason := "",
            durationSeconds := 0 })
    (Uuid.replicate 1) 0

theorem noSelfGrant_run_grantBy :
    (run exec {} [grantBy "cccccccc-cccc-cccc-cccc-cccccccccccc"]).bastionGrant.length = 1 ∧
      ∀ g ∈ (run exec {} [grantBy "cccccccc-cccc-cccc-cccc-cccccccccccc"]).bastionGrant,
        g.userId ≠ g.grantedById := by
  refine ⟨by decide, noSelfGrant_run (by simp [NoSelfGrant]) ⟨?_, trivial⟩⟩
  show ¬ RespellsCaller _ _
  decide

/-- In upper case the caller's own id passes the guard, and the grant is a self-grant. -/
theorem selfGrant_of_upper_case :
    ¬ NoSelfGrant (run exec {} [grantBy "AAAAAAAA-AAAA-AAAA-AAAA-AAAAAAAAAAAA"]) := by
  intro h
  refine h (GrantRow.mk (Uuid.replicate 1) (Uuid.replicate 10) "" (Uuid.replicate 11) ""
    (Uuid.replicate 10) "" "" (3600 * second) none none "" "" none 0) ?_ rfl
  decide

end OpsPlatform.Bastion
