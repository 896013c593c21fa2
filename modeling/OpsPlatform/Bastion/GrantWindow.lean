/-
The window of a grant.

The duration of a grant is checked by `createGrant` and by `createRequest`, stored with the
request, and added to the clock by `createGrant` and by `approveRequest`.  Whether a grant is
active is asked in `FindActiveGrant`, in the resolver, in `ListGrants` and in `scanGrant`.  A run
of calls has a history, with what every call that succeeded told its caller; all four agree with
it at every instant.
-/
import OpsPlatform.Bastion.Listing
import OpsPlatform.Bastion.TwoPersonRule
import OpsPlatform.Iam.Capability

namespace OpsPlatform.Bastion

open Lib Lib.Run Lib.Table Iam

/-! ### Histories -/

/-- The instant at which a call is served. -/
def Call.now : Call → Time
  | .createGrant _ _ _ now => now
  | .revokeGrant _ _ _ now => now
  | .createRequest _ _ _ now => now
  | .cancelRequest _ _ now => now
  | .approveRequest _ _ _ _ now => now
  | .rejectRequest _ _ _ now => now

/-- What a call that succeeded has done to the grants: it has returned a new one, or it has
revoked the one that it named. -/
inductive GrantEvent where
  | created (g : GrantRow)
  | revoked (id : Uuid)
deriving DecidableEq

/-- `createGrant` behind its gate. -/
def serveCreateGrant (db : Db) (now : Time) (newId : Uuid) (identity : UserIdentity)
    (body : Option Handler.CreateGrantRequest) : Except HttpError (Db × GrantRow) := do
  let identity ← requirePermission "bastion.grant" "write" (some identity)
  Handler.createGrant db db now newId identity body

/-- `approveRequest` behind its gate. -/
def serveApproveRequest (db : Db) (now : Time) (newId : Uuid) (identity : UserIdentity)
    (requestID reason : String) : Except HttpError (Db × RequestRow × GrantRow) := do
  let identity ← requirePermission "bastion.grant" "write" (some identity)
  Handler.approveRequest db db now newId identity requestID reason

/-- The event of a call. -/
def Call.event (db : Db) (call : Call) : Option GrantEvent :=
  match call with
  | .createGrant identity body newId now =>
    (serveCreateGrant db now newId identity body).toOption.map fun (_, g) => .created g
  | .approveRequest identity requestID reason newId now =>
    (serveApproveRequest db now newId identity requestID reason).toOption.map
      fun (_, _, g) => .created g
  | .revokeGrant _ grantID _ _ =>
    (serve db call).toOption.bind fun _ => (Uuid.parse grantID).map .revoked
  | _ => none

/-- The events of a run, each with its instant. -/
def history : Db → List Call → List (Time × GrantEvent)
  | _, [] => []
  | db, call :: calls =>
    ((call.event db).toList.map fun e => (call.now, e)) ++ history (exec db call) calls

/-- The calls that have been served at the instant `t`. -/
def servedBy (calls : List Call) (t : Time) : List Call :=
  calls.takeWhile fun call => call.now ≤ t

/-- The database at the instant `t` of a run. -/
def stateAt (db : Db) (calls : List Call) (t : Time) : Db := run exec db (servedBy calls t)

/-- The grant as it was created: a revocation only assigns these columns. -/
def GrantRow.unrevoked (g : GrantRow) : GrantRow :=
  { g with revokedAt := none, revokedById := none, revokedByName := "", revokeReason := "" }

/-- The grant was created at or before `t`, has not expired at `t` and was not revoked at or
before `t`. -/
def ActiveAt (events : List (Time × GrantEvent)) (g : GrantRow) (t : Time) : Prop :=
  ∃ s ≤ t, (s, .created g) ∈ events ∧ t < g.expiresAt ∧ ∀ r ≤ t, (r, .revoked g.id) ∉ events

/-- Some grant for the user and the asset is active. -/
def AccessAt (events : List (Time × GrantEvent)) (userId assetId : Uuid) (t : Time) : Prop :=
  ∃ g : GrantRow, g.userId = userId ∧ g.assetId = assetId ∧ ActiveAt events g t

/-- What the grants of a run promise. -/
structure GrantsEnd (db : Db) (calls : List Call) : Prop where
  /-- A grant expires after the instant of its creation, and at most 12 hours after it. -/
  bounded : ∀ s g, (s, .created g) ∈ history db calls →
    s < g.expiresAt ∧ g.expiresAt ≤ s + 12 * 3600 * second
  /-- Every row of the table is a grant that was created. -/
  recorded : ∀ t, ∀ g ∈ (stateAt db calls t).bastionGrant,
    (g.createdAt, .created g.unrevoked) ∈ history db calls
  /-- `FindActiveGrant` succeeds exactly while a grant is active. -/
  find_iff : ∀ t userId assetID assetId, Uuid.parse assetID = some assetId →
    ((∃ g, findActiveGrant (stateAt db calls t) t userId assetID = .ok g) ↔
      AccessAt (history db calls) userId assetId t)
  /-- The resolver finds a grant at the same instants. -/
  resolve_iff : ∀ t userId assetId,
    (∃ g, activeGrantFor (stateAt db calls t) t userId.toText assetId.toText = .ok (some g)) ↔
      AccessAt (history db calls) userId assetId t
  /-- A grant is listed with `ActiveOnly` exactly while it is active, and marked as active. -/
  list_iff : ∀ t, ∀ g ∈ (stateAt db calls t).bastionGrant,
    ((∃ q : ListGrantsQuery, q.activeOnly = true ∧ ∃ items,
        listGrants (stateAt db calls t) t q = .ok items ∧ scanGrant t g ∈ items) ↔
      ActiveAt (history db calls) g.unrevoked t) ∧
    ((scanGrant t g).active = true ↔ ActiveAt (history db calls) g.unrevoked t)
  /-- A grant that is not active is never active again. -/
  ends : ∀ t t', t ≤ t' → ∀ g ∈ (stateAt db calls t).bastionGrant, g.active t = false →
    ∀ g' ∈ (stateAt db calls t').bastionGrant, g'.id = g.id → g'.active t' = false

/-! ### What a call does to the grants -/

/-- The durations of requests are those that `createRequest` lets through. -/
def DurationsBounded (db : Db) : Prop :=
  ∀ r ∈ db.bastionRequest,
    0 < r.requestedDurationSeconds ∧ r.requestedDurationSeconds ≤ Handler.maxDurationSecs

/-- The grant is new: it was made at `now`, with a duration that is let through. -/
structure NewGrant (now : Time) (g : GrantRow) : Prop where
  createdAt : g.createdAt = now
  unrevoked : g.unrevoked = g
  expires : ∃ seconds, 0 < seconds ∧ seconds ≤ Handler.maxDurationSecs ∧
    g.expiresAt = now + seconds * second

/-- The effect of a call on the grants, by its event. -/
inductive GrantStep (now : Time) (grants : List GrantRow) :
    Option GrantEvent → List GrantRow → Prop
  | quiet : GrantStep now grants none grants
  | created (g : GrantRow) (hnew : NewGrant now g) (hfresh : ∀ g₀ ∈ grants, g₀.id ≠ g.id) :
      GrantStep now grants (some (.created g)) (grants ++ [g])
  | revoked (id : Uuid) (f : GrantRow → GrantRow)
      (hf : ∀ g, (f g).unrevoked = g.unrevoked ∧ (f g).revokedAt = some now)
      (hhit : ∃ g ∈ grants, g.id = id ∧ g.revokedAt = none) :
      GrantStep now grants (some (.revoked id))
        (updateWhere (fun g => g.id == id && g.revokedAt.isNone) f grants)

section

variable {db db' : Db} {now : Time} {newId : Uuid} {identity : UserIdentity}

lemma effectiveDuration_pos (seconds : Int) : 0 < Handler.effectiveDuration seconds := by
  rw [Handler.effectiveDuration]
  split <;> omega

/-- The columns of a new grant that its window is made of. -/
lemma grantOfInput_window {input : CreateGrantInput} {granterID : Uuid}
    {userName assetName granterName : String} {g : GrantRow}
    (h : grantOfInput now newId input granterID userName assetName granterName = .ok g) :
    g.createdAt = now ∧ g.unrevoked = g ∧ g.expiresAt = input.expiresAt := by
  rw [grantOfInput, Except.bind_eq_ok] at h
  obtain ⟨userId, -, h⟩ := h
  rw [Except.bind_eq_ok] at h
  obtain ⟨assetId, -, h⟩ := h
  rw [Except.bind_eq_ok] at h
  obtain ⟨requestId, -, h⟩ := h
  obtain rfl := Except.ok.inj h
  exact ⟨rfl, rfl, rfl⟩

lemma createGrant_newGrant {body : Option Handler.CreateGrantRequest} {g : GrantRow}
    (h : Handler.createGrant db db now newId identity body = .ok (db', g)) :
    NewGrant now g ∧ (∀ g₀ ∈ db.bastionGrant, g₀.id ≠ g.id) ∧
      db' = { db with bastionGrant := db.bastionGrant ++ [g] } := by
  rcases body with _ | req
  · cases h
  · rw [Handler.createGrant, Except.ite_error_eq_ok, Except.ite_error_eq_ok, Except.bind_eq_ok] at h
    obtain ⟨-, -, _, -, h⟩ := h
    rw [Except.ite_error_eq_ok, Except.mapError_eq_ok, createGrant, Except.bind_eq_ok] at h
    obtain ⟨hmax, g', hg', h⟩ := h
    obtain ⟨rfl, rfl, hfresh⟩ := insertGrant_eq_ok h
    refine ⟨?_, hfresh, rfl⟩
    obtain ⟨hcreated, hunrevoked, hexpires⟩ := grantOfInput_window hg'
    exact ⟨hcreated, hunrevoked, _, effectiveDuration_pos _, not_lt.mp hmax, hexpires⟩

lemma approveRequest_newGrant (hdb : DurationsBounded db) {requestID reason : String}
    {r' : RequestRow} {g : GrantRow}
    (h : Handler.approveRequest db db now newId identity requestID reason = .ok (db', r', g)) :
    NewGrant now g ∧ (∀ g₀ ∈ db.bastionGrant, g₀.id ≠ g.id) ∧
      db'.bastionGrant = db.bastionGrant ++ [g] ∧ DurationsBounded db' := by
  obtain ⟨id, r, -, hfind, -, -, rfl, hfresh, rfl⟩ :=
    approveRequest_eq_ok (Handler.approveRequest_eq_ok h).2
  have hr := hdb r (List.mem_of_find?_eq_some hfind)
  refine ⟨⟨rfl, rfl, _, hr.1, hr.2, rfl⟩, hfresh, rfl, ?_⟩
  intro r₁ hr₁
  obtain ⟨r₀, hr₀, ⟨-, rfl⟩ | ⟨-, rfl⟩⟩ := mem_updateWhere.mp hr₁
  · exact hdb r₀ hr₀
  · exact hdb r₁ hr₀

lemma createRequest_durations (hdb : DurationsBounded db)
    {body : Option Handler.CreateRequestPayload} {r : RequestRow}
    (h : Handler.createRequest db now newId identity body = .ok (db', r)) :
    DurationsBounded db' := by
  rcases body with _ | req
  · cases h
  · rw [Handler.createRequest, Except.ite_error_eq_ok, Except.ite_error_eq_ok,
      Except.mapError_eq_ok] at h
    obtain ⟨-, hmax, h⟩ := h
    obtain ⟨hr, -, rfl⟩ := createRequest_eq_ok h
    obtain ⟨-, -, -, -, hseconds⟩ := requestOfInput_eq_ok hr
    intro r₀ hr₀
    rcases List.mem_append.mp hr₀ with hold | hadded
    · exact hdb r₀ hold
    · obtain rfl := List.mem_singleton.mp hadded
      rw [hseconds]
      exact ⟨effectiveDuration_pos _, not_lt.mp hmax⟩

lemma decideRequest_durations (hdb : DurationsBounded db) {requestID : String}
    {guard : RequestRow → Bool} {assign : RequestRow → RequestRow}
    (h : decideRequest db requestID guard assign = .ok db')
    (hassign : ∀ r, (assign r).requestedDurationSeconds = r.requestedDurationSeconds) :
    db'.bastionGrant = db.bastionGrant ∧ DurationsBounded db' := by
  obtain ⟨id, -, -, rfl⟩ := decideRequest_eq_ok h
  refine ⟨rfl, ?_⟩
  intro r₁ hr₁
  obtain ⟨r₀, hr₀, ⟨-, rfl⟩ | ⟨-, rfl⟩⟩ := mem_updateWhere.mp hr₁
  · rw [hassign]
    exact hdb r₀ hr₀
  · exact hdb r₁ hr₀

/-- A call that is refused has no effect. -/
lemma exec_of_error {call : Call} {e : HttpError} (h : serve db call = .error e) :
    exec db call = db := by
  rw [exec, h]

lemma exec_of_ok {call : Call} (h : serve db call = .ok db') : exec db call = db' := by
  rw [exec, h]

lemma serve_createGrant (body : Option Handler.CreateGrantRequest) :
    serve db (.createGrant identity body newId now) =
      (serveCreateGrant db now newId identity body).map Prod.fst := by
  rw [serve, serveCreateGrant]
  cases requirePermission "bastion.grant" "write" (some identity) <;> rfl

lemma serve_approveRequest (requestID reason : String) :
    serve db (.approveRequest identity requestID reason newId now) =
      (serveApproveRequest db now newId identity requestID reason).map Prod.fst := by
  rw [serve, serveApproveRequest]
  -- the call itself is the same on both sides
  generalize Handler.approveRequest db db now newId = approve
  cases requirePermission "bastion.grant" "write" (some identity) <;> rfl

/-- A call that is refused has no event. -/
lemma event_of_error {call : Call} {e : HttpError} (h : serve db call = .error e) :
    call.event db = none := by
  cases call with
  | createGrant identity body newId now =>
    rw [serve_createGrant] at h
    cases hx : serveCreateGrant db now newId identity body with
    | error e => rw [Call.event, hx]; rfl
    | ok x => rw [hx] at h; cases h
  | approveRequest identity requestID reason newId now =>
    rw [serve_approveRequest] at h
    cases hx : serveApproveRequest db now newId identity requestID reason with
    | error e => rw [Call.event, hx]; rfl
    | ok x => rw [hx] at h; cases h
  | revokeGrant identity grantID reason now => rw [Call.event, h]; rfl
  | createRequest identity body newId now => rfl
  | cancelRequest identity requestID now => rfl
  | rejectRequest identity requestID reason now => rfl

/-- A call that is served has the effect that its event tells. -/
lemma grantStep_of_serve (hdb : DurationsBounded db) {call : Call} (h : serve db call = .ok db') :
    GrantStep call.now db.bastionGrant (call.event db) db'.bastionGrant ∧ DurationsBounded db' := by
  cases call with
  | createGrant identity body newId now =>
    rw [serve_createGrant] at h
    obtain ⟨g, hx⟩ := Except.map_fst_eq_ok h
    rw [Call.event, hx]
    obtain ⟨hnew, hfresh, rfl⟩ := createGrant_newGrant (gate_eq_ok hx)
    exact ⟨.created g hnew hfresh, hdb⟩
  | revokeGrant identity grantID reason now =>
    have hrevoke := Except.mapError_eq_ok.mp (gate_eq_ok h)
    obtain ⟨id, hparse, ⟨g, hg, rfl, hnone⟩, rfl⟩ := revokeGrant_eq_ok hrevoke
    have hevent : Call.event db (.revokeGrant identity grantID reason now) =
        some (.revoked g.id) := by
      rw [Call.event, h]
      exact congrArg (Option.map GrantEvent.revoked) hparse
    rw [hevent]
    refine ⟨.revoked g.id _ ?_ ⟨g, hg, rfl, hnone⟩, hdb⟩
    exact fun g => ⟨rfl, rfl⟩
  | createRequest identity body newId now =>
    obtain ⟨r, hr⟩ := Except.map_fst_eq_ok (gate_eq_ok h)
    have hdurations := createRequest_durations hdb hr
    rw [Handler.createRequest_eq_ok hr] at hdurations ⊢
    exact ⟨.quiet, hdurations⟩
  | cancelRequest identity requestID now =>
    obtain ⟨hgrants, hdurations⟩ := decideRequest_durations hdb
      (Except.mapError_eq_ok.mp (gate_eq_ok h)) fun _ => rfl
    rw [hgrants]
    exact ⟨.quiet, hdurations⟩
  | approveRequest identity requestID reason newId now =>
    rw [serve_approveRequest] at h
    obtain ⟨⟨r', g⟩, hx⟩ := Except.map_fst_eq_ok h
    rw [Call.event, hx]
    obtain ⟨hnew, hfresh, hgrants, hdurations⟩ := approveRequest_newGrant hdb (gate_eq_ok hx)
    rw [hgrants]
    exact ⟨.created g hnew hfresh, hdurations⟩
  | rejectRequest identity requestID reason now =>
    obtain ⟨hgrants, hdurations⟩ := decideRequest_durations hdb
      (Except.mapError_eq_ok.mp (gate_eq_ok h)) fun _ => rfl
    rw [hgrants]
    exact ⟨.quiet, hdurations⟩

lemma exec_grantStep (hdb : DurationsBounded db) (call : Call) :
    GrantStep call.now db.bastionGrant (call.event db) (exec db call).bastionGrant ∧
      DurationsBounded (exec db call) := by
  cases hserve : serve db call with
  | error e =>
    rw [exec_of_error hserve, event_of_error hserve]
    exact ⟨.quiet, hdb⟩
  | ok db' =>
    rw [exec_of_ok hserve]
    exact grantStep_of_serve hdb hserve

end

/-! ### The table and the history -/

/-- The table of grants is what the history says: its rows are the grants that were created, and
their revocations are those that were made. -/
structure Tracked (events : List (Time × GrantEvent)) (db : Db) : Prop where
  durations : DurationsBounded db
  keys : (db.bastionGrant.map (·.id)).Nodup
  created_iff : ∀ s g₀, (s, .created g₀) ∈ events ↔
    s = g₀.createdAt ∧ ∃ g ∈ db.bastionGrant, g.unrevoked = g₀
  revoked_iff : ∀ s id, (s, .revoked id) ∈ events ↔
    ∃ g ∈ db.bastionGrant, g.id = id ∧ g.revokedAt = some s
  window : ∀ g ∈ db.bastionGrant,
    g.createdAt < g.expiresAt ∧ g.expiresAt ≤ g.createdAt + 12 * 3600 * second

section

variable {db : Db} {events : List (Time × GrantEvent)} {calls : List Call} {t : Time}

lemma NewGrant.window {now : Time} {g : GrantRow} (h : NewGrant now g) :
    g.createdAt < g.expiresAt ∧ g.expiresAt ≤ g.createdAt + 12 * 3600 * second := by
  obtain ⟨seconds, hpos, hmax, hexpires⟩ := h.expires
  rw [Handler.maxDurationSecs] at hmax
  have hlow : 0 < seconds * second := by
    rw [second]
    omega
  have hhigh : seconds * second ≤ 12 * 3600 * second := by
    rw [second]
    omega
  rw [h.createdAt, hexpires]
  exact ⟨Int.lt_add_of_pos_right now hlow, Int.add_le_add_left hhigh now⟩

lemma id_eq_of_unrevoked {g g' : GrantRow} (h : g.unrevoked = g'.unrevoked) : g.id = g'.id := by
  have hid := congrArg GrantRow.id h
  exact hid

lemma tracked_of_empty (hgrants : db.bastionGrant = []) (hrequests : db.bastionRequest = []) :
    Tracked [] db := by
  refine ⟨?_, ?_, ?_, ?_, ?_⟩ <;> simp [DurationsBounded, hgrants, hrequests]

lemma Tracked.created {now : Time} {g : GrantRow} (h : Tracked events db) (hnew : NewGrant now g)
    (hfresh : ∀ g₀ ∈ db.bastionGrant, g₀.id ≠ g.id) {db' : Db} (hdb' : DurationsBounded db')
    (hgrants : db'.bastionGrant = db.bastionGrant ++ [g]) :
    Tracked (events ++ [(now, .created g)]) db' := by
  have hnone : g.revokedAt = none := by
    rw [← hnew.unrevoked]
    rfl
  refine ⟨hdb', ?_, ?_, ?_, ?_⟩
  · rw [hgrants]
    exact nodup_map_append h.keys hfresh
  · intro s g₀
    rw [List.mem_append, h.created_iff, List.mem_singleton, Prod.mk.injEq, GrantEvent.created.injEq,
      hgrants]
    simp only [List.mem_append, List.mem_singleton, or_and_right, exists_or, exists_eq_left,
      hnew.unrevoked, and_or_left]
    refine or_congr_right ⟨?_, ?_⟩
    · rintro ⟨rfl, rfl⟩
      exact ⟨hnew.createdAt.symm, rfl⟩
    · rintro ⟨rfl, rfl⟩
      exact ⟨hnew.createdAt, rfl⟩
  · intro s id
    simp [h.revoked_iff, hgrants, or_and_right, exists_or, hnone]
  · intro g' hg'
    rw [hgrants, List.mem_append, List.mem_singleton] at hg'
    rcases hg' with hg' | rfl
    · exact h.window g' hg'
    · exact hnew.window

lemma Tracked.revoked {now : Time} {id : Uuid} {f : GrantRow → GrantRow} (h : Tracked events db)
    (hf : ∀ g, (f g).unrevoked = g.unrevoked ∧ (f g).revokedAt = some now)
    (hhit : ∃ g ∈ db.bastionGrant, g.id = id ∧ g.revokedAt = none) {db' : Db}
    (hdb' : DurationsBounded db') (hgrants : db'.bastionGrant =
      updateWhere (fun g => g.id == id && g.revokedAt.isNone) f db.bastionGrant) :
    Tracked (events ++ [(now, .revoked id)]) db' := by
  obtain ⟨g₁, hg₁, rfl, hnone⟩ := hhit
  -- keys are unique, so exactly the row `g₁` is assigned to
  have hp : ∀ g ∈ db.bastionGrant, (g.id == g₁.id && g.revokedAt.isNone) = true ↔ g = g₁ := by
    intro g hg
    simp only [Bool.and_eq_true, beq_iff_eq, Option.isNone_iff_eq_none]
    constructor
    · exact fun hgid => List.inj_on_of_nodup_map h.keys hg hg₁ hgid.1
    · rintro rfl
      exact ⟨rfl, hnone⟩
  have hmem : ∀ g', g' ∈ db'.bastionGrant ↔ g' = f g₁ ∨ (g' ∈ db.bastionGrant ∧ g' ≠ g₁) := by
    intro g'
    rw [hgrants, mem_updateWhere]
    constructor
    · rintro ⟨g, hg, ⟨hpg, rfl⟩ | ⟨hpg, rfl⟩⟩
      · exact Or.inl (by rw [(hp g hg).mp hpg])
      · refine Or.inr ⟨hg, ?_⟩
        intro heq
        rw [(hp _ hg).mpr heq] at hpg
        cases hpg
    · rintro (rfl | ⟨hg', hne⟩)
      · exact ⟨g₁, hg₁, Or.inl ⟨(hp g₁ hg₁).mpr rfl, rfl⟩⟩
      · refine ⟨g', hg', Or.inr ⟨?_, rfl⟩⟩
        rw [Bool.eq_false_iff, Ne, hp g' hg']
        exact hne
  have hid : (f g₁).id = g₁.id := id_eq_of_unrevoked (hf g₁).1
  refine ⟨hdb', ?_, ?_, ?_, ?_⟩
  · rw [hgrants]
    exact nodup_map_updateWhere (fun g _ => id_eq_of_unrevoked (hf g).1) h.keys
  · intro s g₀
    rw [List.mem_append, h.created_iff, List.mem_singleton, Prod.mk.injEq]
    simp only [reduceCtorEq, and_false, or_false, hmem]
    refine and_congr_right fun _ => ⟨?_, ?_⟩
    · rintro ⟨g, hg, rfl⟩
      by_cases heq : g = g₁
      · exact ⟨f g₁, Or.inl rfl, by rw [heq, (hf g₁).1]⟩
      · exact ⟨g, Or.inr ⟨hg, heq⟩, rfl⟩
    · rintro ⟨g, rfl | ⟨hg, -⟩, rfl⟩
      · exact ⟨g₁, hg₁, (hf g₁).1.symm⟩
      · exact ⟨g, hg, rfl⟩
  · intro s id
    rw [List.mem_append, h.revoked_iff, List.mem_singleton, Prod.mk.injEq, GrantEvent.revoked.injEq]
    simp only [hmem]
    constructor
    · rintro (⟨g, hg, rfl, hs⟩ | ⟨rfl, rfl⟩)
      · refine ⟨g, Or.inr ⟨hg, ?_⟩, rfl, hs⟩
        rintro rfl
        rw [hnone] at hs
        cases hs
      · exact ⟨f g₁, Or.inl rfl, hid, (hf g₁).2⟩
    · rintro ⟨g, rfl | ⟨hg, -⟩, rfl, hs⟩
      · exact Or.inr ⟨Option.some.inj (hs.symm.trans (hf g₁).2), hid⟩
      · exact Or.inl ⟨g, hg, rfl, hs⟩
  · intro g' hg'
    rcases (hmem g').mp hg' with rfl | ⟨hg, -⟩
    · have hcreated := congrArg GrantRow.createdAt (hf g₁).1
      have hexpires := congrArg GrantRow.expiresAt (hf g₁).1
      simp only [GrantRow.unrevoked] at hcreated hexpires
      rw [hcreated, hexpires]
      exact h.window g₁ hg₁
    · exact h.window g' hg

/-- One call keeps the table and the history in step. -/
lemma Tracked.step (h : Tracked events db) (call : Call) :
    Tracked (events ++ (call.event db).toList.map fun e => (call.now, e)) (exec db call) := by
  obtain ⟨hstep, hdurations⟩ := exec_grantStep h.durations call
  generalize hgrants : (exec db call).bastionGrant = grants at hstep
  generalize call.event db = event at hstep ⊢
  cases hstep with
  | quiet =>
    rw [Option.toList_none, List.map_nil, List.append_nil]
    refine ⟨hdurations, ?_, ?_, ?_, ?_⟩
    · rw [hgrants]
      exact h.keys
    · rw [hgrants]
      exact h.created_iff
    · rw [hgrants]
      exact h.revoked_iff
    · rw [hgrants]
      exact h.window
  | created g hnew hfresh => exact h.created hnew hfresh hdurations hgrants
  | revoked id f hf hhit => exact h.revoked hf hhit hdurations hgrants

lemma Tracked.along (h : Tracked events db) (calls : List Call) :
    Tracked (events ++ history db calls) (run exec db calls) := by
  induction calls generalizing events db with
  | nil =>
    rw [history, List.append_nil]
    exact h
  | cons call calls ih =>
    rw [history, ← List.append_assoc, run_cons]
    exact ih (h.step call)

/-! ### The clock -/

lemma history_append (db : Db) (calls later : List Call) :
    history db (calls ++ later) = history db calls ++ history (run exec db calls) later := by
  induction calls generalizing db with
  | nil => rfl
  | cons call calls ih => rw [List.cons_append, history, ih, history, run_cons, List.append_assoc]

lemma exists_of_mem_history {s : Time} {e : GrantEvent} (h : (s, e) ∈ history db calls) :
    ∃ call ∈ calls, call.now = s := by
  induction calls generalizing db with
  | nil => cases h
  | cons call calls ih =>
    rw [history, List.mem_append] at h
    rcases h with h | h
    · obtain ⟨e', -, heq⟩ := List.mem_map.mp h
      exact ⟨call, List.mem_cons_self, congrArg Prod.fst heq⟩
    · obtain ⟨c, hc, hs⟩ := ih h
      exact ⟨c, List.mem_cons_of_mem _ hc, hs⟩

lemma now_le_of_servedBy {call : Call} (h : call ∈ servedBy calls t) : call.now ≤ t := by
  simpa using List.all_eq_true.mp List.all_takeWhile call h

/-- What happened at or before `t` is what the calls that have been served by then have done. -/
lemma mem_history_servedBy (hclock : (calls.map Call.now).Pairwise (· ≤ ·)) {s : Time} (hs : s ≤ t)
    (e : GrantEvent) : (s, e) ∈ history db (servedBy calls t) ↔ (s, e) ∈ history db calls := by
  have hsplit : servedBy calls t ++ calls.dropWhile (fun call => call.now ≤ t) = calls :=
    List.takeWhile_append_dropWhile
  conv_rhs => rw [← hsplit, history_append, List.mem_append]
  refine (or_iff_left ?_).symm
  intro hlater
  obtain ⟨call, hcall, hnow⟩ := exists_of_mem_history hlater
  -- the first call that is left is later than `t`, and the others are not earlier than it
  cases hrest : calls.dropWhile fun call => call.now ≤ t with
  | nil =>
    rw [hrest] at hcall
    cases hcall
  | cons first rest =>
    have hfirst : t < first.now := by
      have hhead := List.head?_dropWhile_not (fun call : Call => decide (call.now ≤ t)) calls
      rw [hrest] at hhead
      simpa using hhead
    have hle : first.now ≤ call.now := by
      rw [hrest] at hcall
      rw [← hsplit, hrest, List.map_append, List.map_cons, List.pairwise_append,
        List.pairwise_cons] at hclock
      rcases List.mem_cons.mp hcall with rfl | hcall
      · exact le_rfl
      · exact hclock.2.1.1 _ (List.mem_map_of_mem hcall)
    exact absurd (hnow ▸ hle) (not_le.mpr (lt_of_le_of_lt hs hfirst))

/-- At the instant `t` the table is what the history up to `t` says. -/
lemma tracked_stateAt (hgrants : db.bastionGrant = []) (hrequests : db.bastionRequest = [])
    (calls : List Call) (t : Time) :
    Tracked (history db (servedBy calls t)) (stateAt db calls t) :=
  (tracked_of_empty hgrants hrequests).along (servedBy calls t)

/-- A row is active at `t` exactly when the history says so. -/
lemma active_iff_activeAt (hclock : (calls.map Call.now).Pairwise (· ≤ ·))
    (htracked : Tracked (history db (servedBy calls t)) (stateAt db calls t)) {g : GrantRow}
    (hg : g ∈ (stateAt db calls t).bastionGrant) :
    g.active t = true ↔ ActiveAt (history db calls) g.unrevoked t := by
  have hcreated := (htracked.created_iff g.createdAt g.unrevoked).mpr ⟨rfl, g, hg, rfl⟩
  obtain ⟨call, hcall, hnow⟩ := exists_of_mem_history hcreated
  have hle : g.createdAt ≤ t := hnow ▸ now_le_of_servedBy hcall
  simp only [GrantRow.active, Bool.and_eq_true, Option.isNone_iff_eq_none, decide_eq_true_eq]
  constructor
  · rintro ⟨hnone, hlt⟩
    refine ⟨g.createdAt, hle, (mem_history_servedBy hclock hle _).mp hcreated, hlt, ?_⟩
    intro r hr hrevoked
    obtain ⟨g', hg', hid, hsome⟩ :=
      (htracked.revoked_iff r g.id).mp ((mem_history_servedBy hclock hr _).mpr hrevoked)
    rw [List.inj_on_of_nodup_map htracked.keys hg' hg hid, hnone] at hsome
    cases hsome
  · rintro ⟨s, hs, -, hlt, hnot⟩
    refine ⟨?_, hlt⟩
    cases hrevoked : g.revokedAt with
    | none => rfl
    | some r =>
      have hevent := (htracked.revoked_iff r g.id).mpr ⟨g, hg, rfl, hrevoked⟩
      obtain ⟨call, hcall, rfl⟩ := exists_of_mem_history hevent
      have hr := now_le_of_servedBy hcall
      exact absurd ((mem_history_servedBy hclock hr _).mp hevent) (hnot _ hr)

/-- The table holds an active row for the user and the asset exactly when the history says so. -/
lemma exists_active_iff (hclock : (calls.map Call.now).Pairwise (· ≤ ·))
    (htracked : Tracked (history db (servedBy calls t)) (stateAt db calls t))
    (userId assetId : Uuid) :
    (∃ g ∈ (stateAt db calls t).bastionGrant, g.userId = userId ∧ g.assetId = assetId ∧
      g.active t = true) ↔ AccessAt (history db calls) userId assetId t := by
  constructor
  · rintro ⟨g, hg, huser, hasset, hactive⟩
    exact ⟨g.unrevoked, huser, hasset, (active_iff_activeAt hclock htracked hg).mp hactive⟩
  · rintro ⟨g₀, huser, hasset, s, hs, hcreated, hlt, hnot⟩
    obtain ⟨-, g, hg, rfl⟩ :=
      (htracked.created_iff s g₀).mp ((mem_history_servedBy hclock hs _).mpr hcreated)
    exact ⟨g, hg, huser, hasset,
      (active_iff_activeAt hclock htracked hg).mpr ⟨s, hs, hcreated, hlt, hnot⟩⟩

/-- A grant of the history is active no more once it was not. -/
lemma not_activeAt_of_le {g : GrantRow} {t' : Time} (ht : t ≤ t')
    (hcreated : ∃ s ≤ t, (s, .created g) ∈ events) (h : ¬ ActiveAt events g t) :
    ¬ ActiveAt events g t' := by
  rintro ⟨-, -, -, hlt, hnot⟩
  obtain ⟨s, hs, hevent⟩ := hcreated
  exact h ⟨s, hs, hevent, lt_of_le_of_lt ht hlt, fun r hr => hnot r (le_trans hr ht)⟩

end

/-- **Grants are bounded in time and end for good.**  Along every run of calls with a clock that
never goes back, from tables without grants and requests, a grant lasts at most 12 hours, every
reader of the table takes it for active exactly from its creation to its expiry or revocation,
and once it is not active it is never active again. -/
theorem grantsEnd_of_clock {db : Db} (hgrants : db.bastionGrant = [])
    (hrequests : db.bastionRequest = []) {calls : List Call}
    (hclock : (calls.map Call.now).Pairwise (· ≤ ·)) : GrantsEnd db calls := by
  have htracked := tracked_stateAt hgrants hrequests calls
  have hactive : ∀ t, ∀ g ∈ (stateAt db calls t).bastionGrant,
      (g.active t = true ↔ ActiveAt (history db calls) g.unrevoked t) :=
    fun t g hg => active_iff_activeAt hclock (htracked t) hg
  have hrecorded : ∀ t, ∀ g ∈ (stateAt db calls t).bastionGrant, g.createdAt ≤ t ∧
      (g.createdAt, .created g.unrevoked) ∈ history db calls := by
    intro t g hg
    have hevent := ((htracked t).created_iff g.createdAt g.unrevoked).mpr ⟨rfl, g, hg, rfl⟩
    obtain ⟨call, hcall, hnow⟩ := exists_of_mem_history hevent
    have hle : g.createdAt ≤ t := hnow ▸ now_le_of_servedBy hcall
    exact ⟨hle, (mem_history_servedBy hclock hle _).mp hevent⟩
  refine ⟨?_, fun t g hg => (hrecorded t g hg).2, ?_, ?_, ?_, ?_⟩
  · intro s g hevent
    obtain ⟨rfl, g', hg', rfl⟩ := ((htracked s).created_iff s g).mp
      ((mem_history_servedBy hclock le_rfl _).mpr hevent)
    exact (htracked _).window g' hg'
  · intro t userId assetID assetId hid
    rw [findActiveGrant_isOk_iff hid, ← exists_active_iff hclock (htracked t)]
    simp only [isActiveGrantFor, Bool.and_eq_true, beq_iff_eq, and_assoc]
  · intro t userId assetId
    obtain ⟨grant, hgrant, hsome⟩ := activeGrantFor_toText (stateAt db calls t) t userId assetId
    rw [← exists_active_iff hclock (htracked t), ← hsome, hgrant, Option.isSome_iff_exists]
    simp only [Except.ok.injEq]
  · intro t g hg
    rw [← hactive t g hg]
    refine ⟨⟨?_, exists_listGrants hg⟩, Iff.rfl⟩
    rintro ⟨q, hq, items, hitems, hmem⟩
    exact active_of_listGrants hq hitems hmem
  · intro t t' ht g hg hnot g' hg' hid
    obtain ⟨hle, hevent⟩ := hrecorded t g hg
    -- both rows are the grant of one event
    have hsame : g'.unrevoked = g.unrevoked := by
      obtain ⟨-, g'', hg'', heq⟩ := ((htracked t').created_iff g.createdAt g.unrevoked).mp
        ((mem_history_servedBy hclock (le_trans hle ht) _).mpr hevent)
      have hid' : g''.id = g'.id := (id_eq_of_unrevoked heq).trans hid.symm
      rw [← heq, List.inj_on_of_nodup_map (htracked t').keys hg'' hg' hid']
    rw [Bool.eq_false_iff, Ne, hactive t' g' hg', hsame]
    rw [Bool.eq_false_iff, Ne, hactive t g hg] at hnot
    exact not_activeAt_of_le ht ⟨_, hle, hevent⟩ hnot

/-- A grant of one hour that is revoked after five seconds. -/
def grantThenRevoke : List Call :=
  [grantBy "cccccccc-cccc-cccc-cccc-cccccccccccc",
   .revokeGrant adminA "11111111-1111-1111-1111-111111111111" "done" (5 * second)]

theorem grantsEnd_grantThenRevoke :
    (history {} grantThenRevoke).map Prod.fst = [0, 5 * second] ∧ GrantsEnd {} grantThenRevoke :=
  ⟨by decide, grantsEnd_of_clock rfl rfl (by decide)⟩

end OpsPlatform.Bastion
