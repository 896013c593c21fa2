/-
What a user who may only see their own records learns from the lists and the downloads.

The four routes of `internal/httpserver/server.go` that show grants, requests, sessions and
recordings are answered from the database and from the object store.  Someone without the
permissions that open the records of others gets answers in which these records do not occur:
they are the same in any two states that agree on the own ones.
-/
import OpsPlatform.HttpServer.Connect
import OpsPlatform.Sessions.Handler

namespace OpsPlatform.HttpServer

open Lib Lib.Table Lib.Text Iam
open Bastion (QueryParams Grant GrantRow RequestRow ListGrantsQuery ListRequestsQuery)
open Sessions (Session SessionRow RecordingFetcher RecordingResponse StoredObject ListQuery
  canSeeAllSessions downloadOf)

/-- The database and the object store.  The id of a session is the primary key of its table. -/
structure Stores where
  db : Db
  objects : RecordingFetcher
  sessionKey : (db.terminalSession.map (·.id)).Nodup

/-- The requests to the four routes, with what their URL says. -/
inductive Read where
  | grants (params : QueryParams)
  | requests (params : QueryParams)
  | sessions (params : QueryParams)
  | recording (sessionID : String)

/-- The body of a response. -/
inductive Payload where
  | grants (items : List Grant)
  | requests (items : List RequestRow)
  | sessions (items : List Session)
  | recording (response : RecordingResponse)
deriving DecidableEq

section Serve

variable (parse : String → Option String) (storage : Bool) (now : Time) (header : String)

/-- A request on its way through `AuthMiddleware` and the permission of the route to the
handler.  `storage` says whether the platform was started with object storage. -/
def serve (s : Stores) : Read → Except HttpError Payload
  | .grants params => do
    let identity ← authMiddleware parse s.db header
    let identity ← requirePermission "bastion.grant" "read" (some identity)
    (Bastion.Handler.listGrants s.db now identity params).map .grants
  | .requests params => do
    let identity ← authMiddleware parse s.db header
    let identity ← requirePermission "bastion.request" "read" (some identity)
    (Bastion.Handler.listRequests s.db identity params).map .requests
  | .sessions params => do
    let identity ← authMiddleware parse s.db header
    let identity ← requirePermission "cmdb.asset" "read" (some identity)
    (Sessions.Handler.list s.db now identity params).map .sessions
  | .recording sessionID => do
    let identity ← authMiddleware parse s.db header
    let identity ← requirePermission "cmdb.asset" "read" (some identity)
    (Sessions.Handler.recording (if storage then some s.objects else none) s.db identity
      sessionID).map .recording

end Serve

/-- Two states agree on what belongs to a user: the rows of the identity, the grants, the
requests and the sessions, each in the order of their table, and the objects of the sessions. -/
structure OwnRowsAgree (u : Uuid) (s s' : Stores) : Prop where
  user : s.db.iamUser.filter (·.id = u) = s'.db.iamUser.filter (·.id = u)
  roles : permissionRows s.db u = permissionRows s'.db u
  grants : s.db.bastionGrant.filter (·.userId == u) = s'.db.bastionGrant.filter (·.userId == u)
  requests : s.db.bastionRequest.filter (·.userId == u) =
    s'.db.bastionRequest.filter (·.userId == u)
  sessions : s.db.terminalSession.filter (·.userId == u.toText) =
    s'.db.terminalSession.filter (·.userId == u.toText)
  objects : ∀ r ∈ s.db.terminalSession, r.userId = u.toText →
    s.objects r.recordingUri = s'.objects r.recordingUri

variable {s s' : Stores} {identity : UserIdentity}

/-- The gate in front of the routes lets the same user in. -/
lemma OwnRowsAgree.authMiddleware_eq {parse : String → Option String} {header : String}
    (h : OwnRowsAgree identity.user.id s s')
    (hid : authMiddleware parse s.db header = .ok identity) :
    authMiddleware parse s'.db header = .ok identity := by
  rw [authMiddleware] at hid ⊢
  cases htoken : bearerToken header with
  | none => rw [htoken] at hid; cases hid
  | some token =>
    simp only [htoken] at hid ⊢
    cases hparse : parse token with
    | none => rw [hparse] at hid; cases hid
    | some userID =>
      simp only [hparse] at hid ⊢
      rw [Except.mapError_eq_ok] at hid ⊢
      rw [← identityForUser_congr (parse_of_identityForUser hid) h.user h.roles]
      exact hid

/-- The condition on the user, when it is the own one. -/
lemma uuidFilter_toText (u : Uuid) :
    Bastion.uuidFilter u.toText = .ok fun column => column == u := by
  rw [Bastion.uuidFilter, if_pos (by simp [Uuid.toText_ne_empty])]
  rw [Bastion.castUuid_eq_ok.mpr (Uuid.parse_toText u)]
  rfl

lemma OwnRowsAgree.listGrants_eq (h : OwnRowsAgree identity.user.id s s')
    (hsee : Bastion.canSeeAllBastionRecords identity = false) (now : Time) (params : QueryParams) :
    Bastion.Handler.listGrants s.db now identity params =
      Bastion.Handler.listGrants s'.db now identity params := by
  simp only [Bastion.Handler.listGrants, hsee, Bool.false_eq_true, if_false, Bastion.listGrants,
    uuidFilter_toText]
  rcases Bastion.uuidFilter (params "asset_id") with e | ofAsset
  · rfl
  · rcases Bastion.pageOffset (Bastion.intParam params "offset") with e | offset
    · rfl
    · simp only [bind, Except.bind]
      rw [pageBy_congr _ h.grants]
      intro g hg
      simp only [Bool.and_eq_true] at hg
      exact hg.1.1

lemma OwnRowsAgree.listRequests_eq (h : OwnRowsAgree identity.user.id s s')
    (hsee : Bastion.canSeeAllBastionRecords identity = false) (params : QueryParams) :
    Bastion.Handler.listRequests s.db identity params =
      Bastion.Handler.listRequests s'.db identity params := by
  simp only [Bastion.Handler.listRequests, hsee, Bool.false_eq_true, if_false,
    Bastion.listRequests, uuidFilter_toText]
  rcases Bastion.pageOffset (Bastion.intParam params "offset") with e | offset
  · rfl
  · simp only [bind, Except.bind]
    rw [pageBy_congr _ h.requests]
    intro r hr
    simp only [Bool.and_eq_true] at hr
    exact hr.1

lemma OwnRowsAgree.list_eq (h : OwnRowsAgree identity.user.id s s')
    (hsee : canSeeAllSessions identity = false) (now : Time) (params : QueryParams) :
    Sessions.Handler.list s.db now identity params =
      Sessions.Handler.list s'.db now identity params := by
  simp only [Sessions.Handler.list, hsee, Bool.false_eq_true, if_false, Sessions.list]
  rcases Sessions.assetFilter (params "asset_id") with e | ofAsset
  · rfl
  · simp only [bind, Except.bind]
    rw [pageBy_congr _ h.sessions]
    intro r hr
    simp only [Bool.and_eq_true] at hr
    have hown := hr.1
    rwa [Sessions.userFilter, if_pos (by simp [Uuid.toText_ne_empty])] at hown

/-- The own session with an id, in both states. -/
lemma OwnRowsAgree.ownSession_eq {u : Uuid} (h : OwnRowsAgree u s s') (id : Uuid) :
    (s.db.terminalSession.find? (·.id == id)).filter (fun r => r.userId == u.toText) =
      (s'.db.terminalSession.find? (·.id == id)).filter (fun r => r.userId == u.toText) := by
  have hone : ∀ {s : Stores}, ∀ r ∈ s.db.terminalSession, ∀ r' ∈ s.db.terminalSession,
      (r.id == id) = true → (r'.id == id) = true → r = r' := by
    intro s r hr r' hr' hid hid'
    refine List.inj_on_of_nodup_map s.sessionKey hr hr' ?_
    rw [eq_of_beq hid, eq_of_beq hid']
  rw [filter_find? hone, filter_find? hone, h.sessions]

lemma OwnRowsAgree.recording_eq (h : OwnRowsAgree identity.user.id s s')
    (hsee : canSeeAllSessions identity = false) (sessionID : String) :
    Sessions.Handler.recording (some s.objects) s.db identity sessionID =
      Sessions.Handler.recording (some s'.objects) s'.db identity sessionID := by
  rw [Sessions.Handler.recording_of_own hsee, Sessions.Handler.recording_of_own hsee]
  rcases SshProxy.castUuid sessionID with e | id
  · rfl
  · dsimp only
    rw [← h.ownSession_eq]
    cases hfind : (s.db.terminalSession.find? (·.id == id)).filter
      (fun r => r.userId == identity.user.id.toText) with
    | none => rfl
    | some r =>
      obtain ⟨hfound, hown⟩ := Option.filter_eq_some_iff.mp hfind
      dsimp only
      rw [h.objects r (List.mem_of_find?_eq_some hfound) (eq_of_beq hown)]

/-- **Own rows only.**  To a user who is no admin and has neither `bastion.grant:write` nor
`bastion.session:read`, the lists of grants, requests and sessions and the download of a
recording answer alike in any two states that agree on what belongs to the user, whatever the
request. -/
theorem serve_eq_of_ownRowsAgree {parse : String → Option String} {header : String}
    (hid : authMiddleware parse s.db header = .ok identity) (hadmin : isAdmin identity = false)
    (hgrant : "bastion.grant:write" ∉ identity.permissions)
    (hsession : "bastion.session:read" ∉ identity.permissions)
    (h : OwnRowsAgree identity.user.id s s') (storage : Bool) (now : Time) (read : Read) :
    serve parse storage now header s read = serve parse storage now header s' read := by
  have hid' := h.authMiddleware_eq hid
  have hbastion : Bastion.canSeeAllBastionRecords identity = false := by
    rw [Bastion.canSeeAllBastionRecords, hadmin, Bool.false_or, List.any_beq']
    simpa using hgrant
  have hsessions : canSeeAllSessions identity = false := by
    rw [canSeeAllSessions, hadmin, Bool.false_or, List.any_beq']
    simpa using hsession
  -- the gate of the route answers alike, and past it the handler has the same identity
  have hpast : ∀ (resource : String) {f g : UserIdentity → Except HttpError Payload},
      f identity = g identity →
      (requirePermission resource "read" (some identity) >>= f) =
        (requirePermission resource "read" (some identity) >>= g) := by
    intro resource f g hfg
    cases hgate : requirePermission resource "read" (some identity) with
    | error e => rfl
    | ok passed =>
      obtain rfl := Option.some.inj (requirePermission_eq_ok hgate).1
      exact hfg
  cases read with
  | grants params =>
    rw [serve, serve, hid, hid']
    exact hpast _ (by rw [h.listGrants_eq hbastion])
  | requests params =>
    rw [serve, serve, hid, hid']
    exact hpast _ (by rw [h.listRequests_eq hbastion])
  | sessions params =>
    rw [serve, serve, hid, hid']
    exact hpast _ (by rw [h.list_eq hsessions])
  | recording sessionID =>
    rw [serve, serve, hid, hid']
    refine hpast _ ?_
    cases storage with
    | false => rfl
    | true => simp only [if_true, h.recording_eq hsessions]

/-- A session of the user `11111111-..`. -/
def ownSession : SessionRow :=
  { id := Uuid.replicate 4, userId := (Uuid.replicate 1).toText, assetId := Uuid.replicate 3,
    startedAt := 0, recordingUri := "ssh/4.cast" }

/-- A session and a grant of the user `66666666-..`. -/
def othersSession : SessionRow :=
  { id := Uuid.replicate 5, userId := (Uuid.replicate 6).toText, assetId := Uuid.replicate 3,
    startedAt := 1, recordingUri := "ssh/5.cast" }

def othersGrant : GrantRow :=
  { id := Uuid.replicate 7, userId := Uuid.replicate 6, assetId := Uuid.replicate 3,
    grantedById := Uuid.replicate 8, expiresAt := second, createdAt := 0 }

/-- The one user alone, with the one recording. -/
def aloneStores : Stores where
  db := { oneUserDb [("cmdb.asset", "read")] with terminalSession := [ownSession] }
  objects := fun key =>
    if key = "ssh/4.cast" then .ok ⟨1, "", [36]⟩ else .error "The specified key does not exist."
  sessionKey := by decide

/-- The same with the records of the other user. -/
def sharedStores : Stores where
  db := { oneUserDb [("cmdb.asset", "read")] with
          terminalSession := [othersSession, ownSession]
          bastionGrant := [othersGrant] }
  objects := fun key =>
    if key = "ssh/4.cast" then .ok ⟨1, "", [36]⟩ else .ok ⟨1, "video/guac", [42]⟩
  sessionKey := by decide

lemma ownRowsAgree_alone_shared : OwnRowsAgree (Uuid.replicate 1) aloneStores sharedStores where
  user := rfl
  roles := rfl
  grants := by decide
  requests := rfl
  sessions := by decide
  objects := by
    intro r hr _
    obtain rfl := List.mem_singleton.mp hr
    rfl

theorem serve_eq_alone_shared :
    serve anyToken true 0 "Bearer x" aloneStores (.recording (Uuid.replicate 4).toText) =
      .ok (.recording (downloadOf (Uuid.replicate 4).toText "ssh/4.cast" ⟨1, "", [36]⟩)) ∧
    ∀ read, serve anyToken true 0 "Bearer x" aloneStores read =
      serve anyToken true 0 "Bearer x" sharedStores read := by
  refine ⟨rfl, ?_⟩
  intro read
  obtain ⟨sps, hid⟩ : ∃ sps, authMiddleware anyToken aloneStores.db "Bearer x" =
      .ok ⟨⟨Uuid.replicate 1, "u", "", ""⟩, ["operator"], ["cmdb.asset:read"], sps⟩ :=
    ⟨_, rfl⟩
  exact serve_eq_of_ownRowsAgree hid rfl (by simp) (by simp) ownRowsAgree_alone_shared true 0 read

end OpsPlatform.HttpServer
