/-
The two ways to log in (`LocalLogin` and `OIDCCallback` in `internal/iam/handler.go`) with the
statements behind them (`UpsertUser`, `EnsureAdminBinding`, `EnsureLocalAdmin` and `LocalLogin` in
`internal/iam/repository.go`).

Both write to `iam_user` under its unique column `oidc_subject`: the local administrator has the
subject `local:` with the name of the configuration, and everybody else the one that the identity
provider gives.
-/
import OpsPlatform.Cmdb.Asset
import OpsPlatform.Iam.Identity

namespace OpsPlatform.Iam

open Lib Lib.Table Lib.Text
open Cmdb (nullIfEmpty)

/-- `config.Config`, as far as the logins read it. -/
structure Config where
  localAdminUsername : String
  localAdminPassword : String
  bootstrapAdminSubjects : List String := []

/-- `UserProfile`. -/
structure UserProfile where
  subject : String := ""
  email : String := ""
  name : String := ""

/-- `LocalLoginRequest`. -/
structure LocalLoginRequest where
  username : String := ""
  password : String := ""

inductive LoginError where
  | message (text : String)
  /-- `ErrInvalidCredentials` -/
  | invalidCredentials
  | iam (e : IamError)
deriving DecidableEq

/-! ### The statements -/

/-- `INSERT INTO iam_user .. ON CONFLICT (oidc_subject) DO UPDATE SET edit`, with the row that it
returns. -/
def upsertBySubject (db : Db) (new : UserRow) (edit : UserRow → UserRow) :
    Except LoginError (Db × UserRow) :=
  match db.iamUser.find? (·.oidcSubject == new.oidcSubject) with
  | some u =>
    .ok ({ db with
           iamUser := updateWhere (·.oidcSubject == new.oidcSubject) edit db.iamUser }, edit u)
  | none =>
    if db.iamUser.any (·.id == new.id) then
      .error (.message "duplicate key value violates unique constraint")
    else .ok ({ db with iamUser := db.iamUser ++ [new] }, new)

/-- `UpsertUser`. -/
def upsertUser (db : Db) (now : Time) (newId : Uuid) (profile : UserProfile) :
    Except LoginError (Db × UserRow) :=
  let email := nullIfEmpty profile.email
  let name := nullIfEmpty profile.name
  upsertBySubject db
    { id := newId, oidcSubject := profile.subject, email, name, lastLoginAt := some now
      createdAt := now, updatedAt := now }
    fun u => { u with email, name, lastLoginAt := some now, updatedAt := now }

/-- `SELECT EXISTS (SELECT 1 FROM iam_user_role_binding)`. -/
def hasAnyBinding (db : Db) : Bool := !db.iamUserRoleBinding.isEmpty

/-- The subject is one of the configured administrators. -/
def isBootstrapSubject (bootstrapSubjects : List String) (userSubject : String) : Bool :=
  bootstrapSubjects.any fun subject => trimSpace subject == userSubject

/-- `INSERT INTO iam_user_role_binding .. WHERE r.name = 'admin' ON CONFLICT DO NOTHING`. -/
def bindAdmin (db : Db) (userId : Uuid) : Db :=
  let bindings := (db.iamRole.filter (·.name == "admin")).map fun r =>
    { userId, roleId := r.id : UserRoleBindingRow }
  { db with
    iamUserRoleBinding := db.iamUserRoleBinding ++
      bindings.filter fun b => !db.iamUserRoleBinding.contains b }

/-- `EnsureAdminBinding`. -/
def ensureAdminBinding (db : Db) (userId : Uuid) (bootstrapSubjects : List String)
    (userSubject : String) : Db :=
  if !hasAnyBinding db || isBootstrapSubject bootstrapSubjects userSubject then bindAdmin db userId
  else db

/-! ### The local administrator -/

/-- `bcrypt.GenerateFromPassword`, given the salt that it draws, and
`bcrypt.CompareHashAndPassword`. -/
structure Bcrypt where
  generateFromPassword : (salt : ℕ) → String → Except String String
  compareHashAndPassword : String → String → Bool

/-- `strings.TrimSpace(strings.ToLower(username))`. -/
def localName (username : String) : String := trimSpace (toLower username)

/-- The subject of a local user. -/
def localSubject (username : String) : String := "local:" ++ localName username

/-- What a local login draws and meets. -/
structure LocalEnv where
  salt : ℕ
  newUserId : Uuid
  /-- `now()` of the transaction of `EnsureLocalAdmin` -/
  provisionedAt : Time
  /-- an error of that transaction -/
  txError : Option String := none
  /-- an error of the statement that reads the account -/
  selectError : Option String := none
  loginAt : Time
  /-- which of the two statements that note the login are executed -/
  notes : Bool × Bool := (true, true)

/-- The statement of `EnsureLocalAdmin` for `iam_user`. -/
def upsertLocalUser (db : Db) (env : LocalEnv) (username : String) :
    Except LoginError (Db × UserRow) :=
  let name := some (localName username)
  upsertBySubject db
    { id := env.newUserId, oidcSubject := localSubject username, name
      createdAt := env.provisionedAt, updatedAt := env.provisionedAt }
    fun u => { u with name, updatedAt := env.provisionedAt }

/-- `EnsureLocalAdmin`, with the user that it provisions.  A transaction that fails leaves nothing
behind. -/
def ensureLocalAdmin (db : Db) (bcrypt : Bcrypt) (env : LocalEnv) (username password : String) :
    Except LoginError (Db × Uuid) :=
  let name := localName username
  if name = "" ∨ trimSpace password = "" then .error .invalidCredentials
  else do
    let passwordHash ← (bcrypt.generateFromPassword env.salt password).mapError .message
    match env.txError with
    | some e => .error (.message e)
    | none => do
      let (db, u) ← upsertLocalUser db env username
      let others := db.iamLocalUser.filter fun l => !(l.userId == u.id || l.username == name)
      let account : LocalUserRow :=
        { username := name, userId := u.id, passwordHash
          createdAt := env.provisionedAt, updatedAt := env.provisionedAt }
      .ok (bindAdmin { db with iamLocalUser := others ++ [account] } u.id, u.id)

/-- The statements of `LocalLogin` that note the login. -/
def noteLogin (db : Db) (env : LocalEnv) (l : LocalUserRow) : Db :=
  { db with
    iamLocalUser :=
      if env.notes.1 then
        updateWhere (·.username == l.username)
          (fun l => { l with lastLoginAt := some env.loginAt, updatedAt := env.loginAt })
          db.iamLocalUser
      else db.iamLocalUser
    iamUser :=
      if env.notes.2 then
        updateWhere (·.id == l.userId)
          (fun u => { u with lastLoginAt := some env.loginAt, updatedAt := env.loginAt })
          db.iamUser
      else db.iamUser }

/-- `LocalLogin` of the repository. -/
def localLogin (db : Db) (bcrypt : Bcrypt) (env : LocalEnv) (username password : String) :
    Db × Except LoginError UserIdentity :=
  let name := localName username
  if name = "" ∨ trimSpace password = "" then (db, .error .invalidCredentials)
  else
    match env.selectError with
    | some e => (db, .error (.message e))
    | none =>
      match db.iamLocalUser.find? (·.username == name) with
      | none => (db, .error .invalidCredentials)
      | some l =>
        if !l.enabled || !bcrypt.compareHashAndPassword l.passwordHash password then
          (db, .error .invalidCredentials)
        else
          let db := noteLogin db env l
          (db, (identityForUser db l.userId.toText).mapError .iam)

/-! ### The handlers -/

namespace Handler

/-- What a login answers: a token for the identity, or an error with its status. -/
abbrev Answer := Except (ℕ × LoginError) UserIdentity

/-- The status of an answer. -/
def Answer.status : Answer → ℕ
  | .ok _ => 200
  | .error e => e.1

/-- The answer to a login of the repository. -/
def answerLogin : Db × Except LoginError UserIdentity → Db × Answer
  | (db, .error .invalidCredentials) => (db, .error (401, .invalidCredentials))
  | (db, .error e) => (db, .error (500, e))
  | (db, .ok identity) => (db, .ok identity)

/-- `LocalLogin`.  A body that does not decode is `none`. -/
def localLogin (cfg : Config) (bcrypt : Bcrypt) (env : LocalEnv) (db : Db)
    (body : Option LocalLoginRequest) : Db × Answer :=
  match body with
  | none => (db, .error (400, .message "invalid json body"))
  | some req =>
    let username := trimSpace req.username
    let password := trimSpace req.password
    if username = "" ∨ password = "" then
      (db, .error (400, .message "username and password are required"))
    else if equalFold username cfg.localAdminUsername = false then
      (db, .error (401, .invalidCredentials))
    else
      match ensureLocalAdmin db bcrypt env cfg.localAdminUsername cfg.localAdminPassword with
      | .error e => (db, .error (500, e))
      | .ok (db, _) => answerLogin (Iam.localLogin db bcrypt env username password)

/-- What a callback draws and meets. -/
structure CallbackEnv where
  newUserId : Uuid
  now : Time
  /-- an error of the statement of `UpsertUser` -/
  upsertError : Option String := none
  /-- an error of a statement of `EnsureAdminBinding` -/
  bindingError : Option String := none

/-- The end of `UserInfo`. -/
def userInfo (profile : UserProfile) : Except (ℕ × LoginError) UserProfile :=
  if profile.subject = "" then .error (401, .message "userinfo missing sub") else .ok profile

/-- `OIDCCallback`.  `fetched` is what the identity provider returns, or an error from before: a
provider that is not configured, a state that is not known, a code that is not accepted. -/
def oidcCallback (cfg : Config) (env : CallbackEnv) (db : Db)
    (fetched : Except (ℕ × LoginError) UserProfile) : Db × Answer :=
  match fetched.bind userInfo, env.upsertError with
  | .error e, _ => (db, .error e)
  | .ok _, some e => (db, .error (500, .message e))
  | .ok profile, none =>
    match upsertUser db env.now env.newUserId profile, env.bindingError with
    | .error e, _ => (db, .error (500, e))
    | .ok (db, _), some e => (db, .error (500, .message e))
    | .ok (db, u), none =>
      let db := ensureAdminBinding db u.id cfg.bootstrapAdminSubjects u.oidcSubject
      (db, (identityForUser db u.id.toText).mapError fun e => (500, .iam e))

end Handler

/-! ### What the statements do -/

/-- The row of the subject is edited, or a new one is inserted. -/
lemma upsertBySubject_eq_ok {db db' : Db} {new u : UserRow} {edit : UserRow → UserRow}
    (h : upsertBySubject db new edit = .ok (db', u)) :
    (∃ u₀, db.iamUser.find? (·.oidcSubject == new.oidcSubject) = some u₀ ∧ u = edit u₀ ∧
        db' = { db with
                iamUser := updateWhere (·.oidcSubject == new.oidcSubject) edit db.iamUser }) ∨
      (db.iamUser.find? (·.oidcSubject == new.oidcSubject) = none ∧
        (∀ u₀ ∈ db.iamUser, u₀.id ≠ new.id) ∧ u = new ∧
        db' = { db with iamUser := db.iamUser ++ [new] }) := by
  rw [upsertBySubject] at h
  split at h
  · next u₀ hfind =>
    obtain ⟨rfl, rfl⟩ := Prod.mk.inj (Except.ok.inj h)
    exact Or.inl ⟨u₀, hfind, rfl, rfl⟩
  · next hfind =>
    rw [Except.ite_error_eq_ok] at h
    obtain ⟨hfresh, h⟩ := h
    obtain ⟨rfl, rfl⟩ := Prod.mk.inj (Except.ok.inj h)
    refine Or.inr ⟨hfind, fun u₀ hu₀ hid => ?_, rfl, rfl⟩
    exact hfresh (List.any_eq_true.mpr ⟨u₀, hu₀, beq_iff_eq.mpr hid⟩)

/-- There is a row of the subject to edit, or the new id is not taken. -/
lemma exists_upsertBySubject {db : Db} {new : UserRow} {edit : UserRow → UserRow}
    (h : (∃ u ∈ db.iamUser, u.oidcSubject = new.oidcSubject) ∨
      ∀ u ∈ db.iamUser, u.id ≠ new.id) : ∃ r, upsertBySubject db new edit = .ok r := by
  rw [upsertBySubject]
  split
  · exact ⟨_, rfl⟩
  · next hfind =>
    rw [List.find?_eq_none] at hfind
    have hfresh : ¬ db.iamUser.any (·.id == new.id) = true := by
      rw [List.any_eq_true]
      rintro ⟨u, hu, hhit⟩
      rcases h with ⟨u', hu', hsubject⟩ | hfresh
      · exact hfind u' hu' (beq_iff_eq.mpr hsubject)
      · exact hfresh u hu (eq_of_beq hhit)
    rw [if_neg hfresh]
    exact ⟨_, rfl⟩

@[simp] lemma iamUser_bindAdmin (db : Db) (userId : Uuid) :
    (bindAdmin db userId).iamUser = db.iamUser := rfl

@[simp] lemma iamUser_ensureAdminBinding (db : Db) (userId : Uuid)
    (bootstrapSubjects : List String) (userSubject : String) :
    (ensureAdminBinding db userId bootstrapSubjects userSubject).iamUser = db.iamUser := by
  rw [ensureAdminBinding]
  split <;> rfl

@[simp] lemma iamLocalUser_bindAdmin (db : Db) (userId : Uuid) :
    (bindAdmin db userId).iamLocalUser = db.iamLocalUser := rfl

lemma mem_bindAdmin {db : Db} {id : Uuid} {b : UserRoleBindingRow} :
    b ∈ (bindAdmin db id).iamUserRoleBinding ↔
      b ∈ db.iamUserRoleBinding ∨
        (b.userId = id ∧ ∃ r ∈ db.iamRole, r.name = "admin" ∧ r.id = b.roleId) := by
  obtain ⟨userId, roleId⟩ := b
  simp only [bindAdmin, List.mem_append, List.mem_filter, List.mem_map, beq_iff_eq,
    UserRoleBindingRow.mk.injEq, Bool.not_eq_true', List.contains_eq_mem, decide_eq_false_iff_not]
  constructor
  · rintro (hold | ⟨⟨r, ⟨hr, hname⟩, rfl, rfl⟩, -⟩)
    · exact Or.inl hold
    · exact Or.inr ⟨rfl, r, hr, hname, rfl⟩
  · rintro (hold | ⟨rfl, r, hr, hname, rfl⟩)
    · exact Or.inl hold
    · by_cases hold : (⟨userId, r.id⟩ : UserRoleBindingRow) ∈ db.iamUserRoleBinding
      · exact Or.inl hold
      · exact Or.inr ⟨⟨r, ⟨hr, hname⟩, rfl, rfl⟩, hold⟩

/-! ### A fresh installation -/

/-- A hash that is the salt and the password, for the examples. -/
def plainBcrypt : Bcrypt where
  generateFromPassword salt password := .ok (toString salt ++ "$" ++ password)
  compareHashAndPassword hash password :=
    String.ofList ((hash.toList.dropWhile (· != '$')).drop 1) == password

/-- The configuration of a fresh installation. -/
def adminConfig : Config := { localAdminUsername := "admin", localAdminPassword := "admin123456" }

/-- The database of a fresh installation. -/
def freshDb : Db where
  iamRole := [{ id := Uuid.replicate 2, name := "admin" }]

end OpsPlatform.Iam
