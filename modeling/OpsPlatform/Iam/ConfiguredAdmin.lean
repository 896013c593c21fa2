/-
Signing in as the administrator of the configuration (`LocalLogin` in `internal/iam/handler.go`,
with `Load` of `internal/config/config.go`).

The name is trimmed by the configuration and by the handler, and the account is stored and read
under one spelling of it.  The password is hashed as the configuration has it, and the one of the
request is trimmed before it is compared.
-/
import OpsPlatform.Config
import OpsPlatform.Iam.LocalIdentity
import OpsPlatform.Iam.RefusedLogin
import OpsPlatform.Iam.Token

namespace OpsPlatform.Iam

open Lib Lib.Table Lib.Text
open OpsPlatform.Config (Environment ParseError defaultDuration getenv load load_eq_ok varsWith)

/-- The configuration that `NewHandler` is given, as far as the logins read it. -/
def loginConfig (cfg : OpsPlatform.Config) : Config where
  localAdminUsername := cfg.localAdminUsername
  localAdminPassword := cfg.localAdminPassword
  bootstrapAdminSubjects := cfg.oidcSeed.bootstrapAdminSubjects

/-- What `Issue` reads of an identity. -/
def tokenUser (identity : UserIdentity) : TokenUser where
  id := Utf8.encode identity.user.id.toText.toList
  subject := Utf8.encode identity.user.oidcSubject.toList
  roles := identity.roles.map fun role => Utf8.encode role.toList
  permissions := identity.permissions.map fun permission => Utf8.encode permission.toList

/-- `8 * time.Hour`. -/
def tokenTTL : ℤ := 8 * 3600 * second

/-- `LocalLogin` to its end: the answer is a token. -/
def Handler.localLoginToken (lib : TokenLib) (signingKey : Utf8.Bytes) (now : ℤ) (cfg : Config)
    (bcrypt : Bcrypt) (env : LocalEnv) (db : Db) (body : Option LocalLoginRequest) :
    Db × Except (ℕ × LoginError) Utf8.Bytes :=
  match Handler.localLogin cfg bcrypt env db body with
  | (db, .error e) => (db, .error e)
  | (db, .ok identity) =>
    match TokenService.issue lib signingKey now (tokenUser identity) tokenTTL with
    | .error e => (db, .error (500, .message e))
    | .ok token => (db, .ok token)

/-! ### The property -/

/-- The two variables of the environment. -/
def configuredLogin (vars : Environment) : LocalLoginRequest where
  username := getenv vars "OPS_LOCAL_ADMIN_USERNAME" "admin"
  password := getenv vars "OPS_LOCAL_ADMIN_PASSWORD" "admin123456"

/-- `bcrypt` refuses what is longer than 72 bytes, and verifies exactly what it has hashed. -/
structure Bcrypt.Correct (bcrypt : Bcrypt) : Prop where
  tooLong : ∀ salt password, 72 < password.utf8ByteSize →
    ∃ e, bcrypt.generateFromPassword salt password = .error e
  verifies : ∀ salt password, password.utf8ByteSize ≤ 72 →
    ∃ hash, bcrypt.generateFromPassword salt password = .ok hash ∧
      ∀ guess, bcrypt.compareHashAndPassword hash guess = true ↔ guess = password

/-- The constraints of the tables: the keys, and bindings refer to users. -/
structure IamTables (db : Db) : Prop where
  roleIds : (db.iamRole.map (·.id)).Nodup
  subjects : (db.iamUser.map (·.oidcSubject)).Nodup
  bound : ∀ b ∈ db.iamUserRoleBinding, ∃ u ∈ db.iamUser, u.id = b.userId

/-- No statement fails, and the id that is drawn is a new one. -/
structure Served (env : LocalEnv) (db : Db) : Prop where
  txError : env.txError = none
  selectError : env.selectError = none
  newUserId : ∀ u ∈ db.iamUser, u.id ≠ env.newUserId

/-- The roles that the administrator holds after the provisioning have scopes that parse. -/
def ScopesRead (subject : String) (db : Db) : Prop :=
  ∀ rp ∈ db.iamRolePermission, ∀ r ∈ db.iamRole, r.id = rp.roleId →
    (r.name = "admin" ∨ ∃ u ∈ db.iamUser, u.oidcSubject = subject ∧
      ∃ b ∈ db.iamUserRoleBinding, b.userId = u.id ∧ b.roleId = r.id) →
    ∃ scope, parseScopeJSON rp.scopeJson = .ok scope

/-! ### The identity -/

/-- An identity is read when the scopes of its roles parse. -/
lemma identityForUser_isOk_iff {db : Db} {id : Uuid} (h : ∃ u ∈ db.iamUser, u.id = id) :
    (∃ identity, identityForUser db id.toText = .ok identity) ↔
      ∀ b ∈ db.iamUserRoleBinding, b.userId = id → ∀ r ∈ db.iamRole, r.id = b.roleId →
        ∀ rp ∈ db.iamRolePermission, rp.roleId = r.id →
          ∃ scope, parseScopeJSON rp.scopeJson = .ok scope := by
  obtain ⟨u, hu, hid⟩ := h
  obtain ⟨row, hrow⟩ : ∃ row, db.iamUser.find? (·.id = id) = some row :=
    Option.isSome_iff_exists.mp (List.find?_isSome.mpr ⟨u, hu, by simpa using hid⟩)
  rw [identityForUser, Uuid.parse_toText]
  dsimp only
  rw [hrow]
  dsimp only
  rw [identityOfRows_isOk_iff]
  simp only [permissionRows, List.mem_insertionSort, List.mem_flatMap, List.mem_filter,
    decide_eq_true_eq]
  -- a permission row is a role without permissions or a pair of role and permission
  constructor
  · intro h b hb huser r hr hrole rp hrp hpermission
    have hmem : rp ∈ db.iamRolePermission.filter (·.roleId = r.id) :=
      List.mem_filter.mpr ⟨hrp, by simpa using hpermission⟩
    refine h { role := r.name, resource := some rp.resource, action := some rp.action
               scopeRaw := rp.scopeJson } ⟨b, ⟨hb, huser⟩, r, ⟨hr, hrole⟩, ?_⟩ _ rfl
    split
    · next hnone =>
      rw [hnone] at hmem
      cases hmem
    · exact List.mem_map.mpr ⟨rp, hmem, rfl⟩
  · rintro h row ⟨b, ⟨hb, huser⟩, r, ⟨hr, hrole⟩, hrow⟩ perm hperm
    split at hrow
    · obtain rfl := List.mem_singleton.mp hrow
      cases hperm
    · obtain ⟨rp, hrp, rfl⟩ := List.mem_map.mp hrow
      obtain ⟨hrp, hpermission⟩ := List.mem_filter.mp hrp
      exact h b hb huser r hr hrole rp hrp (by simpa using hpermission)

section

variable {cfg : Config} {bcrypt : Bcrypt} {env : LocalEnv} {db db' : Db} {id : Uuid}

/-- The other tables of the provisioning: the user is there, and is bound to the role. -/
lemma ensureLocalAdmin_rows
    (h : ensureLocalAdmin db bcrypt env cfg.localAdminUsername cfg.localAdminPassword =
      .ok (db', id)) :
    id = localAdminId cfg env db ∧ (∃ u ∈ db'.iamUser, u.id = id) ∧
      db'.iamUserRoleBinding = (bindAdmin db id).iamUserRoleBinding ∧
      db'.iamRole = db.iamRole ∧ db'.iamRolePermission = db.iamRolePermission := by
  obtain ⟨-, u, hu, hid, -⟩ := upsertsUser_ensureLocalAdmin h
  rw [ensureLocalAdmin, Except.ite_error_eq_ok, Except.bind_eq_ok] at h
  obtain ⟨-, hash, -, h⟩ := h
  split at h
  · cases h
  · rw [Except.bind_eq_ok] at h
    obtain ⟨⟨db₁, u₁⟩, hupsert, h⟩ := h
    obtain ⟨rfl, rfl⟩ := Prod.mk.inj (Except.ok.inj h)
    refine ⟨?_, ⟨u, hu, hid⟩, ?_⟩
    · rcases upsertBySubject_eq_ok hupsert with ⟨u₀, hfind, rfl, -⟩ | ⟨hfind, -, rfl, -⟩ <;>
      · rw [localAdminId, hfind]
        rfl
    · rcases upsertBySubject_eq_ok hupsert with ⟨u₀, -, -, rfl⟩ | ⟨-, -, -, rfl⟩ <;>
        exact ⟨rfl, rfl, rfl⟩

/-- The bindings of the administrator are those of its user, if there is one. -/
lemma bound_localAdminId (htables : IamTables db) (hserved : Served env db)
    {b : UserRoleBindingRow} (hb : b ∈ db.iamUserRoleBinding) :
    b.userId = localAdminId cfg env db ↔
      ∃ u ∈ db.iamUser, u.oidcSubject = localSubject cfg.localAdminUsername ∧ b.userId = u.id := by
  rw [localAdminId]
  cases hfind : db.iamUser.find? (·.oidcSubject == localSubject cfg.localAdminUsername) with
  | none =>
    rw [List.find?_eq_none] at hfind
    constructor
    · intro hid
      obtain ⟨u, hu, huid⟩ := htables.bound b hb
      exact absurd (huid.trans hid) (hserved.newUserId u hu)
    · rintro ⟨u, hu, hsubject, -⟩
      exact absurd (beq_iff_eq.mpr hsubject) (hfind u hu)
  | some u₀ =>
    have hsubject₀ : u₀.oidcSubject = localSubject cfg.localAdminUsername := by
      simpa using List.find?_some hfind
    have hu₀ := List.mem_of_find?_eq_some hfind
    constructor
    · intro hid
      exact ⟨u₀, hu₀, hsubject₀, hid⟩
    · rintro ⟨u, hu, hsubject, hid⟩
      obtain rfl := List.inj_on_of_nodup_map htables.subjects hu hu₀ (hsubject.trans hsubject₀.symm)
      exact hid

/-- The identity of the administrator is read when the scopes parse. -/
lemma identity_provisioned_iff (htables : IamTables db) (hserved : Served env db)
    (h : ensureLocalAdmin db bcrypt env cfg.localAdminUsername cfg.localAdminPassword =
      .ok (db', id)) (l : LocalUserRow) :
    (∃ identity, identityForUser (noteLogin db' env l) id.toText = .ok identity) ↔
      ScopesRead (localSubject cfg.localAdminUsername) db := by
  obtain ⟨rfl, ⟨u, hu, hid⟩, hbindings, hroles, hpermissions⟩ := ensureLocalAdmin_rows h
  -- the note of the login keeps the user
  have hnoted : ∃ u ∈ (noteLogin db' env l).iamUser, u.id = localAdminId cfg env db := by
    rw [noteLogin]
    dsimp only
    split
    · have hids := map_updateWhere (p := (·.id == l.userId))
        (f := fun u : UserRow =>
          { u with lastLoginAt := some env.loginAt, updatedAt := env.loginAt })
        (g := fun u : UserRow => u.id) (fun _ _ => rfl) db'.iamUser
      obtain ⟨u', hu', hsame⟩ := List.mem_map.mp (hids ▸ List.mem_map_of_mem hu)
      exact ⟨u', hu', hsame.trans hid⟩
    · exact ⟨u, hu, hid⟩
  rw [identityForUser_isOk_iff hnoted]
  have hrows : (noteLogin db' env l).iamUserRoleBinding =
        (bindAdmin db (localAdminId cfg env db)).iamUserRoleBinding ∧
      (noteLogin db' env l).iamRole = db.iamRole ∧
      (noteLogin db' env l).iamRolePermission = db.iamRolePermission :=
    ⟨hbindings, hroles, hpermissions⟩
  rw [hrows.1, hrows.2.1, hrows.2.2, ScopesRead]
  -- the roles are those of before and `admin`, which is bound by the provisioning
  constructor
  · rintro hread rp hrp r hr hrole (hname | ⟨u, hu, hsubject, b, hb, huser, hbrole⟩)
    · refine hread ⟨localAdminId cfg env db, r.id⟩ ?_ rfl r hr rfl rp hrp hrole.symm
      exact mem_bindAdmin.mpr (Or.inr ⟨rfl, r, hr, hname, rfl⟩)
    · refine hread b (mem_bindAdmin.mpr (Or.inl hb)) ?_ r hr hbrole.symm rp hrp hrole.symm
      exact (bound_localAdminId htables hserved hb).mpr ⟨u, hu, hsubject, huser⟩
  · intro hread b hb huser r hr hbrole rp hrp hrole
    refine hread rp hrp r hr hrole.symm ?_
    rcases mem_bindAdmin.mp hb with hold | ⟨-, r', hr', hname, hid'⟩
    · obtain ⟨u, hu, hsubject, huid⟩ := (bound_localAdminId htables hserved hold).mp huser
      exact Or.inr ⟨u, hu, hsubject, b, hold, huid, hbrole.symm⟩
    · obtain rfl := List.inj_on_of_nodup_map htables.roleIds hr hr' (hbrole.trans hid'.symm)
      exact Or.inl hname

/-! ### The login -/

lemma exists_answerLogin_iff (r : Db × Except LoginError UserIdentity) :
    (∃ identity, (Handler.answerLogin r).2 = .ok identity) ↔ ∃ identity, r.2 = .ok identity := by
  obtain ⟨db, e | identity⟩ := r
  · cases e <;> simp [Handler.answerLogin]
  · simp [Handler.answerLogin]

/-- The repository's login, for an account that is enabled. -/
lemma exists_localLogin_iff {username password : String} {l : LocalUserRow}
    (hname : localName username ≠ "") (hpassword : trimSpace password ≠ "")
    (hselect : env.selectError = none)
    (hfind : db.iamLocalUser.find? (·.username == localName username) = some l)
    (henabled : l.enabled = true) :
    (∃ identity, (localLogin db bcrypt env username password).2 = .ok identity) ↔
      bcrypt.compareHashAndPassword l.passwordHash password = true ∧
        ∃ identity, identityForUser (noteLogin db env l) l.userId.toText = .ok identity := by
  rw [localLogin, if_neg (not_or.mpr ⟨hname, hpassword⟩), hselect]
  dsimp only
  rw [hfind]
  dsimp only
  rw [henabled, Bool.not_true, Bool.false_or]
  cases hcompare : bcrypt.compareHashAndPassword l.passwordHash password with
  | false => simp
  | true =>
    rw [Bool.not_true, if_neg Bool.false_ne_true, and_iff_right rfl]
    simp only [Except.mapError_eq_ok]

/-- The answer of the handler is a token, when it is an identity. -/
lemma exists_localLoginToken_iff {lib : TokenLib} {signingKey : Utf8.Bytes} {now : ℤ}
    {body : Option LocalLoginRequest}
    (hmarshal : ∀ claims, ∃ payload, lib.marshal claims = .ok payload) :
    (∃ token,
        (Handler.localLoginToken lib signingKey now cfg bcrypt env db body).2 = .ok token) ↔
      ∃ identity, (Handler.localLogin cfg bcrypt env db body).2 = .ok identity := by
  rw [Handler.localLoginToken]
  generalize Handler.localLogin cfg bcrypt env db body = r
  obtain ⟨db', e | identity⟩ := r
  · simp
  · obtain ⟨payload, hpayload⟩ :=
      hmarshal (TokenService.claimsOf lib now (tokenUser identity) tokenTTL)
    simp [TokenService.issue, hpayload, Except.ok_bind]

end

/-- **When the configured administrator can sign in.**  Let `Load` accept the environment, let
`bcrypt` be correct and let no statement fail.  A login with the two variables is answered with a
token if and only if the password has no white space around it and has 72 bytes at most, and the
scopes of the roles that the administrator holds parse. -/
theorem configured_admin_signs_in_iff
    {parseDuration : String → Except ParseError ℤ} {vars : Environment}
    {cfg : OpsPlatform.Config} (hload : load parseDuration vars = .ok cfg)
    {lib : TokenLib} (hmarshal : ∀ claims, ∃ payload, lib.marshal claims = .ok payload)
    {bcrypt : Bcrypt} (hbcrypt : bcrypt.Correct) {db : Db} (htables : IamTables db)
    {env : LocalEnv} (hserved : Served env db) (signingKey : Utf8.Bytes) (now : ℤ) :
    (∃ token, (Handler.localLoginToken lib signingKey now (loginConfig cfg) bcrypt env db
        (some (configuredLogin vars))).2 = .ok token) ↔
      trimSpace (configuredLogin vars).password = (configuredLogin vars).password ∧
        (configuredLogin vars).password.utf8ByteSize ≤ 72 ∧
        ScopesRead (localSubject (trimSpace (configuredLogin vars).username)) db := by
  have hloaded := load_eq_ok hload
  have husername : trimSpace (configuredLogin vars).username =
      (loginConfig cfg).localAdminUsername := hloaded.localAdminUsername.symm
  have hpassword : (configuredLogin vars).password = (loginConfig cfg).localAdminPassword :=
    hloaded.localAdminPassword.symm
  have hname : localName (loginConfig cfg).localAdminUsername ≠ "" := by
    refine trimSpace_toLower_ne ?_
    rw [← husername, trimSpace_trimSpace, husername]
    exact hloaded.localAdminUsername_ne
  have hfilled : trimSpace (loginConfig cfg).localAdminPassword ≠ "" :=
    hloaded.localAdminPassword_ne
  have husername_ne : trimSpace (configuredLogin vars).username ≠ "" :=
    husername ▸ hloaded.localAdminUsername_ne
  have hpassword_ne : trimSpace (configuredLogin vars).password ≠ "" := hpassword ▸ hfilled
  -- the trimmed name is the configured one, up to its case
  have hconfigured : equalFold (trimSpace (configuredLogin vars).username)
      (loginConfig cfg).localAdminUsername = true := by
    rw [husername]
    exact equalFold_self _
  rw [exists_localLoginToken_iff hmarshal, hpassword]
  -- a password that bcrypt takes is provisioned, and compared with its trimming
  by_cases hlength : (loginConfig cfg).localAdminPassword.utf8ByteSize ≤ 72
  · obtain ⟨hash, hhash, hverifies⟩ := hbcrypt.verifies env.salt _ hlength
    have hprovisions : Provisions (loginConfig cfg) bcrypt env db (configuredLogin vars) :=
      ⟨husername_ne, hpassword_ne, hconfigured, hname, hfilled, ⟨hash, hhash⟩, hserved.txError,
        Or.inr hserved.newUserId, fun _ => hserved.selectError⟩
    obtain ⟨db', id, hok⟩ := hprovisions.ensureLocalAdmin
    obtain ⟨-, -, -, hash', hhash', haccounts⟩ := ensureLocalAdmin_eq_ok hok
    obtain rfl : hash = hash' := Except.ok.inj (hhash.symm.trans hhash')
    have hid : id = localAdminId (loginConfig cfg) env db := (ensureLocalAdmin_rows hok).1
    rw [handler_of_provisioned husername_ne hpassword_ne hconfigured hok, exists_answerLogin_iff,
      husername, hpassword, exists_localLogin_iff hname (by rwa [trimSpace_trimSpace])
        hserved.selectError (haccounts ▸ find?_provisionedAccounts hash) rfl]
    refine and_congr (hverifies _) ?_
    rw [and_iff_right hlength, ← identity_provisioned_iff htables hserved hok
      (localAdminAccount (loginConfig cfg) env db hash), hid]
    rfl
  · -- the account cannot be provisioned
    obtain ⟨e, he⟩ := hbcrypt.tooLong env.salt (loginConfig cfg).localAdminPassword (by omega)
    have herror : ensureLocalAdmin db bcrypt env (loginConfig cfg).localAdminUsername
        (loginConfig cfg).localAdminPassword = .error (.message e) := by
      rw [ensureLocalAdmin, if_neg (not_or.mpr ⟨hname, hfilled⟩), he]
      rfl
    rw [Handler.localLogin, if_neg (not_or.mpr ⟨husername_ne, hpassword_ne⟩),
      if_neg (by simp [hconfigured]), herror]
    simp [hlength]

/-! ### An environment -/

/-- An environment with the password. -/
def sampleVars (password : String) : Environment :=
  varsWith "OPS_LOCAL_ADMIN_PASSWORD" password

/-- A hash that shows the password, for the examples. -/
def sampleBcrypt : Bcrypt where
  generateFromPassword _ password :=
    if 72 < password.utf8ByteSize then .error "bcrypt: password length exceeds 72 bytes"
    else .ok ("$2a$10$" ++ password)
  compareHashAndPassword hash password := hash == "$2a$10$" ++ password

lemma correct_sampleBcrypt : sampleBcrypt.Correct where
  tooLong salt password h := ⟨_, if_pos h⟩
  verifies salt password h := by
    refine ⟨_, if_neg (not_lt.mpr h), fun guess => ?_⟩
    rw [sampleBcrypt, beq_iff_eq, ← String.toList_inj, String.toList_append, String.toList_append,
      List.append_cancel_left_eq, String.toList_inj, eq_comm]

lemma iamTables_freshDb : IamTables freshDb where
  roleIds := by decide
  subjects := List.nodup_nil
  bound b hb := by cases hb

lemma served_freshDb : Served loginEnv freshDb where
  txError := rfl
  selectError := rfl
  newUserId u hu := by cases hu

/-- `Load` accepts a password with a blank before it.  The account gets the hash of that password,
and a login with it is refused: it is compared without the blank. -/
theorem padded_password_refused :
    ∃ cfg, load defaultDuration (sampleVars " s3cret") = .ok cfg ∧
      (configuredLogin (sampleVars " s3cret")).password = " s3cret" ∧
      (Handler.localLoginToken TokenService.sampleLib [] 1700000000 (loginConfig cfg) sampleBcrypt
        loginEnv freshDb (some (configuredLogin (sampleVars " s3cret")))).2 =
        .error (401, .invalidCredentials) :=
  ⟨_, rfl, rfl, rfl⟩

theorem configured_admin_signs_in_iff_sampleVars :
    ∃ cfg token, load defaultDuration (sampleVars "s3cret") = .ok cfg ∧
      (Handler.localLoginToken TokenService.sampleLib [] 1700000000 (loginConfig cfg) sampleBcrypt
        loginEnv freshDb (some (configuredLogin (sampleVars "s3cret")))).2 = .ok token := by
  obtain ⟨cfg, hload⟩ : ∃ cfg, load defaultDuration (sampleVars "s3cret") =
      .ok cfg := ⟨_, rfl⟩
  have hmarshal : ∀ claims, ∃ payload, TokenService.sampleLib.marshal claims = .ok payload :=
    fun _ => ⟨_, rfl⟩
  have hsigned := (configured_admin_signs_in_iff hload hmarshal correct_sampleBcrypt
    iamTables_freshDb served_freshDb [] 1700000000).mpr
      ⟨by decide, by decide, fun rp hrp => by cases hrp⟩
  obtain ⟨token, htoken⟩ := hsigned
  exact ⟨cfg, token, hload, htoken⟩

end OpsPlatform.Iam
