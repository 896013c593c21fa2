/-
What a refused local login leaves behind (`LocalLogin` in `internal/iam/handler.go`).

The handler provisions the configured administrator before it looks at the password.  A request
with the configured name and a wrong password is answered with 401, and by then the account has a
new hash, is enabled and is bound to the role `admin`, whatever an administrator had made of it.
-/
import OpsPlatform.Iam.Login

namespace OpsPlatform.Iam

open Lib Lib.Table Lib.Text

variable (cfg : Config) (bcrypt : Bcrypt) (env : LocalEnv) (db : Db)

/-- The tables of a login are the same. -/
structure SameLogins (db db' : Db) : Prop where
  iamUser : db'.iamUser = db.iamUser
  iamLocalUser : db'.iamLocalUser = db.iamLocalUser
  iamUserRoleBinding : db'.iamUserRoleBinding = db.iamUserRoleBinding

/-- A login that is answered with 400 or 401 changes nothing. -/
def RefusedUnchanged (body : Option LocalLoginRequest) : Prop :=
  (Handler.localLogin cfg bcrypt env db body).2.status ∈ [400, 401] →
    SameLogins db (Handler.localLogin cfg bcrypt env db body).1

/-- The request has the configured name, and the administrator is provisioned: there is a name and a
password to do it with, and the statements are executed. -/
structure Provisions (req : LocalLoginRequest) : Prop where
  username : trimSpace req.username ≠ ""
  password : trimSpace req.password ≠ ""
  configured : equalFold (trimSpace req.username) cfg.localAdminUsername = true
  name : localName cfg.localAdminUsername ≠ ""
  configuredPassword : trimSpace cfg.localAdminPassword ≠ ""
  hashed : ∃ hash, bcrypt.generateFromPassword env.salt cfg.localAdminPassword = .ok hash
  committed : env.txError = none
  inserted : (∃ u ∈ db.iamUser, u.oidcSubject = localSubject cfg.localAdminUsername) ∨
    ∀ u ∈ db.iamUser, u.id ≠ env.newUserId
  read : localName (trimSpace req.username) ≠ "" → env.selectError = none

/-- The user that is provisioned. -/
def localAdminId : Uuid :=
  ((db.iamUser.find? (·.oidcSubject == localSubject cfg.localAdminUsername)).map (·.id)).getD
    env.newUserId

/-- The password is that of the account: of the configured one, when the request has its name in
lower case, and of another user's otherwise. -/
def Accepts (req : LocalLoginRequest) : Prop :=
  (localName (trimSpace req.username) = localName cfg.localAdminUsername ∧
      ∃ hash, bcrypt.generateFromPassword env.salt cfg.localAdminPassword = .ok hash ∧
        bcrypt.compareHashAndPassword hash (trimSpace req.password) = true) ∨
    (localName (trimSpace req.username) ≠ localName cfg.localAdminUsername ∧
      localName (trimSpace req.username) ≠ "" ∧
      ∃ l ∈ db.iamLocalUser, l.username = localName (trimSpace req.username) ∧
        l.userId ≠ localAdminId cfg env db ∧ l.enabled = true ∧
        bcrypt.compareHashAndPassword l.passwordHash (trimSpace req.password) = true)

/-- The account that is provisioned. -/
def localAdminAccount (passwordHash : String) : LocalUserRow :=
  { username := localName cfg.localAdminUsername, userId := localAdminId cfg env db, passwordHash
    createdAt := env.provisionedAt, updatedAt := env.provisionedAt }

/-- The accounts after the provisioning. -/
def provisionedAccounts (passwordHash : String) : List LocalUserRow :=
  (db.iamLocalUser.filter fun l => !(l.userId == localAdminId cfg env db ||
    l.username == localName cfg.localAdminUsername)) ++ [localAdminAccount cfg env db passwordHash]

/-- The repository reads an account that takes the password. -/
def Opens (username password : String) : Prop :=
  localName username ≠ "" ∧ ∃ l, db.iamLocalUser.find? (·.username == localName username) = some l ∧
    l.enabled = true ∧ bcrypt.compareHashAndPassword l.passwordHash password = true

section

variable {cfg bcrypt env db} {db' : Db} {id : Uuid} {req : LocalLoginRequest}

/-- What it takes to provision the administrator, and what it leaves in `iam_local_user`. -/
lemma ensureLocalAdmin_eq_ok
    (h : ensureLocalAdmin db bcrypt env cfg.localAdminUsername cfg.localAdminPassword =
      .ok (db', id)) :
    (localName cfg.localAdminUsername ≠ "" ∧ trimSpace cfg.localAdminPassword ≠ "") ∧
      env.txError = none ∧
      ((∃ u ∈ db.iamUser, u.oidcSubject = localSubject cfg.localAdminUsername) ∨
        ∀ u ∈ db.iamUser, u.id ≠ env.newUserId) ∧
      ∃ hash, bcrypt.generateFromPassword env.salt cfg.localAdminPassword = .ok hash ∧
        db'.iamLocalUser = provisionedAccounts cfg env db hash := by
  rw [ensureLocalAdmin, Except.ite_error_eq_ok, not_or] at h
  obtain ⟨hconfig, h⟩ := h
  rw [Except.bind_eq_ok] at h
  obtain ⟨hash, hhash, h⟩ := h
  rw [Except.mapError_eq_ok] at hhash
  split at h
  · cases h
  · next htx =>
    rw [Except.bind_eq_ok] at h
    obtain ⟨⟨db₁, u⟩, hupsert, h⟩ := h
    obtain ⟨rfl, rfl⟩ := Prod.mk.inj (Except.ok.inj h)
    refine ⟨hconfig, htx, ?_⟩
    rcases upsertBySubject_eq_ok hupsert with ⟨u₀, hfind, rfl, rfl⟩ | ⟨hfind, hfresh, rfl, rfl⟩
    · have hid : u₀.id = localAdminId cfg env db := by rw [localAdminId, hfind]; rfl
      refine ⟨Or.inl ⟨u₀, List.mem_of_find?_eq_some hfind, by simpa using List.find?_some hfind⟩,
        hash, hhash, ?_⟩
      rw [provisionedAccounts, localAdminAccount, ← hid]
      rfl
    · have hid : env.newUserId = localAdminId cfg env db := by rw [localAdminId, hfind]; rfl
      refine ⟨Or.inr hfresh, hash, hhash, ?_⟩
      rw [provisionedAccounts, localAdminAccount, ← hid]
      rfl

/-- The administrator is provisioned when all this is there. -/
lemma Provisions.ensureLocalAdmin (h : Provisions cfg bcrypt env db req) :
    ∃ db' id, ensureLocalAdmin db bcrypt env cfg.localAdminUsername cfg.localAdminPassword =
      .ok (db', id) := by
  obtain ⟨hash, hhash⟩ := h.hashed
  obtain ⟨⟨db₁, u⟩, hupsert⟩ : ∃ r, upsertLocalUser db env cfg.localAdminUsername = .ok r :=
    exists_upsertBySubject h.inserted
  rw [Iam.ensureLocalAdmin, if_neg (not_or.mpr ⟨h.name, h.configuredPassword⟩), hhash, h.committed]
  exact ⟨_, _, by
    dsimp only [Except.mapError, bind, Except.bind]
    rw [hupsert]⟩

/-- The account that was provisioned is the one of its name: every other one of that name has been
deleted. -/
lemma find?_provisionedAccounts (hash : String) :
    (provisionedAccounts cfg env db hash).find?
        (·.username == localName cfg.localAdminUsername) =
      some (localAdminAccount cfg env db hash) := by
  rw [provisionedAccounts, List.find?_append]
  have hnone : (db.iamLocalUser.filter fun l => !(l.userId == localAdminId cfg env db ||
      l.username == localName cfg.localAdminUsername)).find?
        (·.username == localName cfg.localAdminUsername) = none := by
    rw [List.find?_eq_none]
    intro l hl hhit
    have hkept := (List.mem_filter.mp hl).2
    rw [hhit] at hkept
    simp at hkept
  rw [hnone, Option.none_or]
  simp [localAdminAccount]

/-- The account that the login reads after the provisioning. -/
lemma accepts_iff (req : LocalLoginRequest) {hash : String}
    (hhash : bcrypt.generateFromPassword env.salt cfg.localAdminPassword = .ok hash)
    (haccounts : db'.iamLocalUser = provisionedAccounts cfg env db hash)
    (hname : localName cfg.localAdminUsername ≠ "")
    (hkeys : (db.iamLocalUser.map (·.username)).Nodup) :
    Accepts cfg bcrypt env db req ↔
      Opens bcrypt db' (trimSpace req.username) (trimSpace req.password) := by
  rw [Accepts, Opens, haccounts]
  generalize localName (trimSpace req.username) = name
  by_cases hsame : name = localName cfg.localAdminUsername
  · rw [or_iff_left (fun h => h.1 hsame), and_iff_right hsame, hsame, find?_provisionedAccounts]
    constructor
    · rintro ⟨hash', hhash', hcompare⟩
      obtain rfl : hash = hash' := Except.ok.inj (hhash.symm.trans hhash')
      exact ⟨hname, _, rfl, rfl, hcompare⟩
    · rintro ⟨-, l, hl, -, hcompare⟩
      obtain rfl := Option.some.inj hl
      exact ⟨hash, hhash, hcompare⟩
  · rw [or_iff_right (fun h => hsame h.1), and_iff_right hsame, provisionedAccounts,
      List.find?_append]
    have hnew : [localAdminAccount cfg env db hash].find? (·.username == name) = none := by
      simp [localAdminAccount, Ne.symm hsame]
    rw [hnew, Option.or_none]
    refine and_congr_right fun _ => ⟨?_, ?_⟩
    · rintro ⟨l, hl, husername, huser, haccepted⟩
      refine ⟨l, ?_, haccepted⟩
      have hfilter : l ∈ db.iamLocalUser.filter fun l => !(l.userId == localAdminId cfg env db ||
          l.username == localName cfg.localAdminUsername) := by
        refine List.mem_filter.mpr ⟨hl, ?_⟩
        simp [huser, husername, hsame]
      refine find?_eq_of_nodup (hkeys.sublist (List.filter_sublist.map _)) hfilter
        (by simp [husername]) ?_
      intro l' _ hhit
      rw [eq_of_beq hhit, husername]
    · rintro ⟨l, hfind, haccepted⟩
      obtain ⟨hl, hkept⟩ := List.mem_filter.mp (List.mem_of_find?_eq_some hfind)
      refine ⟨l, hl, by simpa using List.find?_some hfind, ?_, haccepted⟩
      intro huser
      simp [huser] at hkept

variable {username password : String}

lemma localLogin_of_not_opens (hselect : localName username ≠ "" → env.selectError = none)
    (h : ¬ Opens bcrypt db username password) :
    localLogin db bcrypt env username password = (db, .error .invalidCredentials) := by
  rw [localLogin]
  split
  · rfl
  · next hfilled =>
    have hname := (not_or.mp hfilled).1
    rw [hselect hname]
    dsimp only
    split
    · rfl
    · next l hfind =>
      refine if_pos ?_
      by_contra hopen
      rw [Bool.or_eq_true, not_or, Bool.not_eq_true', Bool.not_eq_false, Bool.not_eq_true',
        Bool.not_eq_false] at hopen
      exact h ⟨hname, l, hfind, hopen⟩

lemma localLogin_of_opens (hselect : localName username ≠ "" → env.selectError = none)
    (hpassword : trimSpace password ≠ "") (h : Opens bcrypt db username password) :
    (localLogin db bcrypt env username password).2 ≠ .error .invalidCredentials := by
  obtain ⟨hname, l, hfind, henabled, hcompare⟩ := h
  rw [localLogin, if_neg (not_or.mpr ⟨hname, hpassword⟩), hselect hname]
  simp only [hfind, henabled, hcompare, Bool.not_true, Bool.or_self, Bool.false_eq_true, if_false]
  cases identityForUser (noteLogin db env l) l.userId.toText <;> simp [Except.mapError]

/-- An error of the statement that reads the account is not a refusal. -/
lemma localLogin_of_selectError (hname : localName username ≠ "")
    (hpassword : trimSpace password ≠ "") {e : String} (hselect : env.selectError = some e) :
    localLogin db bcrypt env username password = (db, .error (.message e)) := by
  rw [localLogin, if_neg (not_or.mpr ⟨hname, hpassword⟩), hselect]

/-- The handler, once the administrator has been provisioned. -/
lemma handler_of_provisioned {id : Uuid} (husername : trimSpace req.username ≠ "")
    (hpassword : trimSpace req.password ≠ "")
    (hconfigured : equalFold (trimSpace req.username) cfg.localAdminUsername = true)
    (h : ensureLocalAdmin db bcrypt env cfg.localAdminUsername cfg.localAdminPassword =
      .ok (db', id)) :
    Handler.localLogin cfg bcrypt env db (some req) = Handler.answerLogin
      (localLogin db' bcrypt env (trimSpace req.username) (trimSpace req.password)) := by
  rw [Handler.localLogin, if_neg (not_or.mpr ⟨husername, hpassword⟩),
    if_neg (by simp [hconfigured]), h]

/-- A refusal after the provisioning has read the accounts, and has found none that takes the
password. -/
lemma refused_of_provisioned (hpassword : trimSpace password ≠ "")
    (h : (Handler.answerLogin (localLogin db bcrypt env username password)).2.status ∈ [400, 401]) :
    (localName username ≠ "" → env.selectError = none) ∧ ¬ Opens bcrypt db username password := by
  have hread : localName username ≠ "" → env.selectError = none := by
    intro hname
    cases hselect : env.selectError with
    | none => rfl
    | some e =>
      rw [localLogin_of_selectError hname hpassword hselect] at h
      simp [Handler.answerLogin, Handler.Answer.status] at h
  refine ⟨hread, fun hopens => ?_⟩
  have hanswer := localLogin_of_opens hread hpassword hopens
  revert h hanswer
  generalize localLogin db bcrypt env username password = r
  obtain ⟨db', e | identity⟩ := r
  · cases e <;> simp [Handler.answerLogin, Handler.Answer.status]
  · simp [Handler.answerLogin, Handler.Answer.status]

/-- A request that is refused has changed nothing, or has provisioned the administrator and has a
password that is not accepted. -/
lemma refused_cases (hkeys : (db.iamLocalUser.map (·.username)).Nodup)
    {body : Option LocalLoginRequest}
    (h : (Handler.localLogin cfg bcrypt env db body).2.status ∈ [400, 401]) :
    SameLogins db (Handler.localLogin cfg bcrypt env db body).1 ∨
      ∃ req ∈ body, Provisions cfg bcrypt env db req ∧ ¬ Accepts cfg bcrypt env db req := by
  have hself : SameLogins db db := ⟨rfl, rfl, rfl⟩
  cases body with
  | none => exact Or.inl hself
  | some req =>
    by_cases hfilled : trimSpace req.username = "" ∨ trimSpace req.password = ""
    · rw [Handler.localLogin, if_pos hfilled]
      exact Or.inl hself
    obtain ⟨husername, hpassword⟩ := not_or.mp hfilled
    by_cases hconfigured : equalFold (trimSpace req.username) cfg.localAdminUsername = false
    · rw [Handler.localLogin, if_neg hfilled, if_pos hconfigured]
      exact Or.inl hself
    rw [Bool.not_eq_false] at hconfigured
    cases hok : ensureLocalAdmin db bcrypt env cfg.localAdminUsername cfg.localAdminPassword with
    | error e =>
      rw [Handler.localLogin, if_neg hfilled, if_neg (by simp [hconfigured]), hok] at h
      simp [Handler.Answer.status] at h
    | ok r =>
      obtain ⟨db', id⟩ := r
      obtain ⟨⟨hname, hconfiguredPassword⟩, htx, hinserted, hash, hhash, haccounts⟩ :=
        ensureLocalAdmin_eq_ok hok
      rw [handler_of_provisioned husername hpassword hconfigured hok] at h
      obtain ⟨hread, hclosed⟩ := refused_of_provisioned (by simpa using hpassword) h
      refine Or.inr ⟨req, Option.mem_some_self req, ?_, ?_⟩
      · exact ⟨husername, hpassword, hconfigured, hname, hconfiguredPassword, ⟨hash, hhash⟩, htx,
          hinserted, hread⟩
      · rwa [accepts_iff req hhash haccounts hname hkeys]

end

/-- **When a refused login changes nothing.**  Let the names of the local accounts be a key, and let
the clock have moved since they were made.  A local login that is answered with 400 or 401 leaves
the tables as they were if and only if it does not get as far as the provisioning of the
administrator, or has a password that is accepted (and is then not answered so). -/
theorem refused_login_unchanged_iff {cfg : Config} {bcrypt : Bcrypt} {env : LocalEnv} {db : Db}
    (hkeys : (db.iamLocalUser.map (·.username)).Nodup)
    (hclock : ∀ l ∈ db.iamLocalUser, l.createdAt < env.provisionedAt)
    (body : Option LocalLoginRequest) :
    RefusedUnchanged cfg bcrypt env db body ↔
      ∀ req ∈ body, Provisions cfg bcrypt env db req → Accepts cfg bcrypt env db req := by
  constructor
  · rintro hunchanged req rfl hprovisions
    by_contra hnot
    obtain ⟨db', id, hok⟩ := hprovisions.ensureLocalAdmin
    obtain ⟨-, -, -, hash, hhash, haccounts⟩ := ensureLocalAdmin_eq_ok hok
    rw [accepts_iff req hhash haccounts hprovisions.name hkeys] at hnot
    have hanswer : Handler.localLogin cfg bcrypt env db (some req) =
        (db', .error (401, .invalidCredentials)) := by
      rw [handler_of_provisioned hprovisions.username hprovisions.password hprovisions.configured
        hok, localLogin_of_not_opens hprovisions.read hnot]
      rfl
    rw [RefusedUnchanged, hanswer] at hunchanged
    have hsame : SameLogins db db' := hunchanged (by simp [Handler.Answer.status])
    -- the new account was made at a time that no account has
    have hnew : localAdminAccount cfg env db hash ∈ db.iamLocalUser := by
      rw [← hsame.iamLocalUser, haccounts]
      exact List.mem_append_right _ (List.mem_singleton_self _)
    exact lt_irrefl _ (hclock _ hnew)
  · intro haccepts hstatus
    rcases refused_cases hkeys hstatus with hsame | ⟨req, hreq, hprovisions, hnot⟩
    · exact hsame
    · exact absurd (haccepts req hreq hprovisions) hnot

/-- The local administrator has been disabled and has no role. -/
def disabledAdmin : Db where
  iamUser := [{ id := Uuid.replicate 1, oidcSubject := "local:admin", name := some "admin" }]
  iamRole := [{ id := Uuid.replicate 2, name := "admin" }]
  iamLocalUser := [{ username := "admin", userId := Uuid.replicate 1, passwordHash := "1$old"
                     enabled := false }]

def loginEnv : LocalEnv :=
  { salt := 7, newUserId := Uuid.replicate 3, provisionedAt := 10, loginAt := 11 }

/-- A wrong password: the login is refused, and the account is enabled and bound to the role. -/
theorem refused_login_enables_account :
    (Handler.localLogin adminConfig plainBcrypt loginEnv disabledAdmin
        (some { username := "Admin", password := "guess" })).2.status = 401 ∧
      (Handler.localLogin adminConfig plainBcrypt loginEnv disabledAdmin
        (some { username := "Admin", password := "guess" })).1.iamLocalUser =
          [{ username := "admin", userId := Uuid.replicate 1, passwordHash := "7$admin123456"
             enabled := true, createdAt := 10, updatedAt := 10 }] ∧
      (Handler.localLogin adminConfig plainBcrypt loginEnv disabledAdmin
        (some { username := "Admin", password := "guess" })).1.iamUserRoleBinding =
          [{ userId := Uuid.replicate 1, roleId := Uuid.replicate 2 }] ∧
      ¬ RefusedUnchanged adminConfig plainBcrypt loginEnv disabledAdmin
        (some { username := "Admin", password := "guess" }) := by
  have hstatus : (Handler.localLogin adminConfig plainBcrypt loginEnv disabledAdmin
      (some { username := "Admin", password := "guess" })).2.status = 401 := by rfl
  have hbindings : (Handler.localLogin adminConfig plainBcrypt loginEnv disabledAdmin
      (some { username := "Admin", password := "guess" })).1.iamUserRoleBinding =
        [{ userId := Uuid.replicate 1, roleId := Uuid.replicate 2 }] := by rfl
  refine ⟨hstatus, by rfl, hbindings, ?_⟩
  intro hunchanged
  have hsame := (hunchanged (by rw [hstatus]; decide)).iamUserRoleBinding
  rw [hbindings] at hsame
  cases hsame

/-- A name that is not the configured one changes nothing. -/
theorem refused_login_unchanged_iff_other_name :
    (Handler.localLogin adminConfig plainBcrypt loginEnv disabledAdmin
        (some { username := "root", password := "guess" })).2.status = 401 ∧
      RefusedUnchanged adminConfig plainBcrypt loginEnv disabledAdmin
        (some { username := "root", password := "guess" }) := by
  refine ⟨by rfl, (refused_login_unchanged_iff (by decide) (by decide) _).mpr ?_⟩
  rintro req ⟨⟩ hprovisions
  exact absurd hprovisions.configured (by decide)

end OpsPlatform.Iam
