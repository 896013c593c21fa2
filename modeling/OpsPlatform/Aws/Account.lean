/-
`CreateAccount` and `UpdateAccount` (`internal/aws/handler.go`, `internal/aws/repository.go`), and
the session in which an account is synced (`internal/aws/session.go`).

Creating an account asks for the credentials of its mode.  An update writes each column from a
field of its own and does not look at the mode, and a session of the mode `assume_role` falls back
to the keys of the account when there is no role.
-/
import OpsPlatform.Cmdb.Asset
import OpsPlatform.Iam.Middleware
import OpsPlatform.Lib.Run

namespace OpsPlatform.Aws

open Lib Lib.Run Lib.Table Lib.Text Iam SshProxy Cmdb

/-! ### Secrets -/

/-- The sealed texts of `internal/security/crypto.go`, under the master key. -/
structure Cipher where
  gcmSeal : (nonce : ℕ) → String → Except String String
  gcmOpen : String → Except String String
  /-- a sealed text begins with its nonce -/
  gcmSeal_ne_empty : ∀ nonce plaintext text, gcmSeal nonce plaintext = .ok text → text ≠ ""

/-- `Encrypt`. -/
def Cipher.encrypt (cipher : Cipher) (nonce : ℕ) (plaintext : String) : Except String String :=
  if plaintext = "" then .ok "" else cipher.gcmSeal nonce plaintext

/-- `Decrypt`. -/
def Cipher.decrypt (cipher : Cipher) (ciphertext : String) : Except String String :=
  if ciphertext = "" then .ok "" else cipher.gcmOpen ciphertext

/-! ### Creating -/

/-- The checks of the handler.  An account without a mode gets `assume_role`. -/
def CreateAccountRequest.validate (req : CreateAccountRequest) :
    Except HttpError CreateAccountRequest :=
  if req.accountID = "" ∨ req.displayName = "" then
    .error ⟨400, "account_id and display_name are required", none⟩
  else
    let req := { req with authMode := if req.authMode = "" then "assume_role" else req.authMode }
    if req.authMode ≠ "assume_role" ∧ req.authMode ≠ "static" then
      .error ⟨400, "auth_mode must be assume_role or static", none⟩
    else if req.authMode = "assume_role" ∧ req.roleARN = "" then
      .error ⟨400, "role_arn is required for assume_role mode", none⟩
    else if req.authMode = "static" ∧ (req.accessKeyID = "" ∨ req.secretAccessKey = "") then
      .error ⟨400, "access_key_id and secret_access_key are required for static mode", none⟩
    else .ok req

/-- The row that `CreateAccount` inserts. -/
def accountOfRequest (now : Time) (newId : Uuid) (encryptedSecret : String)
    (req : CreateAccountRequest) : AccountRow :=
  { id := newId, accountId := req.accountID, displayName := req.displayName
    authMode := req.authMode, roleArn := nullIfEmpty req.roleARN
    externalId := nullIfEmpty req.externalID, accessKeyId := nullIfEmpty req.accessKeyID
    secretAccessKeyEncrypted := nullIfEmpty encryptedSecret
    regionAllowlist := req.regionAllowlist, enabled := req.enabled
    createdAt := now, updatedAt := now }

/-- `CreateAccount` of the repository. -/
def insertAccount (db : Db) (cipher : Cipher) (nonce : ℕ) (now : Time) (newId : Uuid)
    (req : CreateAccountRequest) : Except String Db := do
  let encryptedSecret ← cipher.encrypt nonce req.secretAccessKey
  if db.awsAccount.any fun a => a.id == newId || a.accountId == req.accountID then
    .error "duplicate key value violates unique constraint"
  else
    .ok { db with awsAccount := db.awsAccount ++ [accountOfRequest now newId encryptedSecret req] }

/-- `CreateAccount`.  A body that does not decode is `none`. -/
def createAccount (db : Db) (cipher : Cipher) (nonce : ℕ) (now : Time) (newId : Uuid)
    (body : Option CreateAccountRequest) : Except HttpError Db :=
  match body with
  | none => .error ⟨400, "invalid json body", none⟩
  | some req => do
    let req ← req.validate
    (insertAccount db cipher nonce now newId req).mapError fun e => ⟨500, e, none⟩

/-! ### Updating -/

def errAccountNotFound : String := "aws account not found"

/-- `GetAccount`. -/
def getAccount (db : Db) (id : String) : Except String AccountRow := do
  let id ← castUuid id
  match db.awsAccount.find? (·.id == id) with
  | none => .error errAccountNotFound
  | some a => .ok a

/-- The assignments of `UPDATE aws_account`, for the account `current` that was read before. -/
def assignAccount (now : Time) (encryptedSecret : String) (req : UpdateAccountRequest)
    (current row : AccountRow) : AccountRow :=
  { row with
    displayName := req.displayName.getD current.displayName
    roleArn := nullIfEmpty (req.roleARN.getD (current.roleArn.getD ""))
    externalId := nullIfEmpty (req.externalID.getD (current.externalId.getD ""))
    accessKeyId := nullIfEmpty (req.accessKeyID.getD (current.accessKeyId.getD ""))
    regionAllowlist := req.regionAllowlist.or current.regionAllowlist
    enabled := req.enabled.getD current.enabled
    secretAccessKeyEncrypted := (nullIfEmpty encryptedSecret).or row.secretAccessKeyEncrypted
    updatedAt := now }

/-- `UpdateAccount` of the repository. -/
def updateAccountRow (db : Db) (cipher : Cipher) (nonce : ℕ) (now : Time) (id : String)
    (req : UpdateAccountRequest) : Except String Db := do
  let current ← getAccount db id
  let encryptedSecret ← cipher.encrypt nonce (req.secretAccessKey.getD "")
  .ok { db with
        awsAccount := updateWhere (·.id == current.id)
          (assignAccount now encryptedSecret req current) db.awsAccount }

/-- `UpdateAccount`. -/
def updateAccount (db : Db) (cipher : Cipher) (nonce : ℕ) (now : Time) (id : String)
    (body : Option UpdateAccountRequest) : Except HttpError Db :=
  match body with
  | none => .error ⟨400, "invalid json body", none⟩
  | some req =>
    (updateAccountRow db cipher nonce now id req).mapError fun e =>
      if e = errAccountNotFound then ⟨404, e, none⟩ else ⟨500, e, none⟩

/-! ### Syncing -/

/-- The account of a row, with its secret. -/
def syncAccountOf (cipher : Cipher) (a : AccountRow) : Except String SyncAccount := do
  let secretAccessKey ← (cipher.decrypt (a.secretAccessKeyEncrypted.getD "")).mapError fun e =>
    "decrypt account secret for " ++ a.accountId ++ ": " ++ e
  .ok { id := a.id, accountID := a.accountId, displayName := a.displayName, authMode := a.authMode
        roleARN := a.roleArn.getD "", externalID := a.externalId.getD ""
        accessKeyID := a.accessKeyId.getD "", secretAccessKey
        regionAllowlist := a.regionAllowlist, enabled := a.enabled }

/-- `ListSyncAccounts`. -/
def listSyncAccounts (db : Db) (cipher : Cipher) : Except String (List SyncAccount) :=
  ((db.awsAccount.filter (·.enabled)).insertionSort fun a b => a.createdAt ≤ b.createdAt).mapM
    (syncAccountOf cipher)

/-- What a session signs its requests with. -/
inductive Credentials where
  /-- the chain of the SDK: the environment, the shared files, the role of the machine -/
  | chain
  | keys (accessKeyID secretAccessKey : String)
  | role (base : Credentials) (roleARN : String) (externalID : Option String)
deriving DecidableEq

/-- `session.Session`. -/
structure Session where
  region : String
  credentials : Credentials
deriving DecidableEq

/-- `NewSessionForAccount`.  `baseError` and `roleError` are the errors of the two calls of
`session.NewSession`. -/
def newSessionForAccount (baseError roleError : Option String) (account : SyncAccount)
    (region : String) : Except String Session :=
  let hasKeys : Bool := account.accessKeyID != "" && account.secretAccessKey != ""
  let base :=
    if hasKeys then Credentials.keys account.accessKeyID account.secretAccessKey else .chain
  match baseError with
  | some e => .error e
  | none =>
    if account.authMode = "static" then
      if hasKeys then .ok ⟨region, base⟩
      else .error "static mode requires access_key_id and secret_access_key"
    else if account.authMode = "" ∨ account.authMode = "assume_role" then
      if trimSpace account.roleARN = "" then
        if hasKeys then .ok ⟨region, base⟩ else .error "assume_role mode requires role_arn"
      else
        match roleError with
        | some e => .error e
        | none => .ok ⟨region, .role base account.roleARN (nullIfEmpty account.externalID)⟩
    else .error ("unsupported auth_mode: " ++ account.authMode)

/-! ### Requests -/

inductive AccountOp where
  | create (nonce : ℕ) (now : Time) (newId : Uuid) (body : Option CreateAccountRequest)
  | update (nonce : ℕ) (now : Time) (id : String) (body : Option UpdateAccountRequest)

def AccountOp.perform (cipher : Cipher) (db : Db) : AccountOp → Except HttpError Db
  | create nonce now newId body => createAccount db cipher nonce now newId body
  | update nonce now id body => updateAccount db cipher nonce now id body

/-- A request that is refused changes nothing. -/
def accountStep (cipher : Cipher) (db : Db) (op : AccountOp) : Db :=
  match op.perform cipher db with
  | .ok db' => db'
  | .error _ => db

/-- The accounts have the credentials of their mode, and an account that assumes a role is not
synced with its keys. -/
structure CredentialsMatch (cipher : Cipher) (db : Db) : Prop where
  assumeRole : ∀ a ∈ db.awsAccount, a.authMode = "assume_role" → a.roleArn.getD "" ≠ ""
  static : ∀ a ∈ db.awsAccount, a.authMode = "static" →
    a.accessKeyId.getD "" ≠ "" ∧ a.secretAccessKeyEncrypted.getD "" ≠ ""
  sync : ∀ accounts, listSyncAccounts db cipher = .ok accounts → ∀ account ∈ accounts,
    account.authMode = "assume_role" → ∀ baseError roleError region accessKeyID secretAccessKey,
      newSessionForAccount baseError roleError account region ≠
        .ok ⟨region, .keys accessKeyID secretAccessKey⟩

/-- The role of an account that is created is not made of white space only; an update gives an
account of the mode `assume_role` no blank role, and one of the mode `static` no empty key. -/
def AccountOp.KeepsCredentials (db : Db) : AccountOp → Prop
  | create _ _ _ body => ∀ req ∈ body, (req.authMode = "" ∨ req.authMode = "assume_role") →
    trimSpace req.roleARN = "" → req.roleARN = ""
  | update _ _ id body => ∀ req ∈ body, ∀ a ∈ db.awsAccount, Uuid.parse id = some a.id →
    (a.authMode = "assume_role" → ∀ roleARN ∈ req.roleARN, trimSpace roleARN ≠ "") ∧
      (a.authMode = "static" → ∀ accessKeyID ∈ req.accessKeyID, accessKeyID ≠ "")

/-- A row whose credentials go with its mode. -/
structure AccountRow.Sound (a : AccountRow) : Prop where
  assumeRole : a.authMode = "assume_role" → trimSpace (a.roleArn.getD "") ≠ ""
  static : a.authMode = "static" →
    a.accessKeyId.getD "" ≠ "" ∧ a.secretAccessKeyEncrypted.getD "" ≠ ""

lemma getD_nullIfEmpty (text : String) : (nullIfEmpty text).getD "" = text := by
  rw [nullIfEmpty]
  split
  · next h => exact h.symm
  · rfl

lemma Cipher.encrypt_ne_empty {cipher : Cipher} {nonce : ℕ} {plaintext text : String}
    (h : cipher.encrypt nonce plaintext = .ok text) (hplain : plaintext ≠ "") : text ≠ "" := by
  rw [Cipher.encrypt, if_neg hplain] at h
  exact cipher.gcmSeal_ne_empty _ _ _ h

/-! ### One request -/

section

variable {cipher : Cipher} {db db' : Db}

/-- What the checks of a new account let through. -/
lemma validate_eq_ok {req req' : CreateAccountRequest} (h : req.validate = .ok req') :
    req' = { req with
             authMode := if req.authMode = "" then "assume_role" else req.authMode } ∧
      (req'.authMode = "assume_role" → req'.roleARN ≠ "") ∧
      (req'.authMode = "static" → req'.accessKeyID ≠ "" ∧ req'.secretAccessKey ≠ "") := by
  rw [CreateAccountRequest.validate, Except.ite_error_eq_ok] at h
  obtain ⟨-, h⟩ := h
  rw [Except.ite_error_eq_ok, Except.ite_error_eq_ok, Except.ite_error_eq_ok] at h
  obtain ⟨-, hrole, hstatic, h⟩ := h
  obtain rfl := Except.ok.inj h
  refine ⟨rfl, fun hmode hempty => hrole ⟨hmode, hempty⟩, fun hmode => ⟨?_, ?_⟩⟩
  · exact fun hempty => hstatic ⟨hmode, Or.inl hempty⟩
  · exact fun hempty => hstatic ⟨hmode, Or.inr hempty⟩

/-- What holds along a run. -/
structure AccountsSound (db : Db) : Prop where
  ids : (db.awsAccount.map (·.id)).Nodup
  sound : ∀ a ∈ db.awsAccount, a.Sound

/-- An account that is created goes with its mode. -/
lemma AccountsSound.createAccount {nonce : ℕ} {now : Time} {newId : Uuid}
    {body : Option CreateAccountRequest}
    (hs : AccountsSound db) (h : createAccount db cipher nonce now newId body = .ok db')
    (hkeeps : (AccountOp.create nonce now newId body).KeepsCredentials db) :
    AccountsSound db' := by
  cases body with
  | none => cases h
  | some req =>
    rw [Aws.createAccount, Except.bind_eq_ok] at h
    obtain ⟨req', hvalidate, h⟩ := h
    rw [Except.mapError_eq_ok, insertAccount, Except.bind_eq_ok] at h
    obtain ⟨secret, hsecret, h⟩ := h
    rw [Except.ite_error_eq_ok, List.any_eq_true] at h
    obtain ⟨hfresh, h⟩ := h
    obtain rfl := Except.ok.inj h
    obtain ⟨hreq', hrole, hstatic⟩ := validate_eq_ok hvalidate
    -- the rows are those of before and the new one, which the validation vouches for
    refine ⟨nodup_map_append hs.ids ?_, fun a ha => ?_⟩
    · intro a ha hid
      exact hfresh ⟨a, ha, by simp [show a.id = newId from hid]⟩
    rcases List.mem_append.mp ha with ha | ha
    · exact hs.sound a ha
    · rw [List.mem_singleton.mp ha]
      refine ⟨?_, ?_⟩
      · intro hmode
        show trimSpace ((nullIfEmpty req'.roleARN).getD "") ≠ ""
        rw [getD_nullIfEmpty]
        intro hblank
        refine hrole hmode ?_
        -- the default of the mode is the one that a role is asked for
        rw [hreq'] at hblank hmode ⊢
        refine hkeeps req rfl ?_ hblank
        by_cases hempty : req.authMode = ""
        · exact Or.inl hempty
        · exact Or.inr ((if_neg hempty).symm.trans hmode)
      · intro hmode
        obtain ⟨hkey, hplain⟩ := hstatic hmode
        refine ⟨?_, ?_⟩
        · show (nullIfEmpty req'.accessKeyID).getD "" ≠ ""
          rw [getD_nullIfEmpty]
          exact hkey
        · show (nullIfEmpty secret).getD "" ≠ ""
          rw [getD_nullIfEmpty]
          exact Cipher.encrypt_ne_empty hsecret hplain

lemma getAccount_eq_ok {id : String} {a : AccountRow} (h : getAccount db id = .ok a) :
    Uuid.parse id = some a.id ∧ a ∈ db.awsAccount := by
  rw [getAccount, Except.bind_eq_ok] at h
  obtain ⟨u, hu, h⟩ := h
  split at h
  · cases h
  · next a' hfind =>
    obtain rfl := Except.ok.inj h
    have hid : a'.id = u := by simpa using List.find?_some hfind
    rw [hid]
    exact ⟨castUuid_eq_ok.mp hu, List.mem_of_find?_eq_some hfind⟩

/-- An update writes to the account that it has read. -/
lemma updateAccount_eq_ok {nonce : ℕ} {now : Time} {id : String}
    {body : Option UpdateAccountRequest}
    (h : updateAccount db cipher nonce now id body = .ok db') :
    ∃ req current secret, body = some req ∧ getAccount db id = .ok current ∧
      db' = { db with
              awsAccount := updateWhere (·.id == current.id)
                (assignAccount now secret req current) db.awsAccount } := by
  cases body with
  | none => cases h
  | some req =>
    rw [updateAccount, Except.mapError_eq_ok, updateAccountRow, Except.bind_eq_ok] at h
    obtain ⟨current, hcurrent, h⟩ := h
    rw [Except.bind_eq_ok] at h
    obtain ⟨secret, -, h⟩ := h
    exact ⟨req, current, secret, rfl, hcurrent, (Except.ok.inj h).symm⟩

/-- An account that is updated goes with its mode still: a stored secret is never removed. -/
lemma AccountRow.Sound.assignAccount {a : AccountRow} (h : a.Sound) {now : Time} {secret : String}
    {req : UpdateAccountRequest}
    (hrole : a.authMode = "assume_role" → ∀ roleARN ∈ req.roleARN, trimSpace roleARN ≠ "")
    (hkey : a.authMode = "static" → ∀ accessKeyID ∈ req.accessKeyID, accessKeyID ≠ "") :
    (assignAccount now secret req a a).Sound := by
  refine ⟨?_, ?_⟩
  · intro hmode
    show trimSpace ((nullIfEmpty (req.roleARN.getD (a.roleArn.getD ""))).getD "") ≠ ""
    rw [getD_nullIfEmpty]
    cases hreq : req.roleARN with
    | none => exact h.assumeRole hmode
    | some roleARN => exact hrole hmode roleARN hreq
  · intro hmode
    obtain ⟨hold, hsecret⟩ := h.static hmode
    refine ⟨?_, ?_⟩
    · show (nullIfEmpty (req.accessKeyID.getD (a.accessKeyId.getD ""))).getD "" ≠ ""
      rw [getD_nullIfEmpty]
      cases hreq : req.accessKeyID with
      | none => exact hold
      | some accessKeyID => exact hkey hmode accessKeyID hreq
    · show ((nullIfEmpty secret).or a.secretAccessKeyEncrypted).getD "" ≠ ""
      rw [nullIfEmpty]
      split
      · exact hsecret
      · next hne => exact hne

lemma AccountsSound.updateAccount {nonce : ℕ} {now : Time} {id : String}
    {body : Option UpdateAccountRequest} (hs : AccountsSound db)
    (h : updateAccount db cipher nonce now id body = .ok db')
    (hkeeps : (AccountOp.update nonce now id body).KeepsCredentials db) :
    AccountsSound db' := by
  obtain ⟨req, current, secret, rfl, hcurrent, rfl⟩ := updateAccount_eq_ok h
  obtain ⟨hid, hmem⟩ := getAccount_eq_ok hcurrent
  obtain ⟨hrole, hkey⟩ := hkeeps req rfl current hmem hid
  refine ⟨nodup_map_updateWhere (fun _ _ => rfl) hs.ids, ?_⟩
  intro a ha
  obtain ⟨a₀, ha₀, ⟨hhit, rfl⟩ | ⟨-, rfl⟩⟩ := mem_updateWhere.mp ha
  · obtain rfl := List.inj_on_of_nodup_map hs.ids ha₀ hmem (eq_of_beq hhit)
    exact (hs.sound a₀ ha₀).assignAccount hrole hkey
  · exact hs.sound a ha₀

lemma AccountsSound.step (hs : AccountsSound db) {op : AccountOp}
    (hkeeps : op.KeepsCredentials db) : AccountsSound (accountStep cipher db op) := by
  rw [accountStep]
  split
  · next db' hok =>
    cases op with
    | create nonce now newId body => exact hs.createAccount hok hkeeps
    | update nonce now id body => exact hs.updateAccount hok hkeeps
  · exact hs

/-! ### Syncs -/

lemma mem_listSyncAccounts {accounts : List SyncAccount} {account : SyncAccount}
    (h : listSyncAccounts db cipher = .ok accounts) (hmem : account ∈ accounts) :
    ∃ a ∈ db.awsAccount, syncAccountOf cipher a = .ok account := by
  have hrows := Except.map_eq_of_mapM h
  have hok : (.ok account : Except String SyncAccount) ∈ accounts.map .ok :=
    List.mem_map_of_mem hmem
  rw [← hrows] at hok
  obtain ⟨a, ha, haccount⟩ := List.mem_map.mp hok
  rw [List.mem_insertionSort] at ha
  exact ⟨a, List.mem_of_mem_filter ha, haccount⟩

lemma syncAccountOf_eq_ok {a : AccountRow} {account : SyncAccount}
    (h : syncAccountOf cipher a = .ok account) :
    account.authMode = a.authMode ∧ account.roleARN = a.roleArn.getD "" := by
  rw [syncAccountOf, Except.bind_eq_ok] at h
  obtain ⟨secret, -, h⟩ := h
  rw [← Except.ok.inj h]
  exact ⟨rfl, rfl⟩

/-- A session with a role does not sign with the keys of the account. -/
lemma newSessionForAccount_ne_keys {account : SyncAccount}
    (hmode : account.authMode = "assume_role")
    (hrole : trimSpace account.roleARN ≠ "") (baseError roleError : Option String)
    (region accessKeyID secretAccessKey : String) :
    newSessionForAccount baseError roleError account region ≠
      .ok ⟨region, .keys accessKeyID secretAccessKey⟩ := by
  cases baseError with
  | some e => simp [newSessionForAccount]
  | none =>
    cases roleError with
    | some e => simp [newSessionForAccount, hmode, hrole]
    | none => simp [newSessionForAccount, hmode, hrole]

lemma AccountsSound.credentialsMatch (hs : AccountsSound db) : CredentialsMatch cipher db where
  assumeRole a ha hmode hempty := by
    refine (hs.sound a ha).assumeRole hmode ?_
    rw [hempty]
    decide
  static a ha hmode := (hs.sound a ha).static hmode
  sync accounts hlist account hmem hmode := by
    obtain ⟨a, ha, haccount⟩ := mem_listSyncAccounts hlist hmem
    obtain ⟨hamode, harole⟩ := syncAccountOf_eq_ok haccount
    refine newSessionForAccount_ne_keys hmode ?_
    rw [harole]
    exact (hs.sound a ha).assumeRole (hamode.symm.trans hmode)

end

/-- **Credentials go with the mode of their account**, in every state that is reached from an empty
table by requests to create and to update accounts of which none gives a blank role to an account of
the mode `assume_role` or an empty key to one of the mode `static`. -/
theorem credentials_match_of_keeps {cipher : Cipher} {db : Db} (hempty : db.awsAccount = [])
    {ops : List AccountOp}
    (hops : Along (accountStep cipher) (fun db op => op.KeepsCredentials db) db ops) :
    CredentialsMatch cipher (run (accountStep cipher) db ops) := by
  have hinit : AccountsSound db := by
    refine ⟨?_, ?_⟩
    · rw [hempty]
      exact List.nodup_nil
    · intro a ha
      rw [hempty] at ha
      cases ha
  exact (invariant_along (fun _ _ hs hkeeps => hs.step hkeeps) hinit hops).credentialsMatch

/-- A cipher that puts its nonce before the text. -/
def plainCipher : Cipher where
  gcmSeal nonce plaintext := .ok (toString nonce ++ ":" ++ plaintext)
  gcmOpen ciphertext := .ok (String.ofList ((ciphertext.toList.dropWhile (· != ':')).drop 1))
  gcmSeal_ne_empty := by
    rintro nonce plaintext text h rfl
    have hlength := congrArg String.length (Except.ok.inj h)
    simp at hlength

/-- An account that assumes a role with keys of its own. -/
def prodAccount : AccountOp :=
  .create 7 1 (Uuid.replicate 1) (some
    { accountID := "111", displayName := "prod", roleARN := "arn:aws:iam::111:role/sync"
      accessKeyID := "AKIA", secretAccessKey := "s3cr3t", regionAllowlist := some ["eu-west-1"]
      enabled := true })

/-- An update of its role. -/
def setRole (roleARN : String) : AccountOp :=
  .update 8 2 (Uuid.replicate 1).toText (some { roleARN := some roleARN })

/-- The role is cleared, and the account is synced with its keys. -/
theorem cleared_role_syncs_with_keys :
    (∃ account, listSyncAccounts (run (accountStep plainCipher) {} [prodAccount, setRole ""])
          plainCipher = .ok [account] ∧ account.authMode = "assume_role" ∧
        newSessionForAccount none none account "eu-west-1" =
          .ok ⟨"eu-west-1", .keys "AKIA" "s3cr3t"⟩) ∧
      ¬ CredentialsMatch plainCipher
        (run (accountStep plainCipher) {} [prodAccount, setRole ""]) := by
  refine ⟨⟨_, by rfl, by rfl, by decide⟩, ?_⟩
  intro hmatch
  exact hmatch.assumeRole _ (List.mem_singleton.mpr rfl) rfl rfl

/-- Another role is fine. -/
theorem credentials_match_of_keeps_other_role :
    CredentialsMatch plainCipher
      (run (accountStep plainCipher) {} [prodAccount, setRole "arn:aws:iam::111:role/read"]) := by
  refine credentials_match_of_keeps rfl ⟨?_, ?_, trivial⟩
  · rintro req ⟨⟩ -
    decide
  · rintro req ⟨⟩ a ha -
    rw [List.mem_singleton.mp ha]
    refine ⟨?_, ?_⟩
    · rintro - roleARN ⟨⟩
      decide
    · intro hmode
      exact absurd (show "assume_role" = "static" from hmode) (by decide)

end OpsPlatform.Aws
