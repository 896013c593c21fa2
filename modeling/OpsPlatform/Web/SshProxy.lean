/-
The form of an SSH proxy (`web/src/lib/connectivity.ts`) against `Update`
(`internal/sshproxy/repository.go`): which proxies can be saved as they were loaded.

The form trims all five texts and the server three of them.  A proxy that was promoted from an
asset has the name of a key instead of a credential; neither the answer of the server nor the form
has that column.
-/
import OpsPlatform.Cmdb.ProxyRows
import OpsPlatform.Lib.JsText

namespace OpsPlatform.Web

open Lib Lib.Run Lib.Table Lib.Text Lib.JsText Cmdb SshProxy

/-- `SSHProxy`, as `Columns` selects it. -/
structure SSHProxy where
  id : String
  name : String
  description : String := ""
  networkZone : String := ""
  host : String
  port : Int
  username : String
  authType : String
  hasPassword : Bool
  hasPrivateKey : Bool
  hasPassphrase : Bool
  createdAt : Time
  updatedAt : Time

/-- `scanProxy`. -/
def scanProxy (p : SshProxyRow) : SSHProxy :=
  { id := p.id.toText, name := p.name, description := p.description, networkZone := p.networkZone
    host := p.host, port := p.port, username := p.username, authType := p.authType
    hasPassword := p.passwordEncrypted != "", hasPrivateKey := p.privateKeyEncrypted != ""
    hasPassphrase := p.passphraseEncrypted != "", createdAt := p.createdAt
    updatedAt := p.updatedAt }

/-- `SSHProxyFormMode`. -/
inductive SSHProxyFormMode where
  | create
  | edit
deriving DecidableEq

/-- `SSHProxyFormState`; the initial values are those of `emptySSHProxyForm`. -/
structure SSHProxyFormState where
  authType : String := "password"
  description : String := ""
  hasPassword : Bool := false
  hasPassphrase : Bool := false
  hasPrivateKey : Bool := false
  host : String := ""
  name : String := ""
  networkZone : String := ""
  passphrase : String := ""
  password : String := ""
  port : String := "22"
  privateKey : String := ""
  username : String := ""

/-- `sshProxyToForm`. -/
def sshProxyToForm : Option SSHProxy → SSHProxyFormState
  | none => {}
  | some proxy =>
    { authType := if proxy.authType = "" then "password" else proxy.authType
      description := proxy.description, hasPassword := proxy.hasPassword
      hasPassphrase := proxy.hasPassphrase, hasPrivateKey := proxy.hasPrivateKey
      host := proxy.host, name := proxy.name, networkZone := proxy.networkZone
      passphrase := "", password := ""
      port := toString (if proxy.port = 0 then 22 else proxy.port)
      privateKey := "", username := proxy.username }

/-- `UpsertSSHProxyPayload`. -/
structure UpsertSSHProxyPayload where
  authType : String
  description : String
  host : String
  name : String
  networkZone : String
  port : Number
  username : String
  password : Option String
  privateKey : Option String
  passphrase : Option String

/-- `sshProxyFormToPayload`. -/
def sshProxyFormToPayload (form : SSHProxyFormState) : UpsertSSHProxyPayload :=
  let port := Number.ofString form.port
  { authType := if form.authType = "" then "password" else form.authType
    description := trim form.description, host := trim form.host, name := trim form.name
    networkZone := trim form.networkZone
    port := if port.truthy then port else .finite 22
    username := trim form.username
    password :=
      if form.authType = "password" ∧ trim form.password ≠ "" then some form.password else none
    privateKey :=
      if form.authType = "key" ∧ trim form.privateKey ≠ "" then some form.privateKey else none
    passphrase :=
      if form.authType = "key" ∧ trim form.passphrase ≠ "" then some form.passphrase else none }

/-- `validateSSHProxyForm`. -/
def validateSSHProxyForm (form : SSHProxyFormState) (mode : SSHProxyFormMode) : String :=
  if trim form.name = "" then "Name is required."
  else if trim form.host = "" then "Host is required."
  else if trim form.username = "" then "Username is required."
  else if ¬ (Number.ofString form.port).isPositive then "Port must be a positive number."
  else if form.authType = "password" ∧ ¬ (mode = .edit ∧ form.hasPassword = true) ∧
      trim form.password = "" then
    "Password is required for password auth."
  else if form.authType = "key" ∧ ¬ (mode = .edit ∧ form.hasPrivateKey = true) ∧
      trim form.privateKey = "" then
    "Private key is required for key auth."
  else ""

/-- The `int` that is decoded from a number in a request, where `JSON.stringify` has written `null`
for one that is not finite. -/
def decodeInt : Number → Option Int
  | .finite q => if q.den = 1 then Strconv.inRange q.num else none
  | _ => some 0

/-- The request that the server decodes. -/
def decodePayload (payload : UpsertSSHProxyPayload) : Except String UpsertSSHProxyRequest :=
  match decodeInt payload.port with
  | none => .error "invalid json body"
  | some port =>
    .ok { name := payload.name, description := payload.description
          networkZone := payload.networkZone, host := payload.host, port
          username := payload.username, authType := payload.authType
          password := payload.password, privateKey := payload.privateKey
          passphrase := payload.passphrase }

/-- `updateSSHProxy`, from the form on. -/
def saveForm (db : Db) (encrypt : String → Except String String) (now : Time) (id : String)
    (form : SSHProxyFormState) : Except String (Db × SshProxyRow) := do
  let req ← decodePayload (sshProxyFormToPayload form)
  update db encrypt now id req

/-! ### Saving what was loaded -/

/-- The form of a row. -/
def loaded (p : SshProxyRow) : SSHProxyFormState := sshProxyToForm (some (scanProxy p))

/-- The form of the row is valid, and saving it changes the time of the row only. -/
structure SavesUnchanged (db : Db) (p : SshProxyRow) : Prop where
  valid : validateSSHProxyForm (loaded p) .edit = ""
  saved : ∀ encrypt now, saveForm db encrypt now p.id.toText (loaded p) =
    .ok ({ db with
           cmdbSshProxy := updateWhere (·.id == p.id) (fun q => { q with updatedAt := now })
             db.cmdbSshProxy }, { p with updatedAt := now })

/-- Nothing is trimmed from the texts of the row, neither by the form nor by the server. -/
structure Unpadded (p : SshProxyRow) : Prop where
  name : trim p.name = p.name ∧ trimSpace p.name = p.name
  host : trim p.host = p.host ∧ trimSpace p.host = p.host
  username : trim p.username = p.username ∧ trimSpace p.username = p.username
  description : trim p.description = p.description
  networkZone : trim p.networkZone = p.networkZone

/-- The row has the credential of its auth type. -/
def HasCredential (p : SshProxyRow) : Prop :=
  (p.authType = "password" ∧ p.passwordEncrypted ≠ "") ∨
    (p.authType = "key" ∧ p.privateKeyEncrypted ≠ "")

section

variable {db : Db} {p : SshProxyRow}

/-- The port of the form is the port of the row. -/
lemma ofString_port_loaded (hport : 0 < p.port ∧ p.port ≤ 2147483647) :
    Number.ofString (loaded p).port = .finite p.port := by
  obtain ⟨n, hn⟩ := Int.eq_ofNat_of_zero_le hport.1.le
  have hform : (loaded p).port = toString (n : ℤ) := by
    rw [loaded, sshProxyToForm, scanProxy]
    dsimp only
    rw [if_neg (by omega), hn]
  rw [hform, Number.ofString_toString (by omega), hn, Int.cast_natCast]

lemma isPositive_port_loaded (hport : 0 < p.port ∧ p.port ≤ 2147483647) :
    (Number.ofString (loaded p).port).isPositive = true := by
  rw [ofString_port_loaded hport, Number.isPositive, decide_eq_true_eq]
  exact_mod_cast hport.1

lemma validateSSHProxyForm_loaded (hport : 0 < p.port ∧ p.port ≤ 2147483647) :
    validateSSHProxyForm (loaded p) .edit = "" ↔
      trim p.name ≠ "" ∧ trim p.host ≠ "" ∧ trim p.username ≠ "" ∧
      ((loaded p).authType = "password" → p.passwordEncrypted ≠ "") ∧
      ((loaded p).authType = "key" → p.privateKeyEncrypted ≠ "") := by
  have hpositive := isPositive_port_loaded hport
  have hpassword : (loaded p).hasPassword = true ↔ p.passwordEncrypted ≠ "" := bne_iff_ne
  have hprivateKey : (loaded p).hasPrivateKey = true ↔ p.privateKeyEncrypted ≠ "" := bne_iff_ne
  have hempty : trim (loaded p).password = "" ∧ trim (loaded p).privateKey = "" := ⟨rfl, rfl⟩
  rw [validateSSHProxyForm, ite_text_eq_empty (by decide), ite_text_eq_empty (by decide),
    ite_text_eq_empty (by decide), ite_text_eq_empty (by decide), ite_text_eq_empty (by decide),
    ite_text_eq_empty (by decide), hpassword, hprivateKey, hempty.1, hempty.2]
  simp only [hpositive, not_true, not_false_iff, true_and, and_true, not_and, not_not]
  rfl

/-- The request that saves a form as it was loaded. -/
def loadedRequest (p : SshProxyRow) : UpsertSSHProxyRequest :=
  { name := trim p.name, description := trim p.description, networkZone := trim p.networkZone
    host := trim p.host, port := p.port, username := trim p.username
    authType := if p.authType = "" then "password" else p.authType }

lemma decodePayload_loaded (hport : 0 < p.port ∧ p.port ≤ 2147483647) :
    decodePayload (sshProxyFormToPayload (loaded p)) = .ok (loadedRequest p) := by
  have hnumber := ofString_port_loaded hport
  have htruthy : (Number.finite (p.port : ℚ)).truthy = true := by
    rw [Number.truthy, bne_iff_ne]
    exact_mod_cast hport.1.ne'
  have hinRange : decodeInt (.finite (p.port : ℚ)) = some p.port := by
    rw [decodeInt, if_pos (Rat.den_intCast _), Rat.num_intCast, Strconv.inRange, if_pos (by omega)]
  have hauthType : (loaded p).authType ≠ "" := by
    rw [loaded, sshProxyToForm, scanProxy]
    dsimp only
    split
    · decide
    · next h => exact h
  -- the form of a stored proxy has no secret to send
  have hsecret : ∀ kind text : String, trim text = "" →
      ¬ ((loaded p).authType = kind ∧ trim text ≠ "") := fun _ _ hempty h => h.2 hempty
  have hpayload : sshProxyFormToPayload (loaded p) =
      { authType := (loaded p).authType, description := trim p.description, host := trim p.host
        name := trim p.name, networkZone := trim p.networkZone, port := .finite p.port
        username := trim p.username, password := none, privateKey := none
        passphrase := none } := by
    unfold sshProxyFormToPayload
    simp only [hnumber, htruthy, hauthType, if_true, if_false]
    rw [if_neg (hsecret "password" (loaded p).password rfl),
      if_neg (hsecret "key" (loaded p).privateKey rfl),
      if_neg (hsecret "key" (loaded p).passphrase rfl)]
    rfl
  rw [hpayload, decodePayload]
  simp only [hinRange]
  rfl

/-- The auth type of an update is the one that was loaded, when the server knows it. -/
lemma authType_loadedRequest {authType : String}
    (h : authType = "password" ∨ authType = "key") :
    (if toLower (trimSpace authType) = "" then "password" else toLower (trimSpace authType)) =
      authType := by
  rcases h with rfl | rfl <;> decide

/-- A row of the table. -/
lemma saves_unchanged_iff_of_rows (h : ProxyRows db) (hp : p ∈ db.cmdbSshProxy)
    (hlive : p.live = true) : SavesUnchanged db p ↔ Unpadded p ∧ HasCredential p := by
  have hfilled := h.filled p hp
  have hsave : ∀ encrypt now, saveForm db encrypt now p.id.toText (loaded p) =
      update db encrypt now p.id.toText (loadedRequest p) := by
    intro encrypt now
    rw [saveForm, decodePayload_loaded hfilled.port, Except.ok_bind]
  constructor
  · rintro ⟨hvalid, hsaved⟩
    obtain ⟨-, -, -, hpassword, hprivateKey⟩ := (validateSSHProxyForm_loaded hfilled.port).mp hvalid
    have hupdate := (hsave .ok 0).symm.trans (hsaved .ok 0)
    rw [update_eq_ok_iff rfl rfl rfl] at hupdate
    obtain ⟨req, pid, port, hreq, hpid, -, -, hwrite⟩ := hupdate
    obtain rfl : p.id = pid := by
      rw [castUuid_eq_ok, Uuid.parse_toText] at hpid
      exact Option.some.inj hpid
    obtain ⟨-, -, -, authType, -, hknown, rfl⟩ := validateProxyRequest_eq_ok.mp hreq
    -- the columns that are written are those that were there
    rw [updateProxy_of_live h.keys hp hlive, Except.ite_error_eq_ok] at hwrite
    have hrow := (Prod.mk.inj (Except.ok.inj hwrite.2)).2
    have hcolumn : ∀ {α : Type} (f : SshProxyRow → α), f _ = f _ := fun f => congrArg f hrow
    have hauthType : authType = p.authType := hcolumn (·.authType)
    refine ⟨⟨?_, ?_, ?_, hcolumn (·.description), hcolumn (·.networkZone)⟩, ?_⟩
    · exact trimSpace_trim_eq_self_iff.mp (hcolumn (·.name))
    · exact trimSpace_trim_eq_self_iff.mp (hcolumn (·.host))
    · exact trimSpace_trim_eq_self_iff.mp (hcolumn (·.username))
    · have hloaded : (loaded p).authType = p.authType := by
        refine if_neg ?_
        show p.authType ≠ ""
        rw [← hauthType]
        rcases hknown with rfl | rfl <;> decide
      rw [hloaded] at hpassword hprivateKey
      rw [hauthType] at hknown
      exact hknown.imp (fun hkind => ⟨hkind, hpassword hkind⟩)
        fun hkind => ⟨hkind, hprivateKey hkind⟩
  · rintro ⟨hpad, hcredential⟩
    have hknown : p.authType = "password" ∨ p.authType = "key" :=
      hcredential.imp And.left And.left
    have hne : p.authType ≠ "" := by
      rcases hknown with hkind | hkind <;> rw [hkind] <;> decide
    have hloaded : (loaded p).authType = p.authType := if_neg hne
    refine ⟨?_, ?_⟩
    · rw [validateSSHProxyForm_loaded hfilled.port, hpad.name.1, hpad.host.1, hpad.username.1,
        hloaded]
      refine ⟨hfilled.name, hfilled.host, hfilled.username, ?_, ?_⟩
      · rintro hkind
        rcases hcredential with ⟨-, hsecret⟩ | ⟨hkey, -⟩
        · exact hsecret
        · rw [hkey] at hkind
          exact absurd hkind (by decide)
      · rintro hkind
        rcases hcredential with ⟨hpassword, -⟩ | ⟨-, hsecret⟩
        · rw [hpassword] at hkind
          exact absurd hkind (by decide)
        · exact hsecret
    · intro encrypt now
      have hrequest : loadedRequest p =
          { name := p.name, description := p.description, networkZone := p.networkZone
            host := p.host, port := p.port, username := p.username, authType := p.authType } := by
        rw [loadedRequest, hpad.name.1, hpad.host.1, hpad.username.1, hpad.description,
          hpad.networkZone, if_neg hne]
      rw [hsave, update_eq_ok_iff rfl rfl rfl]
      refine ⟨loadedRequest p, p.id, p.port, ?_, castUuid_eq_ok.mpr (Uuid.parse_toText p.id), ?_,
        int4_eq_ok.mpr ⟨hfilled.port.2, by rw [hrequest]⟩, ?_⟩
      · rw [hrequest]
        refine validateProxyRequest_eq_ok.mpr ⟨?_, ?_, ?_, p.authType,
          (authType_loadedRequest hknown).symm, hknown, ?_⟩
        · rw [hpad.name.2]
          exact hfilled.name
        · rw [hpad.host.2]
          exact hfilled.host
        · rw [hpad.username.2]
          exact hfilled.username
        · simp only [hpad.name.2, hpad.host.2, hpad.username.2,
            if_neg (not_le.mpr hfilled.port.1)]
      · refine if_pos ?_
        rw [List.any_eq_true]
        exact ⟨p, hp, by simp [hlive]⟩
      · have hsame : ∀ q, q ∈ db.cmdbSshProxy → (q.id == p.id) = true → q = p := fun q hq hid =>
          List.inj_on_of_nodup_map h.keys hq hp (eq_of_beq hid)
        have hassign : assign now (loadedRequest p) p.port none none none p =
            { p with updatedAt := now } := by
          rw [hrequest]
          rfl
        have hfree : nameTaken db p.id p.name = false :=
          nameTaken_eq_false.mpr fun q hq hqlive hname => h.names q hq p hp hqlive hlive hname
        rw [updateProxy_of_live h.keys hp hlive, hassign, if_neg (by simp [hfree])]
        congr 3
        refine List.map_congr_left fun q hq => ?_
        by_cases hid : (q.id == p.id) = true
        · obtain rfl := hsame q hq hid
          rw [hassign, if_pos (by simp [hlive]), if_pos hid]
        · rw [if_neg (by simp [hid]), if_neg hid]

/-- **Saving a proxy as it was loaded.**  After any calls, the form of a live proxy is valid and
saving it changes nothing but the time of the row exactly when none of its texts is trimmed and the
row has a credential of its auth type. -/
theorem saves_unchanged_iff (hempty : db.cmdbSshProxy = []) (calls : List ProxyCall)
    (hp : p ∈ (run ProxyCall.apply db calls).cmdbSshProxy) (hlive : p.live = true) :
    SavesUnchanged (run ProxyCall.apply db calls) p ↔ Unpadded p ∧ HasCredential p :=
  saves_unchanged_iff_of_rows (proxyRows_run hempty calls) hp hlive

end

/-- An instance with a public address and a key. -/
def gateway : Db :=
  { cmdbAsset := [{ id := Uuid.replicate 1, type := "aws_ec2_instance", name := "gw",
                    publicIp := "203.0.113.7", vpcId := "vpc-1", keyName := "ops",
                    osFamily := "ubuntu" }] }

def promoteGateway : ProxyCall :=
  .promote 1 (Uuid.replicate 2) id (Uuid.replicate 1).toText {}

/-- The proxy that its promotion gives has a key name, and its form is not valid. -/
theorem promoted_not_saved :
    ∃ p ∈ (run ProxyCall.apply gateway [promoteGateway]).cmdbSshProxy,
      p.live = true ∧ p.authType = "key" ∧ p.keyName = "ops" ∧
      validateSSHProxyForm (loaded p) .edit = "Private key is required for key auth." := by
  obtain ⟨p, hp⟩ : ∃ p, (run ProxyCall.apply gateway [promoteGateway]).cmdbSshProxy = [p] ∧
      p.live = true ∧ p.authType = "key" ∧ p.keyName = "ops" ∧ p.name = "vpc-1-gw" ∧
      p.host = "203.0.113.7" ∧ p.username = "ubuntu" ∧ p.privateKeyEncrypted = "" ∧ p.port = 22 :=
    ⟨_, rfl, by decide⟩
  obtain ⟨hrows, hlive, hkey, hkeyName, hname, hhost, husername, hsecret, hport⟩ := hp
  refine ⟨p, by rw [hrows]; exact List.mem_singleton_self p, hlive, hkey, hkeyName, ?_⟩
  have hauthType : (loaded p).authType = "key" := by
    refine (if_neg ?_).trans hkey
    show p.authType ≠ ""
    rw [hkey]
    decide
  have hprivateKey : (loaded p).hasPrivateKey = false := by
    show (p.privateKeyEncrypted != "") = false
    rw [hsecret]
    decide
  rw [validateSSHProxyForm, isPositive_port_loaded (by rw [hport]; decide), hauthType, hprivateKey]
  show (if trim p.name = "" then _ else if trim p.host = "" then _ else
    if trim p.username = "" then _ else _) = _
  rw [hname, hhost, husername, if_neg (by decide), if_neg (by decide), if_neg (by decide),
    if_neg (by decide), if_neg fun h => absurd h.1 (by decide), if_pos ⟨rfl, by decide, rfl⟩]

def createGateway : ProxyCall :=
  .create .ok 1 (Uuid.replicate 2)
    { name := "gw", host := "203.0.113.7", username := "ops", password := some "s3cret" }

/-- A proxy with a password is saved unchanged. -/
theorem saves_unchanged_created :
    ∃ p ∈ (run ProxyCall.apply {} [createGateway]).cmdbSshProxy,
      SavesUnchanged (run ProxyCall.apply {} [createGateway]) p := by
  refine ⟨{ id := Uuid.replicate 2, name := "gw", host := "203.0.113.7", username := "ops",
            passwordEncrypted := "s3cret", createdAt := 1, updatedAt := 1 }, by decide, ?_⟩
  refine (saves_unchanged_iff rfl _ (by decide) (by decide)).mpr ⟨?_, Or.inl ⟨rfl, by decide⟩⟩
  constructor <;> decide

end OpsPlatform.Web
