/-
Whether an uploaded keypair can be used: `Upsert` (`internal/keypair/repository.go`) against
`resolveKeyCredentials`, `resolveProxyKeyCredentials` and `buildSSHAuth`
(`internal/bastionprobe/service.go`).

The upload stores the name as it stands and hands every passphrase that is not empty to the parser.
The use trims the name before it looks it up, and takes a blank passphrase for none.
-/
import OpsPlatform.BastionProbe.Service
import OpsPlatform.Keypair.Repository

namespace OpsPlatform.Keypair

open Lib Lib.Text Security BastionProbe Cmdb SshProxy

variable {Signer : Type} (parser : KeyParser Signer)

/-- `ssh.AuthMethod`. -/
inductive AuthMethod (Signer : Type) where
  | password (password : String)
  | publicKeys (signer : Signer)

/-- The parser that `buildSSHAuth` calls. -/
def parseUse (privateKey passphrase : String) : Except String Signer :=
  if trimSpace passphrase = "" then parser.parsePrivateKey privateKey
  else parser.parsePrivateKeyWithPassphrase privateKey passphrase

/-- `buildSSHAuth`, with its result. -/
def buildSSHAuth (authType password privateKey passphrase : String) :
    Except String (List (AuthMethod Signer)) :=
  let authType := toLower (trimSpace authType)
  let authType := if authType = "" then "password" else authType
  if authType = "password" then
    if trimSpace password = "" then .error "password auth but password is empty"
    else .ok [.password password]
  else if authType = "key" then
    if trimSpace privateKey = "" then .error "key auth but private_key is empty"
    else do
      let signer ← parseUse parser privateKey passphrase
      .ok [.publicKeys signer]
  else .error ("unsupported auth_type: " ++ authType)

/-- The dial paths see only whether it fails. -/
lemma buildSSHAuth_errors {env : Env} (henv : ∀ pem passphrase,
      env.parsePrivateKey pem passphrase = (parseUpload parser pem passphrase).map fun _ => ())
    (authType password privateKey passphrase : String) :
    BastionProbe.buildSSHAuth env authType password privateKey passphrase =
      (buildSSHAuth parser authType password privateKey passphrase).map fun _ => () := by
  rw [BastionProbe.buildSSHAuth, buildSSHAuth]
  generalize toLower (trimSpace authType) = kind
  by_cases hempty : kind = ""
  · subst hempty
    by_cases hpassword : trimSpace password = "" <;> simp [hpassword, Except.map]
  · by_cases hkind : kind = "password"
    · subst hkind
      by_cases hpassword : trimSpace password = "" <;> simp [hpassword, Except.map]
    · by_cases hkey : kind = "key"
      · subst hkey
        by_cases hblank : trimSpace privateKey = ""
        · simp [hblank, Except.map]
        · have hparse : parseUpload parser privateKey
              (if trimSpace passphrase = "" then "" else passphrase) =
                parseUse parser privateKey passphrase := by
            rw [parseUpload, parseUse]
            by_cases hpass : trimSpace passphrase = ""
            · simp [hpass]
            · have hne : passphrase ≠ "" := by
                rintro rfl
                exact hpass (by decide)
              simp [hpass, hne]
          simp only [hempty, hkind, hblank, henv, hparse, or_self, if_false, if_true]
          cases parseUse parser privateKey passphrase <;> rfl
      · simp [hempty, hkind, hkey, Except.map]

/-- The environment of the service when its keypair store is on the database. -/
def withKeypairs (env : Env) (c : Cipher) (masterKey : Bytes) (db : Db) : Env :=
  { env with keys := some (getSecretsByName c masterKey db) }

/-- `resolveKeyCredentials` and then `buildSSHAuth`, as `dialSSH` calls them. -/
def authenticateTarget (env : Env) (t : BastionProbeTarget) :
    Except String (List (AuthMethod Signer)) := do
  let secrets ← resolveKeyCredentials env t
  buildSSHAuth parser t.authType t.password secrets.1 secrets.2

/-- `resolveProxyKeyCredentials` and then `buildSSHAuth`, as `dialProxy` calls them. -/
def authenticateProxy (env : Env) (p : SSHProxyTarget) :
    Except String (List (AuthMethod Signer)) := do
  let secrets ← resolveProxyKeyCredentials env p
  buildSSHAuth parser p.authType p.password secrets.1 secrets.2

/-- The upload can be used: its name has no white space at the ends, and its passphrase is not
blank, unless it is empty or the key opens without it.  Under a name with white space the use finds
what was stored under the trimmed name. -/
def UsableUpload (c : Cipher) (masterKey : Bytes) (db : Db) (req : UpsertRequest)
    (signer : Signer) : Prop :=
  (trimSpace req.name = req.name ∧
      (req.passphrase.getD "" = "" ∨ trimSpace (req.passphrase.getD "") ≠ "" ∨
        parser.parsePrivateKey req.privateKey = .ok signer)) ∨
    (trimSpace req.name ≠ req.name ∧ ∃ privateKey passphrase,
      getSecretsByName c masterKey db (trimSpace req.name) = .ok (privateKey, passphrase) ∧
        trimSpace privateKey ≠ "" ∧ parseUse parser privateKey passphrase = .ok signer)

/-- A target with key authentication under the name, and no credentials of its own. -/
structure KeyTarget (name authType keyName privateKey passphrase : String) : Prop where
  authType : toLower (trimSpace authType) = "key"
  keyName : keyName = name
  privateKey : trimSpace privateKey = ""
  passphrase : trimSpace passphrase = ""

variable {parser} {c : Cipher} {masterKey : Bytes} {db : Db} {req : UpsertRequest}
  {uploadedBy : String} {uploadEnv : UploadEnv} {signer : Signer}

/-! ### The credentials that are found -/

/-- The credentials of a target with key authentication are those that the store has under the
trimmed name. -/
lemma keyCredentials_eq_ok {env : Env} {what kind authType keyName privateKey passphrase : String}
    {secrets : String × String}
    (ht : KeyTarget req.name authType keyName privateKey passphrase)
    (hname : trimSpace req.name ≠ "") :
    keyCredentials (withKeypairs env c masterKey db) what kind authType keyName privateKey
        passphrase = .ok secrets ↔
      getSecretsByName c masterKey db (trimSpace req.name) = .ok secrets := by
  have hlookup : ¬ (toLower (trimSpace authType) ≠ "key" ∨ trimSpace privateKey ≠ "" ∨
      trimSpace keyName = "") := by
    rw [ht.authType, ht.privateKey, ht.keyName]
    simp [hname]
  unfold keyCredentials
  simp only
  split
  · next h => exact absurd h hlookup
  · simp only [withKeypairs, ht.keyName, ht.passphrase]
    cases getSecretsByName c masterKey db (trimSpace req.name) with
    | error e => simp
    | ok found => simp

lemma buildSSHAuth_key {authType password privateKey passphrase : String}
    {methods : List (AuthMethod Signer)} (ht : toLower (trimSpace authType) = "key") :
    buildSSHAuth parser authType password privateKey passphrase = .ok methods ↔
      trimSpace privateKey ≠ "" ∧ ∃ signer, parseUse parser privateKey passphrase = .ok signer ∧
        methods = [.publicKeys signer] := by
  rw [buildSSHAuth, ht]
  simp only [if_neg (show ("key" : String) ≠ "" by decide),
    if_neg (show ("key" : String) ≠ "password" by decide), if_true]
  rw [Except.ite_error_eq_ok, Except.bind_eq_ok]
  constructor
  · rintro ⟨hne, signer, hsigner, h⟩
    exact ⟨hne, signer, hsigner, (Except.ok.inj h).symm⟩
  · rintro ⟨hne, signer, hsigner, rfl⟩
    exact ⟨hne, signer, hsigner, rfl⟩

/-- Looking up and building succeed with a signer when the secrets under the trimmed name open to
it. -/
lemma authenticate_eq_ok {env : Env} {what kind authType keyName password privateKey
      passphrase : String} (ht : KeyTarget req.name authType keyName privateKey passphrase)
    (hname : trimSpace req.name ≠ "") :
    (do let secrets ← keyCredentials (withKeypairs env c masterKey db) what kind authType keyName
          privateKey passphrase
        buildSSHAuth parser authType password secrets.1 secrets.2) = .ok [.publicKeys signer] ↔
      ∃ pk pass, getSecretsByName c masterKey db (trimSpace req.name) = .ok (pk, pass) ∧
        trimSpace pk ≠ "" ∧ parseUse parser pk pass = .ok signer := by
  rw [Except.bind_eq_ok]
  constructor
  · rintro ⟨⟨pk, pass⟩, hsecrets, h⟩
    obtain ⟨hne, signer', hsigner, heq⟩ := (buildSSHAuth_key ht.authType).mp h
    obtain rfl : signer = signer' := by simpa using heq
    exact ⟨pk, pass, (keyCredentials_eq_ok ht hname).mp hsecrets, hne, hsigner⟩
  · rintro ⟨pk, pass, hget, hne, hsigner⟩
    exact ⟨(pk, pass), (keyCredentials_eq_ok ht hname).mpr hget,
      (buildSSHAuth_key ht.authType).mpr ⟨hne, signer, hsigner, rfl⟩⟩

/-- The secrets under the trimmed name after an upload. -/
lemma usableUpload_iff (hc : c.Lawful) {r : Db × KeypairRow}
    (h : upsert parser c masterKey uploadEnv db req uploadedBy = .ok r)
    (hsigner : parseUpload parser req.privateKey (req.passphrase.getD "") = .ok signer) :
    (∃ pk pass, getSecretsByName c masterKey r.1 (trimSpace req.name) = .ok (pk, pass) ∧
        trimSpace pk ≠ "" ∧ parseUse parser pk pass = .ok signer) ↔
      UsableUpload parser c masterKey db req signer := by
  obtain ⟨-, hkey, -⟩ := upsert_eq_ok h
  rw [getSecretsByName_of_upsert hc h, UsableUpload]
  by_cases hname : trimSpace req.name = req.name
  · simp only [hname, if_true, ne_eq, not_true, false_and, or_false, true_and, Except.ok.injEq,
      Prod.mk.injEq]
    generalize req.passphrase.getD "" = pass at hsigner ⊢
    have huse : (∃ pk pass', (req.privateKey = pk ∧ pass = pass') ∧ trimSpace pk ≠ "" ∧
        parseUse parser pk pass' = .ok signer) ↔
          parseUse parser req.privateKey pass = .ok signer := by
      constructor
      · rintro ⟨_, _, ⟨rfl, rfl⟩, -, hparse⟩
        exact hparse
      · exact fun hparse => ⟨_, _, ⟨rfl, rfl⟩, hkey, hparse⟩
    refine huse.trans ?_
    rw [parseUse]
    rw [parseUpload] at hsigner
    by_cases hblank : trimSpace pass = ""
    · rw [if_pos hblank]
      by_cases hempty : pass = ""
      · rw [if_neg (not_not_intro hempty)] at hsigner
        simp [hempty, hsigner]
      · simp [hblank, hempty]
    · have hne : pass ≠ "" := by
        rintro rfl
        exact hblank (by decide)
      rw [if_pos hne] at hsigner
      simp [hblank, hsigner]
  · simp only [hname, if_false, ne_eq, not_false_iff, true_and, false_and, false_or]

/-- A target authenticates with the signer of the upload when it can be used. -/
lemma authenticateTarget_iff (hc : c.Lawful) {r : Db × KeypairRow}
    (h : upsert parser c masterKey uploadEnv db req uploadedBy = .ok r)
    (hsigner : parseUpload parser req.privateKey (req.passphrase.getD "") = .ok signer) (env : Env)
    {t : BastionProbeTarget}
    (ht : KeyTarget req.name t.authType t.keyName t.privateKey t.passphrase) :
    authenticateTarget parser (withKeypairs env c masterKey r.1) t = .ok [.publicKeys signer] ↔
      UsableUpload parser c masterKey db req signer :=
  (authenticate_eq_ok ht (upsert_eq_ok h).1).trans (usableUpload_iff hc h hsigner)

/-- **An accepted keypair is usable** exactly when `UsableUpload` holds: then every target with key
authentication under its name, asset or proxy, authenticates with the signer that the upload was
checked with. -/
theorem uploaded_keypair_usable_iff (hc : c.Lawful) {r : Db × KeypairRow}
    (h : upsert parser c masterKey uploadEnv db req uploadedBy = .ok r)
    (hsigner : parseUpload parser req.privateKey (req.passphrase.getD "") = .ok signer)
    (env : Env) :
    (∀ t : BastionProbeTarget,
      KeyTarget req.name t.authType t.keyName t.privateKey t.passphrase →
        (authenticateTarget parser (withKeypairs env c masterKey r.1) t =
            .ok [.publicKeys signer] ↔ UsableUpload parser c masterKey db req signer)) ∧
      ∀ p : SSHProxyTarget,
        KeyTarget req.name p.authType p.keyName p.privateKey p.passphrase →
          (authenticateProxy parser (withKeypairs env c masterKey r.1) p =
            .ok [.publicKeys signer] ↔ UsableUpload parser c masterKey db req signer) := by
  refine ⟨fun t ht => authenticateTarget_iff hc h hsigner env ht, fun p hp => ?_⟩
  exact (authenticate_eq_ok hp (upsert_eq_ok h).1).trans (usableUpload_iff hc h hsigner)

/-! ### Two uploads that cannot be used -/

/-- A parser of two keys, one of them protected by a blank. -/
def twoKeys : KeyParser String where
  parsePrivateKey pem :=
    if pem = "protected" then .error "ssh: this private key is passphrase protected" else .ok pem
  parsePrivateKeyWithPassphrase pem passphrase :=
    if pem = "protected" ∧ passphrase = " " then .ok pem
    else .error "x509: decryption password incorrect"
  fingerprint signer := signer

def quietEnv : Env where
  db := {}
  decrypt := .ok
  keys := none
  parsePrivateKey _ _ := .ok ()
  answer _ := .ok ()
  pgxParseConfig := .ok ()
  pgxConnect _ _ := pure ()

def firstUpload : UploadEnv where
  keyNonce := ⟨List.replicate 12 1, rfl⟩
  passphraseNonce := ⟨List.replicate 12 2, rfl⟩
  newId := Uuid.replicate 1
  now := 5

/-- A target with key authentication and nothing but the name of a keypair. -/
def keyTarget (keyName : String) : BastionProbeTarget :=
  { assetID := "", assetName := "", assetType := "", assetEnv := "", keyName, protocol := "ssh",
    host := "10.0.0.1", port := 22, username := "root", authType := "key", database := "" }

lemma isKeyTarget_keyTarget (keyName : String) :
    KeyTarget keyName (keyTarget keyName).authType (keyTarget keyName).keyName
      (keyTarget keyName).privateKey (keyTarget keyName).passphrase :=
  ⟨(by decide : toLower (trimSpace "key") = "key"), rfl, (by decide : trimSpace "" = ""),
    (by decide : trimSpace "" = "")⟩

/-- An upload of one of the two keys into an empty store. -/
lemma exists_firstUpload (req : UpsertRequest) (hname : trimSpace req.name ≠ "")
    (hkey : trimSpace req.privateKey ≠ "") {signer : String}
    (hsigner : parseUpload twoKeys req.privateKey (req.passphrase.getD "") = .ok signer) :
    ∃ r, upsert twoKeys plainCipher (List.replicate 32 7) firstUpload {} req "" = .ok r :=
  exists_upsert plainCipher_lawful (List.length_replicate ..) hname hkey hsigner

/-- A key under a name with a blank in front, and one that is protected by a blank: both are
accepted, and neither can be used. -/
theorem uploaded_keypair_not_usable :
    (∃ r, upsert twoKeys plainCipher (List.replicate 32 7) firstUpload {}
        { name := " ops", privateKey := "plain" } "" = .ok r ∧
      authenticateTarget twoKeys (withKeypairs quietEnv plainCipher (List.replicate 32 7) r.1)
        (keyTarget " ops") ≠ .ok [.publicKeys "plain"]) ∧
      ∃ r, upsert twoKeys plainCipher (List.replicate 32 7) firstUpload {}
          { name := "ops", privateKey := "protected", passphrase := some " " } "" = .ok r ∧
        authenticateTarget twoKeys (withKeypairs quietEnv plainCipher (List.replicate 32 7) r.1)
          (keyTarget "ops") ≠ .ok [.publicKeys "protected"] := by
  refine ⟨?_, ?_⟩
  · obtain ⟨r, hr⟩ := exists_firstUpload { name := " ops", privateKey := "plain" } (by decide)
      (by decide) rfl
    refine ⟨r, hr, fun h => ?_⟩
    rcases (authenticateTarget_iff plainCipher_lawful hr rfl quietEnv
      (isKeyTarget_keyTarget " ops")).mp h with ⟨hname, -⟩ | ⟨-, pk, pass, hget, -⟩
    · exact absurd hname (by decide)
    · cases hget
  · obtain ⟨r, hr⟩ := exists_firstUpload
      { name := "ops", privateKey := "protected", passphrase := some " " } (by decide) (by decide)
      rfl
    refine ⟨r, hr, fun h => ?_⟩
    rcases (authenticateTarget_iff plainCipher_lawful hr rfl quietEnv
      (isKeyTarget_keyTarget "ops")).mp h with ⟨-, hempty | hblank | hopen⟩ | ⟨hname, -⟩
    · exact absurd hempty (by decide)
    · exact absurd hblank (by decide)
    · cases hopen
    · exact absurd hname (by decide)

/-- A trimmed name and no passphrase. -/
theorem uploaded_keypair_usable_ops :
    ∃ r, upsert twoKeys plainCipher (List.replicate 32 7) firstUpload {}
        { name := "ops", privateKey := "plain" } "" = .ok r ∧
      authenticateTarget twoKeys (withKeypairs quietEnv plainCipher (List.replicate 32 7) r.1)
        (keyTarget "ops") = .ok [.publicKeys "plain"] := by
  obtain ⟨r, hr⟩ := exists_firstUpload { name := "ops", privateKey := "plain" } (by decide)
    (by decide) rfl
  refine ⟨r, hr, ?_⟩
  have husable := (uploaded_keypair_usable_iff plainCipher_lawful hr rfl quietEnv).1
    (keyTarget "ops") (isKeyTarget_keyTarget "ops")
  exact husable.mpr (Or.inl ⟨by decide, Or.inl rfl⟩)

end OpsPlatform.Keypair
