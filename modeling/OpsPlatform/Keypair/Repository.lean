/-
The keypair store (`Upsert`, `GetSecretsByName` and `fingerprintPrivateKey` in
`internal/keypair/repository.go`).
-/
import OpsPlatform.Db
import OpsPlatform.Lib.Outcome
import OpsPlatform.Lib.Table
import OpsPlatform.Security.Crypto

namespace OpsPlatform.Keypair

open Lib Lib.Table Lib.Text Security

/-- The functions of `golang.org/x/crypto/ssh` on private keys, and the fingerprint of a signer. -/
structure KeyParser (Signer : Type) where
  parsePrivateKey : String → Except String Signer
  parsePrivateKeyWithPassphrase : String → String → Except String Signer
  /-- MD5 and SHA-256 of `signer.PublicKey()`, as `fingerprintPrivateKey` writes them -/
  fingerprint : Signer → String

variable {Signer : Type} (parser : KeyParser Signer) (c : Cipher) (masterKey : Bytes)

/-- The parser that `fingerprintPrivateKey` calls. -/
def parseUpload (pem passphrase : String) : Except String Signer :=
  if passphrase ≠ "" then parser.parsePrivateKeyWithPassphrase pem passphrase
  else parser.parsePrivateKey pem

/-- `fingerprintPrivateKey`. -/
def fingerprintPrivateKey (pem passphrase : String) : Except String String := do
  let signer ← parseUpload parser pem passphrase
  .ok (parser.fingerprint signer)

/-- What the encryption of an upload draws, and the values of the database. -/
structure UploadEnv where
  keyNonce : Nonce
  passphraseNonce : Nonce
  newId : Uuid
  now : Time

/-- `Upsert`, with the row that it returns. -/
def upsert (env : UploadEnv) (db : Db) (req : UpsertRequest) (uploadedBy : String) :
    Except String (Db × KeypairRow) :=
  if trimSpace req.name = "" then .error "name is required"
  else if trimSpace req.privateKey = "" then .error "private_key is required"
  else do
    let passphrase := req.passphrase.getD ""
    let fingerprint ← (fingerprintPrivateKey parser req.privateKey passphrase).mapError
      ("invalid private key: " ++ ·)
    let encKey ← encrypt c env.keyNonce req.privateKey masterKey
    let encPass ← encrypt c env.passphraseNonce passphrase masterKey
    let edit := fun k : KeypairRow =>
      { k with fingerprint, privateKeyEncrypted := encKey, passphraseEncrypted := encPass,
               description := req.description, uploadedBy, updatedAt := env.now }
    let new := edit { id := env.newId, name := req.name, privateKeyEncrypted := encKey,
                      createdAt := env.now }
    .ok ({ db with
           sshKeypair := Table.upsert (·.name == req.name) (fun _ => true) edit new db.sshKeypair },
      ((db.sshKeypair.find? (·.name == req.name)).map edit).getD new)

/-- `ErrKeypairNotFound`. -/
def errKeypairNotFound : String := "keypair not found"

/-- `GetSecretsByName`. -/
def getSecretsByName (db : Db) (name : String) : Except String (String × String) :=
  match db.sshKeypair.find? (·.name == name) with
  | none => .error errKeypairNotFound
  | some k => do
    let privateKey ← decrypt c k.privateKeyEncrypted masterKey
    let passphrase ← decrypt c k.passphraseEncrypted masterKey
    .ok (privateKey, passphrase)

variable {parser c masterKey} {env : UploadEnv} {db : Db} {req : UpsertRequest}
  {uploadedBy : String}

/-- What was accepted is not blank, and opens to a signer. -/
lemma upsert_eq_ok {r : Db × KeypairRow}
    (h : upsert parser c masterKey env db req uploadedBy = .ok r) :
    trimSpace req.name ≠ "" ∧ trimSpace req.privateKey ≠ "" ∧
      (∃ signer, parseUpload parser req.privateKey (req.passphrase.getD "") = .ok signer) ∧
      ∃ encKey encPass, ∃ edit : KeypairRow → KeypairRow, ∃ new,
        encrypt c env.keyNonce req.privateKey masterKey = .ok encKey ∧
        encrypt c env.passphraseNonce (req.passphrase.getD "") masterKey = .ok encPass ∧
        (∀ k, (edit k).name = k.name ∧ (edit k).privateKeyEncrypted = encKey ∧
          (edit k).passphraseEncrypted = encPass) ∧
        (new.name = req.name ∧ new.privateKeyEncrypted = encKey ∧
          new.passphraseEncrypted = encPass) ∧
        r.1 = { db with sshKeypair :=
                Table.upsert (·.name == req.name) (fun _ => true) edit new db.sshKeypair } := by
  rw [upsert, Except.ite_error_eq_ok, Except.ite_error_eq_ok] at h
  obtain ⟨hname, hkey, h⟩ := h
  rw [Except.bind_eq_ok] at h
  obtain ⟨fingerprint, hfingerprint, h⟩ := h
  rw [Except.bind_eq_ok] at h
  obtain ⟨encKey, hencKey, h⟩ := h
  rw [Except.bind_eq_ok] at h
  obtain ⟨encPass, hencPass, h⟩ := h
  obtain rfl := Except.ok.inj h
  rw [Except.mapError_eq_ok, fingerprintPrivateKey, Except.bind_eq_ok] at hfingerprint
  obtain ⟨signer, hsigner, -⟩ := hfingerprint
  refine ⟨hname, hkey, ⟨signer, hsigner⟩, encKey, encPass, _, _, hencKey, hencPass, ?_, ?_, rfl⟩
  · exact fun k => ⟨rfl, rfl, rfl⟩
  · exact ⟨rfl, rfl, rfl⟩

/-- A name and a key that are not blank are accepted when the key opens. -/
lemma exists_upsert (hc : c.Lawful) (hlength : masterKey.length = 32)
    (hname : trimSpace req.name ≠ "") (hkey : trimSpace req.privateKey ≠ "") {signer : Signer}
    (hsigner : parseUpload parser req.privateKey (req.passphrase.getD "") = .ok signer) :
    ∃ r, upsert parser c masterKey env db req uploadedBy = .ok r := by
  obtain ⟨encKey, hencKey, -⟩ := exists_encrypt hc hlength env.keyNonce req.privateKey
  obtain ⟨encPass, hencPass, -⟩ :=
    exists_encrypt hc hlength env.passphraseNonce (req.passphrase.getD "")
  rw [upsert, if_neg hname, if_neg hkey]
  simp only [fingerprintPrivateKey, hsigner, Except.mapError, Except.ok_bind, hencKey, hencPass]
  exact ⟨_, rfl⟩

/-- **After an upload**, a name has the secrets of the upload, or those that it had before. -/
lemma getSecretsByName_of_upsert (hc : c.Lawful) {r : Db × KeypairRow}
    (h : upsert parser c masterKey env db req uploadedBy = .ok r) (name : String) :
    getSecretsByName c masterKey r.1 name =
      if name = req.name then .ok (req.privateKey, req.passphrase.getD "")
      else getSecretsByName c masterKey db name := by
  obtain ⟨-, hkey, -, encKey, encPass, edit, new, hencKey, hencPass, hedit, hnew, hdb⟩ :=
    upsert_eq_ok h
  have hlength : masterKey.length = 32 := by
    refine length_of_encrypt ?_ hencKey
    intro hempty
    rw [hempty] at hkey
    exact hkey (by decide)
  have hopenKey := (opensTo_of_encrypt hc hlength hencKey).decrypt
  have hopenPass := (opensTo_of_encrypt hc hlength hencPass).decrypt
  have hkeep : ∀ k, (edit k).name = k.name := fun k => (hedit k).1
  by_cases hname : name = req.name
  · subst hname
    have hfind := find?_upsert_self (k := req.name) hkeep hnew.1 db.sshKeypair
    have hcolumns : ∀ old : Option KeypairRow,
        ((old.map edit).getD new).privateKeyEncrypted = encKey ∧
          ((old.map edit).getD new).passphraseEncrypted = encPass := by
      rintro (_ | k)
      · exact hnew.2
      · exact (hedit k).2
    rw [if_pos rfl, getSecretsByName, hdb]
    simp only [hfind, hcolumns, hopenKey, hopenPass, Except.ok_bind]
  · have hfind := find?_upsert_of_ne hkeep hnew.1 hname db.sshKeypair
    rw [if_neg hname, getSecretsByName, hdb]
    simp only [hfind, getSecretsByName]

end OpsPlatform.Keypair
