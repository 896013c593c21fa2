/-
A proxy with its decrypted credentials (`GetTarget` in `internal/sshproxy/repository.go`).
-/
import OpsPlatform.Db
import OpsPlatform.Lib.Outcome
import OpsPlatform.Security.Crypto

namespace OpsPlatform.SshProxy

open Lib

/-- `ErrNotFound`. -/
def errNotFound : String := "ssh proxy not found"

/-- `SSHProxyTarget`. -/
structure SSHProxyTarget where
  id : String
  name : String
  networkZone : String
  host : String
  port : Int
  username : String
  authType : String
  keyName : String
  password : String := ""
  privateKey : String := ""
  passphrase : String := ""

/-- A secret column: an empty one is not decrypted.  `decrypt` stands for `security.Decrypt`
under the master key. -/
def decryptColumn (decrypt : String → Except String String) (encrypted : String) :
    Except String String :=
  if encrypted ≠ "" then decrypt encrypted else .ok ""

/-- `Decrypt` itself returns an empty text for one. -/
lemma decryptColumn_decrypt (c : Security.Cipher) (key : Security.Bytes) (encrypted : String) :
    decryptColumn (Security.decrypt c · key) encrypted = Security.decrypt c encrypted key := by
  rw [decryptColumn]
  split
  · rfl
  · next h => rw [not_not.mp h]; rfl

/-- `GetTarget`. -/
def getTarget (db : Db) (decrypt : String → Except String String) (id : Uuid) :
    Except String SSHProxyTarget :=
  match db.cmdbSshProxy.find? fun p => p.id == id && p.live with
  | none => .error errNotFound
  | some p => do
    let password ← decryptColumn decrypt p.passwordEncrypted
    let privateKey ← decryptColumn decrypt p.privateKeyEncrypted
    let passphrase ← decryptColumn decrypt p.passphraseEncrypted
    .ok { id := p.id.toText, name := p.name, networkZone := p.networkZone, host := p.host,
          port := p.port, username := p.username, authType := p.authType, keyName := p.keyName,
          password, privateKey, passphrase }

/-- A proxy that can be resolved is a live row of the id, whose secrets decrypt. -/
lemma getTarget_eq_ok {db : Db} {decrypt : String → Except String String} {id : Uuid}
    {t : SSHProxyTarget} (h : getTarget db decrypt id = .ok t) :
    ∃ p ∈ db.cmdbSshProxy, p.id = id ∧ p.live = true ∧ t.id = p.id.toText ∧ t.host = p.host ∧
      t.port = p.port ∧ ∀ column ∈ [p.passwordEncrypted, p.privateKeyEncrypted,
        p.passphraseEncrypted], ∃ secret, decryptColumn decrypt column = .ok secret := by
  rw [getTarget] at h
  split at h
  · cases h
  · next p hp =>
    have hmem := List.mem_of_find?_eq_some hp
    have hcond := List.find?_some hp
    simp only [Bool.and_eq_true, beq_iff_eq] at hcond
    rw [Except.bind_eq_ok] at h
    obtain ⟨password, hpass, h⟩ := h
    rw [Except.bind_eq_ok] at h
    obtain ⟨privateKey, hkey, h⟩ := h
    rw [Except.bind_eq_ok] at h
    obtain ⟨passphrase, hphrase, h⟩ := h
    obtain rfl := Except.ok.inj h
    refine ⟨p, hmem, hcond.1, hcond.2, rfl, rfl, rfl, ?_⟩
    intro column hcolumn
    simp only [List.mem_cons, List.not_mem_nil, or_false] at hcolumn
    rcases hcolumn with rfl | rfl | rfl
    · exact ⟨password, hpass⟩
    · exact ⟨privateKey, hkey⟩
    · exact ⟨passphrase, hphrase⟩

end OpsPlatform.SshProxy
