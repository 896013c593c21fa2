/-
Encryption of the secrets in the database (`internal/security/crypto.go`).

AES-GCM, base64 and the random source are code of Go's standard library.  `Cipher` has their
functions, and `Cipher.Lawful` what the program relies on.
-/
import OpsPlatform.Lib.Outcome
import OpsPlatform.Lib.Text
import OpsPlatform.Lib.Utf8

namespace OpsPlatform.Security

open Lib Lib.Text

abbrev Bytes := Utf8.Bytes

/-- AES-GCM under a key and a nonce, and base64. -/
structure Cipher where
  /-- `gcm.Seal`, without the nonce that the program puts in front -/
  gcmSeal : Bytes → Bytes → String → Bytes
  /-- `gcm.Open` -/
  gcmOpen : Bytes → Bytes → Bytes → Except String String
  /-- `base64.StdEncoding.EncodeToString` -/
  encodeToString : Bytes → String
  /-- `base64.StdEncoding.DecodeString` -/
  decodeString : String → Except String Bytes

/-- `gcm.NonceSize()`. -/
def nonceSize : ℕ := 12

/-- What `io.ReadFull` reads from the random source. -/
abbrev Nonce := { bytes : Bytes // bytes.length = nonceSize }

/-- What was sealed is opened under the same key and nonce, and what was encoded is decoded; the
encoding of some bytes is not blank. -/
structure Cipher.Lawful (c : Cipher) : Prop where
  open_gcmSeal : ∀ (key : Bytes) (nonce : Nonce) plaintext, key.length = 32 →
    c.gcmOpen key nonce.1 (c.gcmSeal key nonce.1 plaintext) = .ok plaintext
  decode_encode : ∀ bytes, c.decodeString (c.encodeToString bytes) = .ok bytes
  encode_ne_blank : ∀ bytes, bytes ≠ [] → trimSpace (c.encodeToString bytes) ≠ ""

/-- A cipher that hides nothing: the assumptions do not exclude each other. -/
def plainCipher : Cipher where
  gcmSeal _ _ plaintext := Utf8.encode plaintext.toList
  gcmOpen _ _ payload := .ok (String.ofList (Utf8.runes payload))
  encodeToString bytes := String.ofList ('.' :: Utf8.latin1 bytes ++ ['.'])
  decodeString text := .ok (Utf8.ascii (text.toList.drop 1).dropLast)

lemma plainCipher_lawful : plainCipher.Lawful where
  open_gcmSeal key nonce plaintext _ := by
    simp only [plainCipher, Utf8.runes_encode, String.ofList_toList]
  decode_encode bytes := by
    simp only [plainCipher, String.toList_ofList, List.cons_append, List.drop_succ_cons,
      List.drop_zero, List.dropLast_concat, Utf8.ascii_latin1]
  encode_ne_blank bytes _ := by
    have htrim : trimSpace (plainCipher.encodeToString bytes) =
        plainCipher.encodeToString bytes := by
      rw [trimSpace_eq_self_iff, trimChars_eq_self_iff]
      simp only [plainCipher, String.toList_ofList]
      refine ⟨?_, ?_⟩
      · intro c hc
        obtain rfl : '.' = c := Option.some.inj hc
        decide
      · intro c hc
        rw [List.getLast?_append_of_ne_nil _ (by simp)] at hc
        obtain rfl : '.' = c := Option.some.inj hc
        decide
    rw [htrim]
    simp [plainCipher]

variable (c : Cipher)

/-- `Encrypt`, when the random source gives `nonce`. -/
def encrypt (nonce : Nonce) (plaintext : String) (key : Bytes) : Except String String :=
  if plaintext = "" then .ok ""
  else if key.length ≠ 32 then .error "master key must be 32 bytes"
  else .ok (c.encodeToString (nonce.1 ++ c.gcmSeal key nonce.1 plaintext))

/-- `Decrypt`. -/
def decrypt (ciphertextBase64 : String) (key : Bytes) : Except String String :=
  if ciphertextBase64 = "" then .ok ""
  else if key.length ≠ 32 then .error "master key must be 32 bytes"
  else do
    let ciphertext ← (c.decodeString ciphertextBase64).mapError ("decode ciphertext: " ++ ·)
    if ciphertext.length < nonceSize then .error "ciphertext is too short"
    else
      (c.gcmOpen key (ciphertext.take nonceSize) (ciphertext.drop nonceSize)).mapError
        ("decrypt payload: " ++ ·)

/-- A stored text opens to a secret, and shows only whether there is one. -/
structure OpensTo (key : Bytes) (encrypted secret : String) : Prop where
  decrypt : decrypt c encrypted key = .ok secret
  eq_empty : encrypted = "" ↔ secret = ""
  blank : trimSpace encrypted = "" ↔ secret = ""

variable {c}

/-- Under a key of 32 bytes every text can be encrypted, and the result opens to it. -/
lemma exists_encrypt (hc : c.Lawful) {key : Bytes} (hkey : key.length = 32) (nonce : Nonce)
    (plaintext : String) :
    ∃ t, encrypt c nonce plaintext key = .ok t ∧ OpensTo c key t plaintext := by
  by_cases hempty : plaintext = ""
  · subst hempty
    exact ⟨"", rfl, rfl, by simp, by simp [trimSpace_eq_self]⟩
  · have hbytes : nonce.1 ++ c.gcmSeal key nonce.1 plaintext ≠ [] := by
      intro h
      have hnonce := nonce.2
      rw [(List.append_eq_nil_iff.mp h).1] at hnonce
      cases hnonce
    have hblank := hc.encode_ne_blank _ hbytes
    have hne : c.encodeToString (nonce.1 ++ c.gcmSeal key nonce.1 plaintext) ≠ "" := by
      intro h
      rw [h] at hblank
      exact hblank (by decide)
    refine ⟨_, by rw [encrypt, if_neg hempty, if_neg (by simp [hkey])], ?_, by simp [hne, hempty],
      by simp [hblank, hempty]⟩
    have hlength : ¬ (nonce.1 ++ c.gcmSeal key nonce.1 plaintext).length < nonceSize := by
      rw [List.length_append, nonce.2]
      omega
    rw [decrypt, if_neg hne, if_neg (by simp [hkey]), hc.decode_encode]
    change (if _ then _ else _) = _
    rw [if_neg hlength, List.take_left' nonce.2, List.drop_left' nonce.2,
      hc.open_gcmSeal key nonce plaintext hkey]
    rfl

/-- What was encrypted opens to its plaintext. -/
lemma opensTo_of_encrypt (hc : c.Lawful) {key : Bytes} (hkey : key.length = 32) {nonce : Nonce}
    {plaintext t : String} (h : encrypt c nonce plaintext key = .ok t) :
    OpensTo c key t plaintext := by
  obtain ⟨t', ht', hopens⟩ := exists_encrypt hc hkey nonce plaintext
  rw [h] at ht'
  obtain rfl := Except.ok.inj ht'
  exact hopens

/-- A text that is not empty is only encrypted under a key of 32 bytes. -/
lemma length_of_encrypt {key : Bytes} {nonce : Nonce} {plaintext t : String}
    (hne : plaintext ≠ "") (h : encrypt c nonce plaintext key = .ok t) : key.length = 32 := by
  rw [encrypt, if_neg hne, Except.ite_error_eq_ok] at h
  exact not_not.mp h.1

end OpsPlatform.Security
