/-
The rows of `ssh_keypair` (`migrations/0012_ssh_keypair.sql`) and the request of an upload
(`internal/keypair/model.go`).
-/
import OpsPlatform.Iam.Model

namespace OpsPlatform.Keypair

open Lib

/-- A row of `ssh_keypair`. -/
structure KeypairRow where
  id : Uuid
  name : String
  fingerprint : String := ""
  privateKeyEncrypted : String
  passphraseEncrypted : String := ""
  uploadedBy : String := ""
  description : String := ""
  createdAt : Time := 0
  updatedAt : Time := 0
deriving DecidableEq

/-- `UpsertRequest`. -/
structure UpsertRequest where
  name : String := ""
  privateKey : String := ""
  passphrase : Option String := none
  description : String := ""

end OpsPlatform.Keypair
