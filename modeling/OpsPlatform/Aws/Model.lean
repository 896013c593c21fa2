/-
The data of the AWS package (`internal/aws/model.go`) and the rows of `aws_account` and
`aws_sync_run` (`migrations/0001_init.sql`).

A `[]string` that is nil is `none`; it is stored as the JSON `null`.
-/
import OpsPlatform.Iam.Model

namespace OpsPlatform.Aws

open Lib

/-- `CreateAccountRequest`; absent fields are zero. -/
structure CreateAccountRequest where
  accountID : String := ""
  displayName : String := ""
  authMode : String := ""
  roleARN : String := ""
  externalID : String := ""
  accessKeyID : String := ""
  secretAccessKey : String := ""
  regionAllowlist : Option (List String) := none
  enabled : Bool := false

/-- `UpdateAccountRequest`; a field that is absent or `null` is `none`. -/
structure UpdateAccountRequest where
  displayName : Option String := none
  roleARN : Option String := none
  externalID : Option String := none
  accessKeyID : Option String := none
  secretAccessKey : Option String := none
  regionAllowlist : Option (List String) := none
  enabled : Option Bool := none

/-- `SyncAccount`. -/
structure SyncAccount where
  id : Uuid
  accountID : String
  displayName : String
  authMode : String
  roleARN : String
  externalID : String
  accessKeyID : String
  secretAccessKey : String
  regionAllowlist : Option (List String)
  enabled : Bool

/-- A row of `aws_account`. -/
structure AccountRow where
  id : Uuid
  accountId : String
  displayName : String
  authMode : String
  roleArn : Option String := none
  externalId : Option String := none
  accessKeyId : Option String := none
  secretAccessKeyEncrypted : Option String := none
  regionAllowlist : Option (List String) := some []
  enabled : Bool := true
  createdAt : Time := 0
  updatedAt : Time := 0

/-- A row of `aws_sync_run`. -/
structure SyncRunRow where
  id : Uuid
  accountId : Uuid
  region : String
  resourceType : String
  status : String
  resourcesProcessed : Int := 0
  errorMessage : Option String := none
  startedAt : Time := 0
  finishedAt : Option Time := none
deriving DecidableEq

end OpsPlatform.Aws
