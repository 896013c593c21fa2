/-
The database: one field for each table, under the table's name.
-/
import OpsPlatform.Aws.Model
import OpsPlatform.Bastion.Model
import OpsPlatform.Cmdb.Model
import OpsPlatform.Keypair.Model
import OpsPlatform.Sessions.Model

namespace OpsPlatform

structure Db where
  iamUser : List Iam.UserRow := []
  iamRole : List Iam.RoleRow := []
  iamRolePermission : List Iam.RolePermissionRow := []
  iamUserRoleBinding : List Iam.UserRoleBindingRow := []
  cmdbAsset : List Cmdb.AssetRow := []
  cmdbSshProxy : List Cmdb.SshProxyRow := []
  cmdbAssetConnection : List Cmdb.ConnectionRow := []
  bastionGrant : List Bastion.GrantRow := []
  bastionRequest : List Bastion.RequestRow := []
  terminalSession : List Sessions.SessionRow := []
  cmdbAssetRelation : List Cmdb.RelationRow := []
  cmdbAssetProbeSnapshot : List Cmdb.ProbeSnapshotRow := []
  iamLocalUser : List Iam.LocalUserRow := []
  awsAccount : List Aws.AccountRow := []
  iamOidcConfig : Option Iam.OidcConfigRow := none
  awsSyncRun : List Aws.SyncRunRow := []
  sshKeypair : List Keypair.KeypairRow := []

end OpsPlatform
