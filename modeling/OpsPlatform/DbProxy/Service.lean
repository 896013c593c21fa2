/-
`Open` of the database broker (`internal/dbproxy/service.go`).
-/
import OpsPlatform.BastionProbe.Service

namespace OpsPlatform.DbProxy

open Lib BastionProbe

/-- The connection to the database: through the client of the proxy when there is one. -/
def dialDatabase (env : Env) (targetAddr : String) : Option Client → Net Unit
  | some client =>
    (env.perform (.tunnel client targetAddr)).mapError fun e => "proxy dial db: " ++ e
  | none => (env.perform (.dial targetAddr)).mapError fun e => "dial db: " ++ e

/-- `Open`. -/
def openDatabase (env : Env) (assetID : String) : Net Unit := do
  let res ← resolveAssetDB env assetID
  dialDatabase env res.targetAddr res.proxyClient

end OpsPlatform.DbProxy
