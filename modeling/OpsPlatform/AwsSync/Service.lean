/-
A round of the AWS sync (`RunOnce` and `syncAccountRegion` in `internal/awssync/service.go`,
`StartSyncRun` and `FinishSyncRun` in `internal/aws/repository.go`).

Every call that is given the context is a step, and the context may be over from any step on.  What
a resource's sync does to the other tables, and what it returns, is the environment's.
-/
import OpsPlatform.Aws.Account
import OpsPlatform.Lib.Ctx

namespace OpsPlatform.AwsSync

open Lib Lib.Table Lib.Text Aws
open Cmdb (nullIfEmpty)

/-- What a round runs on; the first argument is the step. -/
structure SyncEnv where
  ctx : Ctx
  cipher : Aws.Cipher
  now : ℕ → Time
  newId : ℕ → Uuid
  /-- the errors of the two calls of `session.NewSession` -/
  sessionErrors : ℕ → Option String × Option String
  /-- why an `INSERT` into `aws_sync_run` fails, other than for the context -/
  insertError : ℕ → Option String
  /-- the sync of a resource: its writes, the number of assets and its error -/
  resource : ℕ → String → Session → Db → Db × Int × Option String
  /-- `LinkAWSRelations` -/
  relations : ℕ → Db → Db × Option String
  /-- `ReapplyPropagation`, when there is a reapplier -/
  reapply : Option (ℕ → Db → Db × Option String)
  resource_syncRun : ∀ step name sess db, (resource step name sess db).1.awsSyncRun = db.awsSyncRun
  relations_syncRun : ∀ step db, (relations step db).1.awsSyncRun = db.awsSyncRun
  reapply_syncRun : ∀ f ∈ reapply, ∀ step db, (f step db).1.awsSyncRun = db.awsSyncRun

/-- `ctx.Err()`. -/
def errCanceled : String := "context canceled"

/-! ### The rows of a run -/

/-- `StartSyncRun`. -/
def startSyncRun (env : SyncEnv) (step : ℕ) (db : Db) (accountUUID : Uuid)
    (region resourceType : String) : Except String (Db × Uuid) :=
  env.ctx.exec step errCanceled <|
    match env.insertError step with
    | some e => .error e
    | none =>
      if db.awsSyncRun.any (·.id == env.newId step) then
        .error "duplicate key value violates unique constraint"
      else
        .ok ({ db with
               awsSyncRun := db.awsSyncRun ++
                 [{ id := env.newId step, accountId := accountUUID, region, resourceType,
                    status := "running", startedAt := env.now step }] }, env.newId step)

/-- `FinishSyncRun`. -/
def finishSyncRun (env : SyncEnv) (step : ℕ) (db : Db) (runID : Uuid) (status : String)
    (resourcesProcessed : Int) (errorMessage : String) : Except String Db :=
  let status := if status = "" then "success" else status
  env.ctx.exec step errCanceled <|
    .ok { db with
          awsSyncRun := updateWhere (·.id == runID)
            (fun run => { run with status, resourcesProcessed,
                                   errorMessage := nullIfEmpty errorMessage,
                                   finishedAt := some (env.now step) }) db.awsSyncRun }

/-! ### The loops -/

/-- A run whose row was inserted: the row, the step of the insert, and the error that the sync of
the resource returned. -/
structure Attempt where
  runID : Uuid
  step : ℕ
  err : Option String

/-- The state of a round, with the errors that it joins. -/
structure SyncState where
  db : Db
  step : ℕ := 0
  attempts : List Attempt := []
  errs : List String := []

/-- A step that only takes its time. -/
def SyncState.tick (s : SyncState) : SyncState := { s with step := s.step + 1 }

def SyncState.join (s : SyncState) (e : String) : SyncState := { s with errs := s.errs ++ [e] }

def resourceSyncs : List String := ["ec2_instance", "vpc", "security_group", "rds_instance"]

/-- The status and the message of a run. -/
def statusOf : Option String → String × String
  | none => ("success", "")
  | some e => ("failed", e)

/-- One resource of a region: three steps, or one when there is no row. -/
def syncResource (env : SyncEnv) (account : SyncAccount) (region : String) (sess : Session)
    (s : SyncState) (name : String) : SyncState :=
  let place := account.accountID ++ "/" ++ region ++ ": "
  match startSyncRun env s.step s.db account.id region name with
  | .error e => s.tick.join ("start run " ++ name ++ " for " ++ place ++ e)
  | .ok (db, runID) =>
    let result := env.resource (s.step + 1) name sess db
    let s' : SyncState :=
      { db := result.1, step := s.step + 3,
        attempts := s.attempts ++ [{ runID, step := s.step, err := result.2.2 }],
        errs := s.errs ++
          (result.2.2.map fun e => "sync " ++ name ++ " for " ++ place ++ e).toList }
    match finishSyncRun env (s.step + 2) result.1 runID (statusOf result.2.2).1 result.2.1
        (statusOf result.2.2).2 with
    | .error e => s'.join ("finish run " ++ name ++ " for " ++ place ++ e)
    | .ok db' => { s' with db := db' }

/-- `syncAccountRegion`. -/
def syncAccountRegion (env : SyncEnv) (account : SyncAccount) (region : String) (s : SyncState) :
    SyncState :=
  match newSessionForAccount (env.sessionErrors s.step).1 (env.sessionErrors s.step).2 account
      region with
  | .error e =>
    s.join ("account " ++ account.accountID ++ " region " ++ region ++ " session: " ++ e)
  | .ok sess => resourceSyncs.foldl (syncResource env account region sess) s

/-- The `select` at the head of both loops: `.error` returns from the round. -/
def checkDone (env : SyncEnv) (s : SyncState) : Except SyncState SyncState :=
  env.ctx.exec s.step s (.ok s.tick)

/-- A round of the inner loop. -/
def syncRegion (env : SyncEnv) (account : SyncAccount) (s : SyncState) (region : String) :
    Except SyncState SyncState := do
  let s ← checkDone env s
  if trimSpace region = "" then .ok s
  else .ok (syncAccountRegion env account (trimSpace region) s)

/-- A round of the outer loop. -/
def syncAccount (env : SyncEnv) (s : SyncState) (account : SyncAccount) :
    Except SyncState SyncState := do
  let s ← checkDone env s
  (account.regionAllowlist.getD []).foldlM (syncRegion env account) s

/-- A call after the loops. -/
def SyncState.after (s : SyncState) (what : String) (f : ℕ → Db → Db × Option String) : SyncState :=
  { s with db := (f s.step s.db).1, step := s.step + 1,
           errs := s.errs ++ ((f s.step s.db).2.map fun e => what ++ e).toList }

/-- `RunOnce`: the state in which it returns, and its error. -/
def runOnce (env : SyncEnv) (db : Db) : SyncState × Option String :=
  let s : SyncState := { db, step := 1 }
  match env.ctx.exec 0 errCanceled (listSyncAccounts db env.cipher) with
  | .error e => (s, some e)
  | .ok accounts =>
    if accounts = [] then (s, none)
    else
      match accounts.foldlM (syncAccount env) s with
      | .error s => (s, some errCanceled)
      | .ok s =>
        let s := s.after "sync relations: " env.relations
        let s := match env.reapply with
          | some f => s.after "reapply vpc proxy propagation: " f
          | none => s
        (s, if s.errs = [] then none else some ("\n".intercalate s.errs))

end OpsPlatform.AwsSync
