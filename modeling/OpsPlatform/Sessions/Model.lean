/-
The rows of `terminal_session` (migrations 0010 and 0016) and the sessions that the API shows
(`internal/sessions/model.go`).
-/
import Mathlib.Algebra.Ring.Int.Defs
import OpsPlatform.Iam.Model

namespace OpsPlatform.Sessions

open Lib

/-- A row of `terminal_session`.  Its user is a text; both columns of migration 0016 are
`NOT NULL`, and a session without a recording has the empty URI. -/
structure SessionRow where
  id : Uuid
  userId : String
  userName : String := ""
  assetId : Uuid
  assetName : String := ""
  proxyId : Option Uuid := none
  proxyName : String := ""
  clientIp : String := ""
  startedAt : Time
  endedAt : Option Time := none
  exitCode : Option Int := none
  bytesIn : Int := 0
  bytesOut : Int := 0
  errorMsg : String := ""
  recordingUri : String := ""
  recordingBytes : Int := 0
deriving DecidableEq

/-- `Session`. -/
structure Session where
  id : String
  userID : String
  userName : String
  assetID : String
  assetName : String
  proxyID : String
  proxyName : String
  clientIP : String
  startedAt : Time
  endedAt : Option Time
  exitCode : Option Int
  bytesIn : Int
  bytesOut : Int
  errorMsg : String
  durationMs : Int
  hasRecording : Bool
  recordingBytes : Int
deriving DecidableEq

/-- `ListQuery`. -/
structure ListQuery where
  userID : String := ""
  assetID : String := ""
  limit : Int := 0
  offset : Int := 0

/-- `t.Sub(u).Milliseconds()`; a duration is a 64-bit number of nanoseconds and `Sub`
saturates. -/
def millisecondsSince (u t : Time) : Int :=
  (max (-2 ^ 63) (min (2 ^ 63 - 1) (t - u))).tdiv 1000000

/-- The session that `List` scans from a row. -/
def SessionRow.toSession (now : Time) (r : SessionRow) : Session :=
  { id := r.id.toText, userID := r.userId, userName := r.userName, assetID := r.assetId.toText,
    assetName := r.assetName, proxyID := (r.proxyId.map Uuid.toText).getD "",
    proxyName := r.proxyName, clientIP := r.clientIp, startedAt := r.startedAt,
    endedAt := r.endedAt, exitCode := r.exitCode, bytesIn := r.bytesIn, bytesOut := r.bytesOut,
    errorMsg := r.errorMsg, durationMs := millisecondsSince r.startedAt (r.endedAt.getD now),
    hasRecording := r.recordingUri != "", recordingBytes := r.recordingBytes }

end OpsPlatform.Sessions
