/-
The repository of terminal sessions (`internal/sessions/repository.go`).
-/
import OpsPlatform.SshProxy.Repository

namespace OpsPlatform.Sessions

open Lib Lib.Table Lib.Text SshProxy

/-! ### Recordings -/

/-- The value of a column that is `NOT NULL`. -/
def notNull {α : Type} (column : String) (value : Option α) : Except String α :=
  match value with
  | some v => .ok v
  | none => .error ("null value in column \"" ++ column ++ "\" violates not-null constraint")

/-- `UPDATE terminal_session SET recording_uri, recording_bytes WHERE id = $1::uuid`.  The
constraints are those of the rows that are updated: a statement that hits no row passes. -/
def updateRecording (db : Db) (sessionID : String) (uri : Option String) (bytes : Option Int) :
    Except String Db := do
  let id ← castUuid sessionID
  if db.terminalSession.any (·.id == id) then
    let recordingUri ← notNull "recording_uri" uri
    let recordingBytes ← notNull "recording_bytes" bytes
    .ok { db with
          terminalSession := updateWhere (·.id == id)
            (fun r => { r with recordingUri, recordingBytes }) db.terminalSession }
  else .ok db

/-- `ClearRecording`. -/
def clearRecording (db : Db) (sessionID : String) : Except String Db :=
  updateRecording db sessionID none none

/-- `ExpiredRecording`. -/
structure ExpiredRecording where
  sessionID : String
  uri : String
deriving DecidableEq

/-- The `WHERE` clause of `ExpiredRecordings`. -/
def SessionRow.expired (cutoff : Time) (r : SessionRow) : Bool :=
  r.recordingUri != "" && r.startedAt < cutoff

/-- `ExpiredRecordings`: the oldest sessions first. -/
def expiredRecordings (db : Db) (cutoff : Time) (limit : Int) : List ExpiredRecording :=
  let limit := if limit ≤ 0 ∨ 1000 < limit then 500 else limit
  (pageBy (fun r r' => r.startedAt ≤ r'.startedAt) (·.expired cutoff) limit.toNat 0
    db.terminalSession).map fun r => ⟨r.id.toText, r.recordingUri⟩

/-- `GetSessionOwner`: empty when there is no such session. -/
def getSessionOwner (db : Db) (sessionID : String) : Except String String := do
  let id ← castUuid sessionID
  .ok (((db.terminalSession.find? (·.id == id)).map (·.userId)).getD "")

/-- `GetRecordingURI`: empty when there is no such session, or no recording. -/
def getRecordingURI (db : Db) (sessionID : String) : Except String String := do
  let id ← castUuid sessionID
  .ok (((db.terminalSession.find? (·.id == id)).map (·.recordingUri)).getD "")

/-! ### Listing -/

/-- `asset_id = $2::uuid`, when the parameter is not blank. -/
def assetFilter (assetID : String) : Except String (SessionRow → Bool) :=
  if trimSpace assetID ≠ "" then do
    let id ← castUuid assetID
    .ok fun r => r.assetId == id
  else .ok fun _ => true

/-- `user_id = $1`, when the parameter is not blank. -/
def userFilter (userID : String) (r : SessionRow) : Bool :=
  if trimSpace userID ≠ "" then r.userId == userID else true

/-- `List`: the newest sessions first. -/
def list (db : Db) (now : Time) (q : ListQuery) : Except String (List Session) := do
  let limit := if q.limit ≤ 0 ∨ 500 < q.limit then 100 else q.limit
  let ofAsset ← assetFilter q.assetID
  if q.offset < 0 then .error "OFFSET must not be negative"
  else
    .ok ((pageBy (fun r r' => r'.startedAt ≤ r.startedAt)
      (fun r => userFilter q.userID r && ofAsset r) limit.toNat q.offset.toNat
      db.terminalSession).map (·.toSession now))

/-! ### What the calls do -/

/-- The statement of `ClearRecording` assigns `NULL` to two columns that are `NOT NULL`. -/
lemma clearRecording_refused {db : Db} {r : SessionRow} (hr : r ∈ db.terminalSession) :
    clearRecording db r.id.toText =
      .error "null value in column \"recording_uri\" violates not-null constraint" := by
  have hhit : db.terminalSession.any (fun s => s.id == r.id) = true :=
    List.any_eq_true.mpr ⟨r, hr, beq_self_eq_true _⟩
  have hid : castUuid r.id.toText = .ok r.id := castUuid_eq_ok.mpr (Uuid.parse_toText r.id)
  rw [clearRecording, updateRecording, hid]
  simp [bind, Except.bind, hhit, notNull]

/-- The recordings that are selected are those of expired sessions. -/
lemma mem_expiredRecordings {db : Db} {cutoff : Time} {limit : Int} {rec : ExpiredRecording}
    (h : rec ∈ expiredRecordings db cutoff limit) :
    ∃ r ∈ db.terminalSession, r.recordingUri ≠ "" ∧ r.startedAt < cutoff ∧
      rec = ⟨r.id.toText, r.recordingUri⟩ := by
  obtain ⟨r, hr, rfl⟩ := List.mem_map.mp h
  obtain ⟨hmem, hexpired⟩ := mem_of_pageBy hr
  rw [SessionRow.expired] at hexpired
  simp only [Bool.and_eq_true, bne_iff_ne, decide_eq_true_eq] at hexpired
  exact ⟨r, hmem, hexpired.1, hexpired.2, rfl⟩

/-- Every session is on some page of the list. -/
lemma exists_list {db : Db} {r : SessionRow} (hr : r ∈ db.terminalSession) (now : Time) :
    ∃ q items, list db now q = .ok items ∧ r.toSession now ∈ items := by
  obtain ⟨offset, hmem⟩ := exists_pageBy (fun r r' : SessionRow => r'.startedAt ≤ r.startedAt)
    (p := fun _ => true) hr rfl
  refine ⟨{ limit := 1, offset := offset }, _, rfl, List.mem_map_of_mem ?_⟩
  exact hmem

end OpsPlatform.Sessions
