/-
The handlers of the session routes (`internal/sessions/handler.go`).
-/
import OpsPlatform.Bastion.Listing
import OpsPlatform.Lib.Utf8
import OpsPlatform.Sessions.Repository

namespace OpsPlatform.Sessions

open Lib Lib.Table Iam SshProxy
open Bastion (QueryParams intParam)

/-- `canSeeAllSessions`. -/
def canSeeAllSessions (identity : UserIdentity) : Bool :=
  isAdmin identity || identity.permissions.any (· == "bastion.session:read")

/-- What `GetObject` gives for a key: the metadata of `RecordingObject`, and the bytes that its
reader delivers.  A reader that fails has delivered the bytes before. -/
structure StoredObject where
  size : Int
  contentType : String
  body : Utf8.Bytes
deriving DecidableEq

/-- `RecordingFetcher`. -/
abbrev RecordingFetcher := String → Except String StoredObject

/-- The response of a download. -/
structure RecordingResponse where
  contentType : String
  contentLength : Option String
  cacheControl : String := "private, max-age=300"
  contentDisposition : String
  body : Utf8.Bytes
deriving DecidableEq

/-- The download of the object under a key. -/
def downloadOf (id uri : String) (obj : StoredObject) : RecordingResponse :=
  let ext := if ".guac".toList.isSuffixOf uri.toList then ".guac" else ".cast"
  { contentType := if obj.contentType = "" then "application/x-asciicast" else obj.contentType
    contentLength := if 0 < obj.size then some (toString obj.size) else none
    contentDisposition := "attachment; filename=\"" ++ id ++ ext ++ "\""
    body := obj.body }

namespace Handler

/-- `recording` after the check of the owner. -/
def fetchRecording (fetch : RecordingFetcher) (db : Db) (id : String) :
    Except HttpError RecordingResponse := do
  let uri ← (getRecordingURI db id).mapError fun e => ⟨500, e, none⟩
  if uri = "" then .error ⟨404, "no recording for session", none⟩
  else
    let obj ← (fetch uri).mapError fun e => ⟨502, "fetch recording: " ++ e, none⟩
    .ok (downloadOf id uri obj)

/-- `recording`.  Without object storage there is no fetcher. -/
def recording (recordings : Option RecordingFetcher) (db : Db) (identity : UserIdentity)
    (id : String) : Except HttpError RecordingResponse :=
  match recordings with
  | none => .error ⟨404, "recording storage not configured", none⟩
  | some fetch =>
    if canSeeAllSessions identity then fetchRecording fetch db id
    else do
      let ownerID ← (getSessionOwner db id).mapError fun e => ⟨500, e, none⟩
      if ownerID = "" ∨ ownerID ≠ identity.user.id.toText then
        .error ⟨404, "no recording for session", none⟩
      else fetchRecording fetch db id

/-- `list`. -/
def list (db : Db) (now : Time) (identity : UserIdentity) (params : QueryParams) :
    Except HttpError (List Session) :=
  let q : ListQuery :=
    { userID := if canSeeAllSessions identity then params "user_id"
                else identity.user.id.toText
      assetID := params "asset_id"
      limit := intParam params "limit", offset := intParam params "offset" }
  (Sessions.list db now q).mapError fun e => ⟨500, e, none⟩

/-- What someone who may only see their own sessions gets: the recording of the session with
the id, if it is one of them. -/
lemma recording_of_own {identity : UserIdentity} (hsee : canSeeAllSessions identity = false)
    (fetch : RecordingFetcher) (db : Db) (id : String) :
    recording (some fetch) db identity id =
      match castUuid id with
      | .error e => .error ⟨500, e, none⟩
      | .ok uuid =>
        match (db.terminalSession.find? (·.id == uuid)).filter
          (fun r => r.userId == identity.user.id.toText) with
        | none => .error ⟨404, "no recording for session", none⟩
        | some r =>
          if r.recordingUri = "" then .error ⟨404, "no recording for session", none⟩
          else ((fetch r.recordingUri).mapError fun e => ⟨502, "fetch recording: " ++ e, none⟩).map
            (downloadOf id r.recordingUri) := by
  rw [recording]
  simp only [hsee, Bool.false_eq_true, if_false, getSessionOwner, fetchRecording, getRecordingURI]
  rcases castUuid id with e | uuid
  · rfl
  · simp only [bind, Except.bind, Except.mapError]
    generalize List.find? _ db.terminalSession = found
    rcases found with _ | r
    · simp
    · by_cases hown : r.userId = identity.user.id.toText
      · -- the own id is no empty text, so the first half of the check passes as well
        have hne := Uuid.toText_ne_empty identity.user.id
        rw [Option.filter_some_pos (by simpa using hown)]
        simp only [Option.map_some, Option.getD_some, hown, hne, ne_eq, not_true, or_self, if_false]
        split
        · rfl
        · rcases fetch r.recordingUri with e | obj <;> rfl
      · rw [Option.filter_some_neg (by simpa using hown)]
        simp [hown]

end Handler

end OpsPlatform.Sessions
