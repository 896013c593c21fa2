/-
The purge of old recordings (`internal/sessions/recordingjanitor.go`).

The loop removes the object of a recording first and then clears the pointer to it.  The clearing
statement assigns `NULL` to two columns that migration 0016 declares `NOT NULL`, so the server
refuses it on every row: a purge takes the objects away and leaves all the pointers.
-/
import OpsPlatform.Sessions.Repository

namespace OpsPlatform.Sessions

open Lib Lib.Table

/-- What meets one iteration of the loop: a context that is cancelled, or a `RemoveObject` that
fails or succeeds. -/
inductive Attempt where
  | cancelled
  | failed
  | removed
deriving DecidableEq

/-- A call of `RemoveObject`, and whether it succeeded. -/
structure RemoveCall where
  recording : ExpiredRecording
  removed : Bool
deriving DecidableEq

/-- What a run of the purge leaves: the database, its calls of `RemoveObject` and the number of
recordings that it reports as purged. -/
structure PurgeRun where
  db : Db
  calls : List RemoveCall := []
  purged : ℕ := 0

/-- A run that begins with the call. -/
def PurgeRun.after (call : RemoveCall) (run : PurgeRun) : PurgeRun :=
  { run with calls := call :: run.calls }

/-- The loop of `runRecordingGC` over the selected recordings. -/
def purgeLoop (db : Db) : List ExpiredRecording → (ℕ → Attempt) → PurgeRun
  | [], _ => { db := db }
  | rec :: rest, attempts =>
    let later := fun i => attempts (i + 1)
    match attempts 0 with
    | .cancelled => { db := db }
    | .failed => (purgeLoop db rest later).after ⟨rec, false⟩
    | .removed =>
      match clearRecording db rec.sessionID with
      | .error _ => (purgeLoop db rest later).after ⟨rec, true⟩
      | .ok db =>
        let run := (purgeLoop db rest later).after ⟨rec, true⟩
        { run with purged := run.purged + 1 }

/-- `runRecordingGC`. -/
def runRecordingGC (db : Db) (now : Time) (retention : Int) (attempts : ℕ → Attempt) :
    PurgeRun :=
  purgeLoop db (expiredRecordings db (now - retention) 500) attempts

/-! ### What a purge promises -/

/-- The session of the row points to the recording that it pointed to. -/
def KeepsPointer (r : SessionRow) (db : Db) : Prop :=
  ∃ r' ∈ db.terminalSession, r'.id = r.id ∧ r'.recordingUri = r.recordingUri ∧
    r'.recordingBytes = r.recordingBytes

/-- After a purge pointers and objects belong together. -/
structure PurgeSound (db : Db) (now : Time) (retention : Int) (attempts : ℕ → Attempt) :
    Prop where
  /-- A session whose object was removed is never listed with a recording. -/
  removed_unlisted : ∀ c ∈ (runRecordingGC db now retention attempts).calls, c.removed = true →
    ∀ t q items, list (runRecordingGC db now retention attempts).db t q = .ok items →
      ∀ s ∈ items, s.id = c.recording.sessionID → s.hasRecording = false
  /-- A session whose object was not removed keeps its pointer. -/
  failed_kept : ∀ c ∈ (runRecordingGC db now retention attempts).calls, c.removed = false →
    ∀ r ∈ db.terminalSession, r.id.toText = c.recording.sessionID →
      KeepsPointer r (runRecordingGC db now retention attempts).db
  /-- A session that is newer than the cutoff keeps its pointer. -/
  newer_kept : ∀ r ∈ db.terminalSession, now - retention ≤ r.startedAt →
    KeepsPointer r (runRecordingGC db now retention attempts).db
  /-- The next run does not remove an object a second time. -/
  not_again : ∀ c ∈ (runRecordingGC db now retention attempts).calls, c.removed = true →
    ∀ now' attempts', now ≤ now' →
      ∀ c' ∈ (runRecordingGC (runRecordingGC db now retention attempts).db now' retention
        attempts').calls, c'.recording.uri ≠ c.recording.uri

/-- No `RemoveObject` succeeds within `n` iterations, unless the context was cancelled before. -/
def NoneRemoved (n : ℕ) (attempts : ℕ → Attempt) : Prop :=
  ∀ i < n, attempts i = .removed → ∃ j < i, attempts j = .cancelled

/-! ### The loop -/

lemma noneRemoved_zero (attempts : ℕ → Attempt) : NoneRemoved 0 attempts :=
  fun _ hi => absurd hi (Nat.not_lt_zero _)

lemma noneRemoved_of_cancelled {n : ℕ} {attempts : ℕ → Attempt} (h : attempts 0 = .cancelled) :
    NoneRemoved n attempts := by
  intro i _ hi
  refine ⟨0, Nat.pos_of_ne_zero ?_, h⟩
  rintro rfl
  rw [h] at hi
  cases hi

lemma not_noneRemoved_of_removed {n : ℕ} {attempts : ℕ → Attempt} (h : attempts 0 = .removed) :
    ¬ NoneRemoved (n + 1) attempts := by
  intro hnone
  obtain ⟨j, hj, -⟩ := hnone 0 (Nat.succ_pos n) h
  exact Nat.not_lt_zero j hj

lemma noneRemoved_of_failed {n : ℕ} {attempts : ℕ → Attempt} (h : attempts 0 = .failed) :
    NoneRemoved (n + 1) attempts ↔ NoneRemoved n fun i => attempts (i + 1) := by
  constructor
  · intro hnone i hi hremoved
    obtain ⟨j, hj, hc⟩ := hnone (i + 1) (by omega) hremoved
    cases j with
    | zero =>
      rw [h] at hc
      cases hc
    | succ j => exact ⟨j, by omega, hc⟩
  · intro hnone i hi hremoved
    cases i with
    | zero =>
      rw [h] at hremoved
      cases hremoved
    | succ i =>
      obtain ⟨j, hj, hc⟩ := hnone i (by omega) hremoved
      exact ⟨j + 1, by omega, hc⟩

/-- The recordings are of sessions in the table. -/
def OfSessions (db : Db) (recs : List ExpiredRecording) : Prop :=
  ∀ rec ∈ recs, ∃ r ∈ db.terminalSession, rec.sessionID = r.id.toText

/-- Every clearing statement is refused, so the loop changes no row. -/
lemma purgeLoop_db {db : Db} {recs : List ExpiredRecording} (h : OfSessions db recs)
    (attempts : ℕ → Attempt) :
    (purgeLoop db recs attempts).db = db ∧ (purgeLoop db recs attempts).purged = 0 := by
  induction recs generalizing attempts with
  | nil => exact ⟨rfl, rfl⟩
  | cons rec rest ih =>
    have hrest := ih fun rec' hrec' => h rec' (List.mem_cons_of_mem _ hrec')
    obtain ⟨r, hr, hid⟩ := h rec List.mem_cons_self
    rw [purgeLoop]
    cases attempts 0 with
    | cancelled => exact ⟨rfl, rfl⟩
    | failed => exact hrest _
    | removed =>
      rw [hid, clearRecording_refused hr]
      exact hrest _

/-- The loop calls `RemoveObject` for selected recordings only. -/
lemma mem_of_purgeLoop_calls {db : Db} {recs : List ExpiredRecording} (h : OfSessions db recs)
    {attempts : ℕ → Attempt} {c : RemoveCall} (hc : c ∈ (purgeLoop db recs attempts).calls) :
    c.recording ∈ recs := by
  induction recs generalizing attempts with
  | nil => cases hc
  | cons rec rest ih =>
    have hrest := fun rec' hrec' => h rec' (List.mem_cons_of_mem rec hrec')
    obtain ⟨r, hr, hid⟩ := h rec List.mem_cons_self
    rw [purgeLoop] at hc
    cases hat : attempts 0 with
    | cancelled =>
      rw [hat] at hc
      cases hc
    | failed =>
      rw [hat] at hc
      rcases List.mem_cons.mp hc with rfl | hc
      · exact List.mem_cons_self
      · exact List.mem_cons_of_mem _ (ih hrest hc)
    | removed =>
      rw [hat, hid, clearRecording_refused hr] at hc
      rcases List.mem_cons.mp hc with rfl | hc
      · exact List.mem_cons_self
      · exact List.mem_cons_of_mem _ (ih hrest hc)

/-- Some call succeeds exactly when the attempts have a success that the loop reaches. -/
lemma exists_removed_iff {db : Db} {recs : List ExpiredRecording} (h : OfSessions db recs)
    (attempts : ℕ → Attempt) :
    (∃ c ∈ (purgeLoop db recs attempts).calls, c.removed = true) ↔
      ¬ NoneRemoved recs.length attempts := by
  induction recs generalizing attempts with
  | nil => simp [purgeLoop, noneRemoved_zero]
  | cons rec rest ih =>
    have hrest := ih fun rec' hrec' => h rec' (List.mem_cons_of_mem _ hrec')
    obtain ⟨r, hr, hid⟩ := h rec List.mem_cons_self
    rw [purgeLoop, List.length_cons]
    cases hat : attempts 0 with
    | cancelled => simp [noneRemoved_of_cancelled hat]
    | failed =>
      rw [noneRemoved_of_failed hat, ← hrest]
      simp [PurgeRun.after]
    | removed =>
      rw [hid, clearRecording_refused hr]
      exact iff_of_true ⟨_, List.mem_cons_self, rfl⟩ (not_noneRemoved_of_removed hat)

lemma ofSessions_expiredRecordings (db : Db) (cutoff : Time) (limit : Int) :
    OfSessions db (expiredRecordings db cutoff limit) := by
  intro rec hrec
  obtain ⟨r, hr, -, -, rfl⟩ := mem_expiredRecordings hrec
  exact ⟨r, hr, rfl⟩

/-! ### The purge -/

lemma runRecordingGC_db (db : Db) (now : Time) (retention : Int) (attempts : ℕ → Attempt) :
    (runRecordingGC db now retention attempts).db = db :=
  (purgeLoop_db (ofSessions_expiredRecordings db _ _) attempts).1

/-- **The purge of recordings** keeps pointers and objects together exactly when it removes no
object: as soon as one `RemoveObject` succeeds, the pointer to the object stays. -/
theorem purgeSound_iff_noneRemoved (db : Db) (now : Time) (retention : Int)
    (attempts : ℕ → Attempt) :
    PurgeSound db now retention attempts ↔
      NoneRemoved (expiredRecordings db (now - retention) 500).length attempts := by
  have hof := ofSessions_expiredRecordings db (now - retention) 500
  have hkept : ∀ r ∈ db.terminalSession,
      KeepsPointer r (runRecordingGC db now retention attempts).db := by
    intro r hr
    rw [runRecordingGC_db]
    exact ⟨r, hr, rfl, rfl, rfl⟩
  constructor
  · intro hsound
    by_contra hsome
    obtain ⟨c, hc, hremoved⟩ := (exists_removed_iff hof attempts).mpr hsome
    obtain ⟨r, hr, huri, -, hrec⟩ := mem_expiredRecordings (mem_of_purgeLoop_calls hof hc)
    -- the row still has its pointer, and some page of the list shows it
    obtain ⟨q, items, hlist, hitem⟩ := exists_list hr now
    rw [← runRecordingGC_db db now retention attempts] at hlist
    have hfalse :=
      hsound.removed_unlisted c hc hremoved now q items hlist _ hitem (by rw [hrec]; rfl)
    exact huri (by simpa [SessionRow.toSession] using hfalse)
  · intro hnone
    have hno : ∀ c ∈ (runRecordingGC db now retention attempts).calls, c.removed ≠ true := by
      intro c hc hremoved
      exact (exists_removed_iff hof attempts).mp ⟨c, hc, hremoved⟩ hnone
    refine ⟨?_, ?_, ?_, ?_⟩
    · intro c hc hremoved
      exact absurd hremoved (hno c hc)
    · intro c _ _ r hr _
      exact hkept r hr
    · intro r hr _
      exact hkept r hr
    · intro c hc hremoved
      exact absurd hremoved (hno c hc)

/-- One session with a recording, started at instant 0. -/
def oneRecorded : Db :=
  { terminalSession := [{ id := Uuid.replicate 7, userId := "u", assetId := Uuid.replicate 2,
                          startedAt := 0, recordingUri := "ssh/7.cast", recordingBytes := 10 }] }

/-- The object is removed, the session still shows a recording, and the next run removes the
object again. -/
theorem pointer_outlives_object :
    (runRecordingGC oneRecorded 100 50 fun _ => .removed).calls =
        [⟨⟨(Uuid.replicate 7).toText, "ssh/7.cast"⟩, true⟩] ∧
      (runRecordingGC (runRecordingGC oneRecorded 100 50 fun _ => .removed).db 100 50
        fun _ => .removed).calls = [⟨⟨(Uuid.replicate 7).toText, "ssh/7.cast"⟩, true⟩] ∧
      ¬ PurgeSound oneRecorded 100 50 fun _ => .removed := by
  have hcalls : (runRecordingGC oneRecorded 100 50 fun _ => .removed).calls =
      [⟨⟨(Uuid.replicate 7).toText, "ssh/7.cast"⟩, true⟩] := by rfl
  refine ⟨hcalls, ?_, ?_⟩
  · rw [runRecordingGC_db]
    exact hcalls
  · intro hsound
    have hagain := hsound.not_again _ (hcalls ▸ List.mem_singleton_self _) rfl 100
      (fun _ => .removed) le_rfl
    rw [runRecordingGC_db, hcalls] at hagain
    exact hagain _ (List.mem_singleton_self _) rfl

end OpsPlatform.Sessions
