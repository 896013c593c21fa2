/-
Which runs of a sync round are left running.

A run has three steps: its row is inserted, the resource is synced, and the row is finished.  The
last is a statement under the context of the round, so that a context that is cancelled behind the
insert leaves the row as it was inserted.
-/
import OpsPlatform.AwsSync.Service

namespace OpsPlatform.AwsSync

open Lib Lib.Table Aws

variable {env : SyncEnv} {db₀ : Db} {s : SyncState}

/-- The context is over when the row of the run is to be finished. -/
def CutOff (env : SyncEnv) (a : Attempt) : Prop := env.ctx.isOver (a.step + 2) = true

/-- The row says how the run went. -/
structure Finished (a : Attempt) (row : SyncRunRow) : Prop where
  finishedAt : row.finishedAt ≠ none
  status : row.status = "success" ∨ row.status = "failed"
  success : row.status = "success" ↔ a.err = none

/-- What the row of a run is after its three steps. -/
structure Recorded (env : SyncEnv) (a : Attempt) (row : SyncRunRow) : Prop where
  running : CutOff env a → row.status = "running" ∧ row.finishedAt = none
  finished : ¬ CutOff env a → Finished a row

lemma Recorded.finished_iff {a : Attempt} {row : SyncRunRow} (h : Recorded env a row) :
    Finished a row ↔ ¬ CutOff env a := by
  refine ⟨fun hfinished hcut => ?_, h.finished⟩
  exact hfinished.finishedAt (h.running hcut).2

/-- The table holds the rows of before and, after them, those of the runs as they went. -/
structure Runs (env : SyncEnv) (db₀ : Db) (s : SyncState) : Prop where
  ids : s.db.awsSyncRun.map (·.id) = db₀.awsSyncRun.map (·.id) ++ s.attempts.map (·.runID)
  recorded : ∀ a ∈ s.attempts, ∀ row ∈ s.db.awsSyncRun, row.id = a.runID → Recorded env a row

/-- Only the tables of runs and the attempts matter. -/
lemma Runs.congr {s' : SyncState} (h : Runs env db₀ s)
    (hrows : s'.db.awsSyncRun = s.db.awsSyncRun) (hattempts : s'.attempts = s.attempts) :
    Runs env db₀ s' where
  ids := by rw [hrows, hattempts, h.ids]
  recorded := by rw [hrows, hattempts]; exact h.recorded

/-! ### The statements -/

/-- A row was inserted with a new id. -/
lemma startSyncRun_eq_ok {step : ℕ} {db db' : Db} {accountUUID runID : Uuid}
    {region resourceType : String}
    (h : startSyncRun env step db accountUUID region resourceType = .ok (db', runID)) :
    (∀ row ∈ db.awsSyncRun, row.id ≠ runID) ∧
      ∃ row : SyncRunRow, row.id = runID ∧ row.status = "running" ∧ row.finishedAt = none ∧
        db'.awsSyncRun = db.awsSyncRun ++ [row] := by
  rw [startSyncRun, Ctx.exec_eq_ok] at h
  obtain ⟨-, h⟩ := h
  split at h
  · cases h
  · rw [Except.ite_error_eq_ok] at h
    obtain ⟨hfresh, h⟩ := h
    obtain ⟨rfl, rfl⟩ := Prod.mk.inj (Except.ok.inj h)
    refine ⟨?_, _, rfl, rfl, rfl, rfl⟩
    simpa using hfresh

/-- The row of the run is finished, unless the context is over. -/
lemma finishSyncRun_cases (env : SyncEnv) (step : ℕ) (db : Db) (runID : Uuid) (err : Option String)
    (n : Int) :
    (env.ctx.isOver step = true ∧
        ∃ e, finishSyncRun env step db runID (statusOf err).1 n (statusOf err).2 = .error e) ∨
      (env.ctx.isOver step = false ∧ ∃ db' : Db, ∃ edit : SyncRunRow → SyncRunRow,
        finishSyncRun env step db runID (statusOf err).1 n (statusOf err).2 = .ok db' ∧
        db'.awsSyncRun = updateWhere (·.id == runID) edit db.awsSyncRun ∧
        ∀ row, (edit row).id = row.id ∧ (edit row).finishedAt ≠ none ∧
          (edit row).status = (statusOf err).1) := by
  have hstatus : (if (statusOf err).1 = "" then "success" else (statusOf err).1) =
      (statusOf err).1 := by
    cases err <;> rfl
  rw [finishSyncRun, Ctx.exec]
  cases hover : env.ctx.isOver step with
  | true => exact Or.inl ⟨rfl, _, if_pos rfl⟩
  | false =>
    refine Or.inr ⟨rfl, _, _, if_neg (by simp), rfl, fun row => ⟨rfl, by simp, ?_⟩⟩
    exact hstatus

lemma finished_of_status {a : Attempt} {row : SyncRunRow} (hfinished : row.finishedAt ≠ none)
    (hstatus : row.status = (statusOf a.err).1) : Finished a row := by
  cases herr : a.err with
  | none =>
    rw [herr] at hstatus
    exact ⟨hfinished, Or.inl hstatus, by simp [herr, hstatus, statusOf]⟩
  | some e =>
    rw [herr] at hstatus
    exact ⟨hfinished, Or.inr hstatus, by simp [herr, hstatus, statusOf]⟩

/-! ### The loops -/

/-- A run with a new id is added. -/
lemma Runs.snoc {s' : SyncState} {a : Attempt} {row : SyncRunRow} (h : Runs env db₀ s)
    (hfresh : ∀ r ∈ s.db.awsSyncRun, r.id ≠ a.runID) (hid : row.id = a.runID)
    (hrecorded : Recorded env a row) (hrows : s'.db.awsSyncRun = s.db.awsSyncRun ++ [row])
    (hattempts : s'.attempts = s.attempts ++ [a]) : Runs env db₀ s' where
  ids := by
    rw [hrows, hattempts, List.map_append, List.map_append, h.ids, List.append_assoc]
    simp [hid]
  recorded := by
    rw [hrows, hattempts]
    intro b hb r hr hrb
    rcases List.mem_append.mp hb with hb | hb
    · rcases List.mem_append.mp hr with hr | hr
      · exact h.recorded b hb r hr hrb
      · -- the new row would have the id of an old one
        obtain rfl := List.mem_singleton.mp hr
        have hmem : b.runID ∈ s.db.awsSyncRun.map (·.id) := by
          rw [h.ids]
          exact List.mem_append_right _ (List.mem_map_of_mem hb)
        obtain ⟨r', hr', hr'b⟩ := List.mem_map.mp hmem
        exact absurd (hr'b.trans (hrb.symm.trans hid)) (hfresh r' hr')
    · obtain rfl := List.mem_singleton.mp hb
      rcases List.mem_append.mp hr with hr | hr
      · exact absurd hrb (hfresh r hr)
      · exact List.mem_singleton.mp hr ▸ hrecorded

/-- One resource. -/
lemma Runs.syncResource (h : Runs env db₀ s) (account : SyncAccount) (region : String)
    (sess : Session) (name : String) :
    Runs env db₀ (syncResource env account region sess s name) := by
  rw [AwsSync.syncResource]
  split
  · exact h.congr rfl rfl
  · next db runID hstart =>
    obtain ⟨hfresh, row, hid, hrunning, hopen, hrows⟩ := startSyncRun_eq_ok hstart
    have hresource := (env.resource_syncRun (s.step + 1) name sess db).trans hrows
    generalize env.resource (s.step + 1) name sess db = result at hresource ⊢
    simp only
    rcases finishSyncRun_cases env (s.step + 2) result.1 runID result.2.2 result.2.1 with
      ⟨hover, e, hfinish⟩ | ⟨hover, db', edit, hfinish, hdb', hedit⟩
    · rw [hfinish]
      refine h.snoc (a := ⟨runID, s.step, result.2.2⟩) hfresh hid ?_ hresource rfl
      exact ⟨fun _ => ⟨hrunning, hopen⟩, fun hcut => absurd hover hcut⟩
    · rw [hfinish]
      have hid' : (edit row).id = runID := (hedit row).1.trans hid
      refine h.snoc (a := ⟨runID, s.step, result.2.2⟩) hfresh hid' ?_ ?_ rfl
      · refine ⟨fun hcut => ?_, fun _ => finished_of_status (hedit row).2.1 (hedit row).2.2⟩
        rw [CutOff, hover] at hcut
        cases hcut
      · have hothers : updateWhere (·.id == runID) edit s.db.awsSyncRun = s.db.awsSyncRun := by
          rw [updateWhere]
          conv_rhs => rw [← List.map_id s.db.awsSyncRun]
          exact List.map_congr_left fun r hr => if_neg (by simpa using hfresh r hr)
        change db'.awsSyncRun = _
        rw [hdb', hresource, updateWhere, List.map_append, ← updateWhere, hothers,
          List.map_singleton, if_pos (by simp [hid])]

lemma Runs.syncAccountRegion (h : Runs env db₀ s) (account : SyncAccount) (region : String) :
    Runs env db₀ (syncAccountRegion env account region s) := by
  rw [AwsSync.syncAccountRegion]
  split
  · exact h.congr rfl rfl
  · next sess _ =>
    exact List.foldlRecOn resourceSyncs _ h fun s hs name _ =>
      hs.syncResource account region sess name

lemma Runs.checkDone (h : Runs env db₀ s) : Runs env db₀ (Except.final (checkDone env s)) := by
  rw [AwsSync.checkDone, Ctx.exec]
  split
  · exact h
  · exact h.congr rfl rfl

/-- A round of the inner loop, also when it returns. -/
lemma Runs.syncRegion (h : Runs env db₀ s) (account : SyncAccount) (region : String) :
    Runs env db₀ (Except.final (syncRegion env account s region)) := by
  rw [AwsSync.syncRegion]
  refine Except.final_bind h.checkDone fun s' h' => ?_
  split
  · exact h'
  · exact h'.syncAccountRegion account _

/-- A round of the outer loop. -/
lemma Runs.syncAccount (h : Runs env db₀ s) (account : SyncAccount) :
    Runs env db₀ (Except.final (syncAccount env s account)) := by
  rw [AwsSync.syncAccount]
  refine Except.final_bind h.checkDone fun s' h' => ?_
  exact Except.final_foldlM (fun s region hs => hs.syncRegion account region) h' _

/-- The whole round. -/
lemma runs_runOnce (env : SyncEnv) (db : Db) : Runs env db (runOnce env db).1 := by
  have hstart : Runs env db { db, step := 1 } := ⟨by simp, by simp⟩
  rw [runOnce]
  split
  · exact hstart
  · next accounts _ =>
    split
    · exact hstart
    · have hloop := Except.final_foldlM (I := Runs env db) (f := syncAccount env)
        (fun s account hs => hs.syncAccount account) hstart accounts
      split
      · next s hs =>
        rw [hs] at hloop
        exact hloop
      · next s hs =>
        rw [hs] at hloop
        have hrelations : Runs env db (s.after "sync relations: " env.relations) :=
          hloop.congr (env.relations_syncRun _ _) rfl
        cases hreapply : env.reapply with
        | none => exact hrelations
        | some f => exact hrelations.congr (env.reapply_syncRun f hreapply _ _) rfl

/-- **The runs of a round.**  The rows that a round inserts are those of its runs, and when it
returns all of them are finished as their syncs went exactly when the context was never over at the
step that finishes a row. -/
theorem runs_finished_iff (env : SyncEnv) (db : Db) :
    (runOnce env db).1.db.awsSyncRun.map (·.id) =
        db.awsSyncRun.map (·.id) ++ (runOnce env db).1.attempts.map (·.runID) ∧
      ((∀ a ∈ (runOnce env db).1.attempts, ∀ row ∈ (runOnce env db).1.db.awsSyncRun,
          row.id = a.runID → Finished a row) ↔
        ∀ a ∈ (runOnce env db).1.attempts, ¬ CutOff env a) := by
  have hruns := runs_runOnce env db
  refine ⟨hruns.ids, ?_⟩
  constructor
  · intro hfinished a ha
    have hmem : a.runID ∈ (runOnce env db).1.db.awsSyncRun.map (·.id) := by
      rw [hruns.ids]
      exact List.mem_append_right _ (List.mem_map_of_mem ha)
    obtain ⟨row, hrow, hid⟩ := List.mem_map.mp hmem
    exact (hruns.recorded a ha row hrow hid).finished_iff.mp (hfinished a ha row hrow hid)
  · intro hcut a ha row hrow hid
    exact (hruns.recorded a ha row hrow hid).finished_iff.mpr (hcut a ha)

/-- One account with keys and a region. -/
def oneAccount : Db :=
  { awsAccount := [{ id := Uuid.replicate 1, accountId := "111", displayName := "prod",
                     authMode := "static", accessKeyId := some "AKIA",
                     secretAccessKeyEncrypted := some "1:s3cr3t",
                     regionAllowlist := some ["eu-west-1"] }] }

/-- The worker is told to stop while it lists the instances of the region. -/
def stopped : SyncEnv where
  ctx := { endsAt := some 4 }
  cipher := Aws.plainCipher
  now _ := 7
  newId _ := Uuid.replicate 2
  sessionErrors _ := (none, none)
  insertError _ := none
  resource _ _ _ db := (db, 0, some "RequestCanceled: request context canceled")
  relations _ db := (db, some errCanceled)
  reapply := none
  resource_syncRun _ _ _ _ := rfl
  relations_syncRun _ _ := rfl
  reapply_syncRun _ h := by cases h

/-- Its first run is left running. -/
theorem stopped_left_running :
    (runOnce stopped oneAccount).1.db.awsSyncRun =
      [{ id := Uuid.replicate 2, accountId := Uuid.replicate 1, region := "eu-west-1",
         resourceType := "ec2_instance", status := "running", startedAt := 7 }] := by
  decide

end OpsPlatform.AwsSync
