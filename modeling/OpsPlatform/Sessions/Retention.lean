/-
The retention of recordings, from the environment to the purge (`Load` in
`internal/config/config.go`, `Router` in `internal/httpserver/server.go` and
`StartRecordingJanitor` in `internal/sessions/recordingjanitor.go`).

The configuration has a number of days of 64 bits.  It is made a duration before its sign is
checked, in nanoseconds, and a large one wraps around.
-/
import OpsPlatform.Config
import OpsPlatform.Sessions.RecordingJanitor

namespace OpsPlatform.Sessions

open Lib Lib.Table Lib.Strconv
open Config (defaultDuration)

/-- `time.Hour`. -/
def hour : ℤ := 3600 * second

/-- A day, in nanoseconds. -/
def day : ℤ := 24 * hour

/-- `StartRecordingJanitor`: the retention of the loop, when there is one. -/
def startRecordingJanitor (hasRepo hasPurger : Bool) (retention : ℤ) : Option ℤ :=
  if hasRepo = false ∨ hasPurger = false ∨ retention ≤ 0 then none else some retention

/-- `Router`, as far as it starts the loop; there may be no storage of recordings. -/
def routerJanitor (hasStorage : Bool) (cfg : OpsPlatform.Config) : Option ℤ :=
  if hasStorage then
    if cfg.recordingRetentionDays > 0 then
      startRecordingJanitor true true (int64 (int64 (cfg.recordingRetentionDays * 24) * hour))
    else none
  else none

/-- One run of the loop: the database that it meets, its time, and what becomes of its calls. -/
structure JanitorRun where
  db : Db
  now : Time
  attempts : ℕ → Attempt

/-- The calls of `RemoveObject` of a run. -/
def JanitorRun.calls (retention : Option ℤ) (run : JanitorRun) : List RemoveCall :=
  match retention with
  | none => []
  | some retention => (runRecordingGC run.db run.now retention run.attempts).calls

/-- No run removes the recording of a session that has started less than the configured number of
days before; and none removes anything when that number is zero. -/
structure YoungKept (cfg : OpsPlatform.Config) : Prop where
  young : ∀ hasStorage (run : JanitorRun), (run.db.terminalSession.map (·.id)).Nodup →
    ∀ c ∈ run.calls (routerJanitor hasStorage cfg), ∀ r ∈ run.db.terminalSession,
      c.recording.sessionID = r.id.toText → cfg.recordingRetentionDays * day ≤ run.now - r.startedAt
  forever : cfg.recordingRetentionDays = 0 → ∀ hasStorage (run : JanitorRun),
    run.calls (routerJanitor hasStorage cfg) = []

section

variable {cfg : OpsPlatform.Config}

/-- The retention of the loop is the number of days, as far as 64 bits go. -/
lemma routerJanitor_eq_some_iff {hasStorage : Bool} {retention : ℤ} :
    routerJanitor hasStorage cfg = some retention ↔
      hasStorage = true ∧ 0 < cfg.recordingRetentionDays ∧ 0 < retention ∧
        retention = int64 (cfg.recordingRetentionDays * day) := by
  have hproduct : int64 (int64 (cfg.recordingRetentionDays * 24) * hour) =
      int64 (cfg.recordingRetentionDays * day) := by
    rw [int64_mul_int64, day, Int.mul_assoc]
  rw [routerJanitor, startRecordingJanitor, hproduct]
  cases hasStorage with
  | false => simp
  | true =>
    by_cases hdays : 0 < cfg.recordingRetentionDays
    · by_cases hretention : int64 (cfg.recordingRetentionDays * day) ≤ 0
      · simp only [if_true, gt_iff_lt, hdays, hretention, or_true, true_and, reduceCtorEq,
          false_iff]
        rintro ⟨hpos, rfl⟩
        exact absurd hpos (not_lt.mpr hretention)
      · simp only [if_true, gt_iff_lt, hdays, hretention, or_false, Bool.true_eq_false, if_false,
          Option.some.injEq, true_and]
        constructor
        · rintro rfl
          exact ⟨not_le.mp hretention, rfl⟩
        · exact fun h => h.2.symm
    · simp [hdays]

/-- The sessions whose recordings a run removes are older than its retention. -/
lemma older_of_mem_calls {run : JanitorRun} {retention : ℤ}
    (hkeys : (run.db.terminalSession.map (·.id)).Nodup) {c : RemoveCall}
    (hc : c ∈ run.calls (some retention)) {r : SessionRow} (hr : r ∈ run.db.terminalSession)
    (hid : c.recording.sessionID = r.id.toText) : retention < run.now - r.startedAt := by
  obtain ⟨r', hr', -, hexpired, hrec⟩ :=
    mem_expiredRecordings (mem_of_purgeLoop_calls (ofSessions_expiredRecordings _ _ _) hc)
  rw [hrec] at hid
  obtain rfl := List.inj_on_of_nodup_map hkeys hr' hr (Uuid.toText_injective hid)
  exact Int.lt_sub_left_of_add_lt (Int.add_lt_of_lt_sub_right hexpired)

/-- Some run removes the recording of a session that is a little older than the retention. -/
lemma exists_removed (retention : ℤ) :
    ∃ run : JanitorRun, (run.db.terminalSession.map (·.id)).Nodup ∧
      ∃ c ∈ run.calls (some retention), ∃ r ∈ run.db.terminalSession,
        c.recording.sessionID = r.id.toText ∧ run.now - r.startedAt = retention + 1 := by
  have hcutoff : retention + 1 - retention = 1 := by omega
  have hcalls : (runRecordingGC oneRecorded (retention + 1) retention fun _ => .removed).calls =
      [⟨⟨(Uuid.replicate 7).toText, "ssh/7.cast"⟩, true⟩] := by
    rw [runRecordingGC, hcutoff]
    rfl
  refine ⟨⟨oneRecorded, retention + 1, fun _ => .removed⟩, List.nodup_singleton _,
    ⟨⟨(Uuid.replicate 7).toText, "ssh/7.cast"⟩, true⟩, ?_, _, List.mem_singleton_self _, rfl,
    Int.sub_zero (retention + 1)⟩
  rw [JanitorRun.calls, hcalls]
  exact List.mem_singleton_self _

end

/-- **When young recordings are kept.**  For a configuration that `Load` accepts, no run of the
janitor removes the recording of a session that is younger than the configured number of days if and
only if that many nanoseconds fit in 63 bits, or wrap around to a number that is not positive. -/
theorem young_recordings_kept_iff {parseDuration : String → Except Config.ParseError ℤ}
    {env : Config.Environment} {cfg : OpsPlatform.Config}
    (hload : Config.load parseDuration env = .ok cfg) :
    YoungKept cfg ↔ cfg.recordingRetentionDays ≤ 106751 ∨
      cfg.recordingRetentionDays * 86400000000000 % 2 ^ 64 = 0 ∨
      2 ^ 63 ≤ cfg.recordingRetentionDays * 86400000000000 % 2 ^ 64 := by
  have hday : day = 86400000000000 := by decide
  have hdays := (Config.load_eq_ok hload).recordingRetentionDays.1
  rw [← hday]
  have hexact : cfg.recordingRetentionDays ≤ 106751 ↔
      cfg.recordingRetentionDays * day < 2 ^ 63 := by
    rw [hday]
    omega
  have hnonneg : 0 ≤ cfg.recordingRetentionDays * day := by
    rw [hday]
    omega
  constructor
  · intro hkept
    by_contra hnot
    simp only [not_or, hexact, not_lt, not_le] at hnot
    obtain ⟨hlarge, hzero, hsmall⟩ := hnot
    have hpos : 0 < int64 (cfg.recordingRetentionDays * day) :=
      (int64_pos_iff _).mpr ⟨by omega, hsmall⟩
    have hshort := int64_of_le hlarge
    have hdays' : 0 < cfg.recordingRetentionDays := by
      by_contra hnone
      have hnone : cfg.recordingRetentionDays = 0 := by omega
      rw [hnone, Int.zero_mul] at hlarge
      omega
    -- a run meets a recording that is just older than the wrapped retention
    obtain ⟨run, hkeys, c, hc, r, hr, hid, hage⟩ :=
      exists_removed (int64 (cfg.recordingRetentionDays * day))
    have hloop : routerJanitor true cfg = some (int64 (cfg.recordingRetentionDays * day)) :=
      routerJanitor_eq_some_iff.mpr ⟨rfl, hdays', hpos, rfl⟩
    have hyoung := hkept.young true run hkeys c (hloop ▸ hc) r hr hid
    rw [hage] at hyoung
    omega
  · intro hcond
    constructor
    · intro hasStorage run hkeys c hc r hr hid
      cases hloop : routerJanitor hasStorage cfg with
      | none =>
        rw [hloop] at hc
        cases hc
      | some retention =>
        rw [hloop] at hc
        obtain ⟨-, -, hpos, rfl⟩ := routerJanitor_eq_some_iff.mp hloop
        have hold := older_of_mem_calls hkeys hc hr hid
        rw [int64_pos_iff] at hpos
        -- the product fits, or the janitor would not have been started
        rcases hcond with hfits | hzero | hnegative
        · rw [int64_eq_self ⟨by omega, hexact.mp hfits⟩] at hold
          exact hold.le
        · omega
        · omega
    · intro hzero hasStorage run
      cases hloop : routerJanitor hasStorage cfg with
      | none => rfl
      | some retention =>
        obtain ⟨-, hdays', -⟩ := routerJanitor_eq_some_iff.mp hloop
        omega

/-- An environment with the number of days. -/
def retentionVars (days : String) : Config.Environment :=
  Config.varsWith "OPS_RECORDING_RETENTION_DAYS" days

/-- 213504 days, some 584 years, are a retention of 25 minutes: the recording of a session that has
started an hour ago is removed. -/
theorem long_retention_removes_young_recording :
    ∃ cfg, Config.load defaultDuration (retentionVars "213504") = .ok cfg ∧
      cfg.recordingRetentionDays = 213504 ∧
      routerJanitor true cfg = some 1526290448384 ∧
      (JanitorRun.mk oneRecorded hour fun _ => .removed).calls (routerJanitor true cfg) =
        [⟨⟨(Uuid.replicate 7).toText, "ssh/7.cast"⟩, true⟩] := by
  obtain ⟨cfg, hload, hdays⟩ : ∃ cfg,
      Config.load defaultDuration (retentionVars "213504") = .ok cfg ∧
        cfg.recordingRetentionDays = 213504 := ⟨_, rfl, rfl⟩
  have hloop : routerJanitor true cfg = some 1526290448384 := by
    rw [routerJanitor_eq_some_iff, hdays]
    decide
  have hrun : (runRecordingGC oneRecorded hour 1526290448384 fun _ => .removed).calls =
      [⟨⟨(Uuid.replicate 7).toText, "ssh/7.cast"⟩, true⟩] := by
    decide
  refine ⟨cfg, hload, hdays, hloop, ?_⟩
  rw [hloop]
  exact hrun

theorem young_recordings_kept_iff_month :
    ∃ cfg, Config.load defaultDuration (retentionVars "30") = .ok cfg ∧
      cfg.recordingRetentionDays = 30 ∧ YoungKept cfg := by
  obtain ⟨cfg, hload, hdays⟩ : ∃ cfg, Config.load defaultDuration (retentionVars "30") = .ok cfg ∧
      cfg.recordingRetentionDays = 30 := ⟨_, rfl, rfl⟩
  refine ⟨cfg, hload, hdays, (young_recordings_kept_iff hload).mpr (Or.inl ?_)⟩
  rw [hdays]
  decide

end OpsPlatform.Sessions
