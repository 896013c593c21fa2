/-
The recording as a prefix of what was sent (`internal/guacproxy/recorder.go`).

`Write` drops an instruction that would cross the cap and all that follow, so that the file stays
a prefix.  After a file write that failed it goes on as if nothing had happened: what was stored
of the instruction stays in the file, and the next instructions are stored behind it.
-/
import OpsPlatform.GuacProxy.Relay

namespace OpsPlatform.GuacProxy

open Lib Lib.Run Lib.Utf8

/-- A call of `Write`, with what meets its file write: one that fails has stored `failsAfter`
bytes of the payload. -/
structure WriteCall where
  payload : Bytes
  failsAfter : Option ℕ := none

/-- The bytes that the file write stores. -/
def WriteCall.stored (c : WriteCall) : Bytes :=
  c.payload.take (c.failsAfter.getD c.payload.length)

/-- `NewRecorder`. -/
def newRecorder (maxBytes : Int) : Recorder := { maxBytes }

/-- A recorder, with the payloads of the calls that were made. -/
structure Recording where
  recorder : Option Recorder
  payloads : List Bytes := []

def Recording.step (s : Recording) (c : WriteCall) : Recording :=
  { recorder := Recorder.write s.recorder c.payload c.failsAfter
    payloads := s.payloads ++ [c.payload] }

/-- A recorder with the cap, after the calls. -/
def recorded (maxBytes : Int) (calls : List WriteCall) : Recording :=
  run Recording.step { recorder := some (newRecorder maxBytes) } calls

/-- The file is the concatenation of the first payloads. -/
def Recording.Whole (s : Recording) : Prop :=
  ∀ r, s.recorder = some r → ∃ k, r.file = (s.payloads.take k).flatten

/-- The call comes to its file write. -/
def Recorder.Takes (r : Recorder) (payload : Bytes) : Prop :=
  payload.length ≠ 0 ∧ ¬ (r.closed = true ∨ r.truncated = true) ∧
    ¬ (0 < r.maxBytes ∧ r.maxBytes < r.written + payload.length)

instance (r : Recorder) (payload : Bytes) : Decidable (r.Takes payload) :=
  inferInstanceAs (Decidable (_ ∧ _ ∧ _))

/-- A file write stores nothing, or it stores the whole payload behind all earlier ones. -/
def Recording.Allowed (s : Recording) (c : WriteCall) : Prop :=
  ∀ r, s.recorder = some r → r.Takes c.payload →
    c.stored = [] ∨ (r.file = s.payloads.flatten ∧ c.stored = c.payload)

/-! ### One call -/

section

variable {r : Recorder} {s : Recording} {c : WriteCall}

lemma write_of_takes (h : r.Takes c.payload) :
    Recorder.write (some r) c.payload c.failsAfter =
      some { r with file := r.file ++ c.stored, written := r.written + c.stored.length } := by
  obtain ⟨hne, hopen, hcap⟩ := h
  rw [Recorder.write, Option.map_some, if_neg hne, if_neg hopen, if_neg hcap]
  rfl

/-- A call that does not come to its file write leaves the file as it is. -/
lemma write_of_not_takes (h : ¬ r.Takes c.payload) :
    ∃ truncated, Recorder.write (some r) c.payload c.failsAfter =
      some { r with truncated := truncated } := by
  rw [Recorder.write, Option.map_some]
  split
  · exact ⟨r.truncated, rfl⟩
  · next hne =>
    split
    · exact ⟨r.truncated, rfl⟩
    · next hopen =>
      split
      · exact ⟨true, rfl⟩
      · next hcap => exact absurd ⟨hne, hopen, hcap⟩ h

/-- The size of the file is counted, and within the cap. -/
structure Recorder.Counted (maxBytes : Int) (r : Recorder) : Prop where
  maxBytes_eq : r.maxBytes = maxBytes
  written_eq : r.written = r.file.length
  within : 0 < maxBytes → (r.file.length : Int) ≤ maxBytes

lemma length_stored_le (c : WriteCall) : c.stored.length ≤ c.payload.length := by
  rw [WriteCall.stored, List.length_take]
  omega

lemma Recorder.Counted.write {maxBytes : Int} (h : r.Counted maxBytes) (c : WriteCall) :
    ∃ r', Recorder.write (some r) c.payload c.failsAfter = some r' ∧ r'.Counted maxBytes := by
  by_cases htakes : r.Takes c.payload
  · refine ⟨_, write_of_takes htakes, h.maxBytes_eq, ?_, ?_⟩
    · simp [h.written_eq]
    · intro hpos
      have hcap := htakes.2.2
      rw [h.maxBytes_eq, h.written_eq] at hcap
      have hstored := length_stored_le c
      rw [List.length_append]
      omega
  · obtain ⟨truncated, hwrite⟩ := write_of_not_takes (c := c) htakes
    exact ⟨_, hwrite, h.maxBytes_eq, h.written_eq, h.within⟩

lemma Recording.Whole.step (h : s.Whole) (hallowed : s.Allowed c) : (s.step c).Whole := by
  intro r' hr'
  cases hr : s.recorder with
  | none =>
    rw [Recording.step, hr] at hr'
    cases hr'
  | some r =>
    obtain ⟨k, hk⟩ := h r hr
    rw [Recording.step, hr] at hr'
    -- the same payloads as before, without the new one
    have hsame : r.file = ((s.payloads ++ [c.payload]).take (min k s.payloads.length)).flatten := by
      rw [List.take_append_of_le_length (Nat.min_le_right _ _), ← List.take_take,
        List.take_length, hk]
    by_cases htakes : r.Takes c.payload
    · rw [write_of_takes htakes] at hr'
      obtain rfl := Option.some.inj hr'
      rcases hallowed r hr htakes with hnothing | ⟨hall, hwhole⟩
      · refine ⟨min k s.payloads.length, ?_⟩
        rw [hnothing, List.append_nil]
        exact hsame
      · refine ⟨s.payloads.length + 1, ?_⟩
        rw [hwhole, hall, Recording.step, List.take_of_length_le (by simp)]
        simp
    · obtain ⟨truncated, hwrite⟩ := write_of_not_takes (c := c) htakes
      rw [hwrite] at hr'
      obtain rfl := Option.some.inj hr'
      exact ⟨min k s.payloads.length, hsame⟩

/-- A file write that stores a part of its payload behind all earlier ones breaks the file. -/
lemma not_whole_of_short (hr : s.recorder = some r) (hall : r.file = s.payloads.flatten)
    (htakes : r.Takes c.payload) (hsome : c.stored ≠ []) (hshort : c.stored ≠ c.payload) :
    ¬ (s.step c).Whole := by
  intro h
  obtain ⟨k, hk⟩ := h _ (by rw [Recording.step, hr]; exact write_of_takes htakes)
  have hlength := congrArg List.length hk
  rw [hall, Recording.step, List.length_append] at hlength
  have hpos : 0 < c.stored.length := List.length_pos_iff.mpr hsome
  have hlt : c.stored.length < c.payload.length := by
    refine Nat.lt_of_le_of_ne (length_stored_le c) fun heq => hshort ?_
    exact (List.take_prefix _ _).eq_of_length heq
  by_cases hk' : k ≤ s.payloads.length
  · -- the first payloads are no longer than all that came before
    rw [List.take_append_of_le_length hk'] at hlength
    have hsplit : s.payloads.flatten.length =
        (s.payloads.take k).flatten.length + (s.payloads.drop k).flatten.length := by
      rw [← List.length_append, ← List.flatten_append, List.take_append_drop]
    omega
  · have hle : (s.payloads ++ [c.payload]).length ≤ k := by
      rw [List.length_append, List.length_singleton]
      omega
    rw [List.take_of_length_le hle, List.flatten_append, List.flatten_singleton,
      List.length_append] at hlength
    omega

end

/-- **The recording is a prefix.**  For every cap and every sequence of calls, the file never
outgrows the cap.  It is the concatenation of the first payloads after each call if every file
write that stores anything stores its whole payload behind all earlier ones; and a write that
stores only a part of its payload there breaks it. -/
theorem whole_of_allowed (maxBytes : Int) :
    (∀ calls, ∃ r, (recorded maxBytes calls).recorder = some r ∧
      (0 < maxBytes → (r.file.length : Int) ≤ maxBytes)) ∧
    (∀ calls, Along Recording.step Recording.Allowed
        { recorder := some (newRecorder maxBytes) } calls → (recorded maxBytes calls).Whole) ∧
    ∀ (s : Recording) r c, s.recorder = some r → r.file = s.payloads.flatten →
      r.Takes c.payload → c.stored ≠ [] → c.stored ≠ c.payload → ¬ (s.step c).Whole := by
  refine ⟨?_, ?_, fun s r c => not_whole_of_short⟩
  · intro calls
    have hcounted : ∃ r, (recorded maxBytes calls).recorder = some r ∧ r.Counted maxBytes := by
      refine invariant (I := fun s : Recording =>
        ∃ r, s.recorder = some r ∧ r.Counted maxBytes) ?_ ?_ calls
      · rintro s c ⟨r, hr, hcounted⟩
        rw [Recording.step, hr]
        exact hcounted.write c
      · exact ⟨_, rfl, rfl, rfl, fun hpos => Int.le_of_lt hpos⟩
    obtain ⟨r, hr, hcounted⟩ := hcounted
    exact ⟨r, hr, hcounted.within⟩
  · intro calls hok
    refine invariant_along (I := Recording.Whole) (fun s c h hc => h.step hc) ?_ hok
    rintro r ⟨⟩
    exact ⟨0, rfl⟩

/-- The bytes of two instructions. -/
def sync : Bytes := ascii "4.sync;".toList

def nop : Bytes := ascii "3.nop;".toList

/-- The second instruction would cross the cap, and nothing is stored after it. -/
theorem whole_twoUnderCap :
    (recorded 10 [{ payload := sync }, { payload := nop }]).recorder.map (·.file) = some sync ∧
      (recorded 10 [{ payload := sync }, { payload := nop }]).Whole := by
  refine ⟨by decide, (whole_of_allowed 10).2.1 _ ⟨?_, ?_, trivial⟩⟩
  · rintro r ⟨⟩ -
    exact Or.inr ⟨rfl, by decide⟩
  · rintro r ⟨⟩ htakes
    exact absurd htakes.2.2 (by decide)

/-- The disk is full in the middle of an instruction; or it is full for the first instruction
and has room again for the second. -/
theorem failed_write_breaks_file :
    ¬ (recorded 0 [{ payload := sync, failsAfter := some 2 }]).Whole ∧
      ¬ (recorded 0 [{ payload := sync, failsAfter := some 0 }, { payload := nop }]).Whole := by
  refine ⟨?_, ?_⟩
  · exact not_whole_of_short (s := { recorder := some (newRecorder 0) }) rfl rfl (by decide)
      (by decide) (by decide)
  · intro h
    obtain ⟨k, hk⟩ := h _ rfl
    rcases k with _ | _ | k
    · exact absurd hk (by decide)
    · exact absurd hk (by decide)
    · have hall : [sync, nop].take (k + 2) = [sync, nop] :=
        List.take_of_length_le (Nat.le_add_left 2 k)
      exact absurd (hk.trans (congrArg List.flatten hall)) (by decide)

end OpsPlatform.GuacProxy
