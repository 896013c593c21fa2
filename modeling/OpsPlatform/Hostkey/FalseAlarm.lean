/-
Rejected keys and the pin (`Callback`, `RecordMismatch` and `ConsumeOverride` in
`internal/hostkey`).

A callback decides to reject from a pin that it has read, and stamps the row two statements
later without another look at the pin.  When the pin becomes the offered key in between, the key
is rejected while it is the pinned one, and the row keeps an alarm about its own pin.
-/
import OpsPlatform.Hostkey.Verifier

namespace OpsPlatform.Hostkey

open Lib Lib.Run

/-- The row has no alarm about the key that it pins. -/
def Row.NoAlarm (r : Row) : Prop :=
  r.lastMismatchFingerprint = "" ∨ r.lastMismatchFingerprint ≠ r.fingerprintSHA256

/-- The row has no alarm about its own pin, and no callback is about to record a mismatch for
it. -/
structure Honest (s : State) : Prop where
  row : ∀ r, s.row = some r → r.NoAlarm
  reject : ∀ c cb existing, s.callbacks c = some cb → cb.pc = .recordMismatch existing →
    ∀ r, s.row = some r → r.fingerprintSHA256 ≠ cb.offer.fingerprint

/-- A callback has read another pin than the key it was offered, and has not returned yet. -/
def Pc.doubts : Pc → Bool
  | .consumeOverride _ => true
  | .recordMismatch _ => true
  | _ => false

/-- The callback `c` was offered the fingerprint and has read another pin. -/
def Doubts (s : State) (c : ℕ) (fingerprint : String) : Prop :=
  ∃ cb, s.callbacks c = some cb ∧ cb.pc.doubts = true ∧ cb.offer.fingerprint = fingerprint

/-- The port is one that the column can hold. -/
def Offer.PortFits (o : Offer) : Prop := ¬ (o.port < -2147483648 ∨ 2147483647 < o.port)

/-- The step makes the fingerprint the pinned one: the first `Upsert` for the target does, and a
`ConsumeOverride` that finds an override. -/
def Pins (s : State) (l : Label) (c : ℕ) (fingerprint : String) : Prop :=
  ∃ now outcome cb, l = .exec c now outcome ∧ outcome.executed = true ∧
    s.callbacks c = some cb ∧ cb.offer.fingerprint = fingerprint ∧
    ((cb.pc = .upsert ∧ s.row = none ∧ cb.offer.PortFits) ∨
      ∃ existing r, cb.pc = .consumeOverride existing ∧ s.row = some r ∧
        r.overridable now = true)

/-- No fingerprint becomes the pinned one while another callback has been offered it and has
read another pin. -/
def Allowed (s : State) (l : Label) : Prop :=
  ∀ c fingerprint, Pins s l c fingerprint → ∀ c', c' ≠ c → ¬ Doubts s c' fingerprint

/-- Honest, and what makes it stay so: a callback that doubts has been offered another key than
the pinned one. -/
structure Sound (s : State) : Prop where
  row : ∀ r, s.row = some r → r.NoAlarm
  doubts : ∀ c fingerprint, Doubts s c fingerprint →
    ∀ r, s.row = some r → r.fingerprintSHA256 ≠ fingerprint

lemma Sound.honest {s : State} (h : Sound s) : Honest s := by
  refine ⟨h.row, ?_⟩
  intro c cb existing hcb hpc
  exact h.doubts c cb.offer.fingerprint ⟨cb, hcb, by rw [hpc]; rfl, rfl⟩

/-! ### Who doubts after a step -/

section

variable {s : State} {c c' : ℕ} {cb : Callback} {fingerprint : String}

lemma doubts_of_setPc {pc : Pc} (h : Doubts (s.setPc c cb pc) c' fingerprint) :
    (c' = c ∧ pc.doubts = true ∧ cb.offer.fingerprint = fingerprint) ∨
      (c' ≠ c ∧ Doubts s c' fingerprint) := by
  obtain ⟨cb', hcb', hpc, hoffer⟩ := h
  by_cases hc : c' = c
  · subst hc
    obtain rfl := Option.some.inj ((if_pos rfl).symm.trans hcb')
    exact Or.inl ⟨rfl, hpc, hoffer⟩
  · exact Or.inr ⟨hc, cb', (if_neg hc).symm.trans hcb', hpc, hoffer⟩

/-- The row may become `row` in a step of the callback `c`: it has no alarm about its pin, and
the other callbacks doubt other fingerprints. -/
structure Fits (s : State) (c : ℕ) (row : Option Row) : Prop where
  noAlarm : ∀ r, row = some r → r.NoAlarm
  other : ∀ c' fingerprint, c' ≠ c → Doubts s c' fingerprint →
    ∀ r, row = some r → r.fingerprintSHA256 ≠ fingerprint

lemma Sound.fits (h : Sound s) (c : ℕ) : Fits s c s.row :=
  ⟨h.row, fun c' fingerprint _ => h.doubts c' fingerprint⟩

/-- One callback moves on. -/
lemma Fits.setPc {row : Option Row} (h : Fits s c row) (cb : Callback) {pc : Pc}
    (hself : pc.doubts = true →
      ∀ r, row = some r → r.fingerprintSHA256 ≠ cb.offer.fingerprint) :
    Sound ({ s with row }.setPc c cb pc) := by
  refine ⟨h.noAlarm, ?_⟩
  intro c' fingerprint hdoubts
  rcases doubts_of_setPc hdoubts with ⟨-, hpc, rfl⟩ | ⟨hne, hdoubts⟩
  · exact hself hpc
  · exact h.other c' fingerprint hne hdoubts

/-- The history does not matter. -/
lemma Sound.congr {s' : State} (h : Sound s) (hrow : s'.row = s.row)
    (hcallbacks : s'.callbacks = s.callbacks) : Sound s' := by
  refine ⟨hrow ▸ h.row, ?_⟩
  rintro c fingerprint ⟨cb, hcb, hpc, hoffer⟩
  rw [hrow]
  exact h.doubts c fingerprint ⟨cb, hcallbacks ▸ hcb, hpc, hoffer⟩

/-- A callback returns. -/
lemma Fits.finish {row : Option Row} (h : Fits s c row) (cb : Callback)
    (result : Except String Unit) :
    Sound ({ s with row }.finish c cb result) := by
  have hset : Sound ({ s with row }.setPc c cb .done) := h.setPc cb fun hpc => by cases hpc
  exact hset.congr rfl rfl

/-- An administrator changes the row. -/
lemma sound_of_fits {row : Option Row} (h : ∀ c, Fits s c row) : Sound { s with row } := by
  refine ⟨(h 0).noAlarm, ?_⟩
  intro c fingerprint hdoubts
  exact (h (c + 1)).other c fingerprint (Nat.ne_of_lt (Nat.lt_succ_self c)) hdoubts

/-- A statement whose answer is lost was executed or was not. -/
lemma Sound.fits_outcome (h : Sound s) {outcome : Outcome} {after : Option Row}
    (hafter : outcome.executed = true → Fits s c after) :
    Fits s c (outcome.row s.row after) := by
  rw [Outcome.row]
  split
  · next hexecuted => exact hafter hexecuted
  · exact h.fits c

/-- A row with the pin and the alarm of the old one. -/
lemma Sound.fits_touched (h : Sound s) {r r' : Row} (hr : s.row = some r)
    (hpin : r'.fingerprintSHA256 = r.fingerprintSHA256)
    (halarm : r'.lastMismatchFingerprint = r.lastMismatchFingerprint) :
    Fits s c (some r') := by
  refine ⟨?_, ?_⟩
  · rintro _ ⟨⟩
    rw [Row.NoAlarm, hpin, halarm]
    exact h.row r hr
  · rintro c' fingerprint - hdoubts _ ⟨⟩
    rw [hpin]
    exact h.doubts c' fingerprint hdoubts r hr

/-- A row that pins a fingerprint anew. -/
lemma fits_pinned {l : Label} {r : Row} (hpins : Pins s l c r.fingerprintSHA256)
    (hallowed : Allowed s l) (halarm : r.lastMismatchFingerprint = "") : Fits s c (some r) := by
  refine ⟨?_, ?_⟩
  · rintro _ ⟨⟩
    exact Or.inl halarm
  · rintro c' fingerprint hne hdoubts _ ⟨⟩ rfl
    exact hallowed c _ hpins c' hne hdoubts

/-! ### The statements of a callback -/

variable {now : Time} {outcome : Outcome} {existing : Row}

lemma Sound.upsert (h : Sound s) (hcb : s.callbacks c = some cb) (hpc : cb.pc = .upsert)
    (hallowed : Allowed s (.exec c now outcome)) : Sound (execUpsert s c cb now outcome) := by
  have hfits : ∀ after, Hostkey.upsert s.row now cb.offer.host cb.offer.port cb.offer.keyType
      cb.offer.fingerprint = .ok after → Fits s c (outcome.row s.row after) := by
    intro after hupsert
    refine h.fits_outcome fun hexecuted => ?_
    rcases hrow : s.row with _ | r
    · rw [hrow, Hostkey.upsert, Except.ite_error_eq_ok] at hupsert
      obtain ⟨hport, hupsert⟩ := hupsert
      obtain rfl := Except.ok.inj hupsert
      exact fits_pinned ⟨now, outcome, cb, rfl, hexecuted, hcb, rfl,
        Or.inl ⟨hpc, hrow, hport⟩⟩ hallowed rfl
    · rw [hrow, Hostkey.upsert, Except.ite_error_eq_ok] at hupsert
      obtain ⟨-, hupsert⟩ := hupsert
      split at hupsert
      · obtain rfl := Except.ok.inj hupsert
        exact h.fits_touched hrow rfl rfl
      · obtain rfl := Except.ok.inj hupsert
        exact h.fits_touched hrow rfl rfl
  rw [execUpsert]
  generalize Hostkey.upsert s.row now cb.offer.host cb.offer.port cb.offer.keyType
    cb.offer.fingerprint = result at hfits
  cases result with
  | error message => exact (h.fits c).finish cb _
  | ok after =>
    have hafter := hfits after rfl
    cases outcome with
    | done => exact hafter.setPc cb fun hdoubts => by cases hdoubts
    | failed message executed => exact hafter.finish cb _

lemma Sound.get (h : Sound s) : Sound (execGet s c cb outcome) := by
  have hfits := h.fits c
  cases outcome with
  | failed message executed => exact hfits.finish cb _
  | done =>
    cases hget : Hostkey.get s.row with
    | error message =>
      simp only [execGet, hget]
      exact hfits.finish cb _
    | ok existing =>
      have hexisting : s.row = some existing := by
        rcases hr : s.row with _ | r
        · rw [hr] at hget
          cases hget
        · rw [hr] at hget
          rw [Except.ok.inj hget]
      simp only [execGet, hget]
      split
      · have hdone : Sound (s.finish c cb (.ok ())) := hfits.finish cb _
        exact hdone.congr rfl rfl
      · next hpin =>
        have hdoubts : Sound (s.setPc c cb (.consumeOverride existing)) := by
          refine hfits.setPc cb ?_
          rintro - r hr
          obtain rfl := Option.some.inj (hexisting.symm.trans hr)
          exact hpin
        exact hdoubts.congr rfl rfl

lemma recordConsumed_callbacks (s : State) (c : ℕ) (now : Time) (outcome : Outcome) :
    (s.recordConsumed c now outcome).callbacks = s.callbacks := by
  rw [State.recordConsumed]
  split
  · rfl
  · split <;> rfl

lemma Sound.consumeOverride (h : Sound s) (hcb : s.callbacks c = some cb)
    (hpc : cb.pc = .consumeOverride existing) (hallowed : Allowed s (.exec c now outcome)) :
    Sound (execConsumeOverride s c cb existing now outcome) := by
  have hpin := h.doubts c cb.offer.fingerprint ⟨cb, hcb, by rw [hpc]; rfl, rfl⟩
  have hfits : Fits s c (outcome.row s.row (Hostkey.consumeOverride s.row now cb.offer.keyType
      cb.offer.fingerprint).1) := by
    refine h.fits_outcome fun hexecuted => ?_
    rcases hrow : s.row with _ | r
    · rw [Hostkey.consumeOverride, ← hrow]
      exact h.fits c
    · rw [Hostkey.consumeOverride]
      by_cases hover : r.overridable now = true
      · rw [if_pos hover]
        exact fits_pinned ⟨now, outcome, cb, rfl, hexecuted, hcb, rfl,
          Or.inr ⟨existing, r, hpc, hrow, hover⟩⟩ hallowed rfl
      · rw [if_neg hover, ← hrow]
        exact h.fits c
  rw [execConsumeOverride]
  cases outcome with
  | failed message executed =>
    refine (hfits.finish cb (.error ("hostkey override check: " ++ message))).congr rfl ?_
    simp only [State.finish, State.setPc, recordConsumed_callbacks]
  | done =>
    dsimp only
    split
    · refine (hfits.finish cb (.ok ())).congr rfl ?_
      simp only [State.finish, State.setPc, recordConsumed_callbacks]
    · next hconsumed =>
      -- nothing was consumed, so the row is the one that the callback doubts
      have hsame : (Hostkey.consumeOverride s.row now cb.offer.keyType
          cb.offer.fingerprint).1 = s.row := by
        rcases hrow : s.row with _ | r
        · rfl
        · rw [hrow, Hostkey.consumeOverride] at hconsumed
          rw [Hostkey.consumeOverride]
          split at hconsumed
          · exact absurd rfl hconsumed
          · next hover => rw [if_neg hover]
      have hstill : ∀ r, Outcome.done.row s.row (Hostkey.consumeOverride s.row now cb.offer.keyType
          cb.offer.fingerprint).1 = some r → r.fingerprintSHA256 ≠ cb.offer.fingerprint := by
        intro r hr
        rw [Outcome.row, Outcome.executed, if_pos rfl, hsame] at hr
        exact hpin r hr
      have hset := hfits.setPc cb (fun _ => hstill : (Pc.recordMismatch existing).doubts = true → _)
      refine hset.congr rfl ?_
      simp only [State.setPc, recordConsumed_callbacks]

lemma Sound.recordMismatch (h : Sound s) (hcb : s.callbacks c = some cb)
    (hpc : cb.pc = .recordMismatch existing) :
    Sound (execRecordMismatch s c cb existing now outcome) := by
  have hpin := h.doubts c cb.offer.fingerprint ⟨cb, hcb, by rw [hpc]; rfl, rfl⟩
  have hfits : Fits s c (outcome.row s.row (Hostkey.recordMismatch s.row now
      cb.offer.fingerprint)) := by
    refine h.fits_outcome fun _ => ?_
    rcases hrow : s.row with _ | r
    · rw [Hostkey.recordMismatch, Option.map_none, ← hrow]
      exact h.fits c
    · refine ⟨?_, ?_⟩
      · rintro _ ⟨⟩
        exact Or.inr (Ne.symm (hpin r hrow))
      · rintro c' fingerprint - hdoubts _ ⟨⟩
        exact h.doubts c' fingerprint hdoubts r hrow
  exact hfits.finish cb _

/-! ### Every interleaving -/

lemma Sound.step (h : Sound s) {l : Label} (hallowed : Allowed s l) : Sound (step s l) := by
  cases l with
  | start c offer =>
    cases hcb : s.callbacks c with
    | none =>
      simp only [Hostkey.step, hcb]
      exact (h.fits c).setPc { offer } fun hdoubts => by cases hdoubts
    | some cb => simpa only [Hostkey.step, hcb] using h
  | exec c now outcome =>
    cases hcb : s.callbacks c with
    | none => simpa only [Hostkey.step, hcb] using h
    | some cb =>
      cases hpc : cb.pc with
      | upsert =>
        simp only [Hostkey.step, hcb, hpc]
        exact h.upsert hcb hpc hallowed
      | get =>
        simp only [Hostkey.step, hcb, hpc]
        exact h.get
      | consumeOverride existing =>
        simp only [Hostkey.step, hcb, hpc]
        exact h.consumeOverride hcb hpc hallowed
      | recordMismatch existing =>
        simp only [Hostkey.step, hcb, hpc]
        exact h.recordMismatch hcb hpc
      | done => simpa only [Hostkey.step, hcb, hpc] using h
  | approveOverride now clock adminName ttl outcome =>
    refine sound_of_fits fun c => h.fits_outcome fun _ => ?_
    rcases hrow : s.row with _ | r
    · rw [Hostkey.approveOverride, ← hrow]
      exact h.fits c
    · exact h.fits_touched hrow rfl rfl
  | delete outcome =>
    refine sound_of_fits fun c => h.fits_outcome fun _ => ?_
    have hnone : (Hostkey.delete s.row).1 = none := by
      rcases s.row with _ | r <;> rfl
    rw [hnone]
    exact ⟨fun r hr => by simp at hr, fun _ _ _ _ r hr => by simp at hr⟩

/-! ### A pin that changes behind a callback -/

/-- The row after the step has the pin, and no override is left. -/
lemma row_of_pins {l : Label} (h : Pins s l c fingerprint) :
    ∃ r, (Hostkey.step s l).row = some r ∧ r.fingerprintSHA256 = fingerprint ∧
      r.status = .active := by
  obtain ⟨now, outcome, cb, rfl, hexecuted, hcb, rfl, ⟨hpc, hrow, hport⟩ | ⟨existing, r, hpc,
    hrow, hover⟩⟩ := h
  · have hupsert : ∃ r, Hostkey.upsert s.row now cb.offer.host cb.offer.port cb.offer.keyType
        cb.offer.fingerprint = .ok (some r) ∧ r.fingerprintSHA256 = cb.offer.fingerprint ∧
        r.status = .active := by
      rw [hrow, Hostkey.upsert, if_neg hport]
      exact ⟨_, rfl, rfl, rfl⟩
    obtain ⟨r, hok, hpin, hstatus⟩ := hupsert
    refine ⟨r, ?_, hpin, hstatus⟩
    simp only [Hostkey.step, hcb, hpc, execUpsert, hok]
    cases outcome with
    | done => rfl
    | failed message executed =>
      exact if_pos hexecuted
  · have hconsume : ∃ r', (Hostkey.consumeOverride s.row now cb.offer.keyType
        cb.offer.fingerprint).1 = some r' ∧ r'.fingerprintSHA256 = cb.offer.fingerprint ∧
        r'.status = .active := by
      rw [hrow, Hostkey.consumeOverride, if_pos hover]
      exact ⟨_, rfl, rfl, rfl⟩
    obtain ⟨r', hr', hpin, hstatus⟩ := hconsume
    refine ⟨r', ?_, hpin, hstatus⟩
    simp only [Hostkey.step, hcb, hpc, execConsumeOverride_row, Outcome.row, hexecuted, if_true,
      hr']

/-- A callback does not move in the steps of another one. -/
lemma callbacks_of_ne {c' : ℕ} (hne : c' ≠ c) :
    (Hostkey.step s (.exec c now outcome)).callbacks c' = s.callbacks c' := by
  have hset : ∀ (s : State) (cb : Callback) (pc : Pc),
      (s.setPc c cb pc).callbacks c' = s.callbacks c' := fun _ _ _ => if_neg hne
  have hfinish : ∀ (s : State) (cb : Callback) (result : Except String Unit),
      (s.finish c cb result).callbacks c' = s.callbacks c' := fun _ _ _ => if_neg hne
  -- every branch ends with `setPc` or `finish` of the callback that moves
  cases hcb : s.callbacks c with
  | none => simp only [Hostkey.step, hcb]
  | some cb =>
    cases hpc : cb.pc with
    | upsert =>
      simp only [Hostkey.step, hcb, hpc, execUpsert]
      generalize Hostkey.upsert s.row now cb.offer.host cb.offer.port cb.offer.keyType
        cb.offer.fingerprint = result
      cases result with
      | error message => exact hfinish s cb _
      | ok after =>
        cases outcome with
        | done => exact hset { s with row := _ } cb _
        | failed message executed => exact hfinish { s with row := _ } cb _
    | get =>
      simp only [Hostkey.step, hcb, hpc]
      cases outcome with
      | failed message executed => exact hfinish s cb _
      | done =>
        cases hget : Hostkey.get s.row with
        | error message =>
          simp only [execGet, hget]
          exact hfinish s cb _
        | ok existing =>
          simp only [execGet, hget]
          split
          · exact hfinish (s.record _) cb _
          · exact hset (s.record _) cb _
    | consumeOverride existing =>
      simp only [Hostkey.step, hcb, hpc, execConsumeOverride]
      cases outcome with
      | failed message executed => simp only [hfinish, recordConsumed_callbacks]
      | done =>
        dsimp only
        split
        · simp only [hfinish, recordConsumed_callbacks]
        · simp only [hset, recordConsumed_callbacks]
    | recordMismatch existing =>
      simp only [Hostkey.step, hcb, hpc]
      exact hfinish { s with row := _ } cb _
    | done => simp only [Hostkey.step, hcb, hpc]

/-- A pin that changes behind a callback that doubts it can be followed by the rejection of the
pinned key. -/
lemma alarm_of_not_allowed {l : Label} (h : ¬ Allowed s l) :
    ∃ ls, ¬ Honest (run Hostkey.step s (l :: ls)) := by
  rw [Allowed] at h
  push Not at h
  obtain ⟨c, fingerprint, hpins, c', hne, cb, hcb, hdoubts, rfl⟩ := h
  obtain ⟨r, hrow, hpin, hstatus⟩ := row_of_pins hpins
  obtain ⟨now, outcome, -, rfl, -⟩ := hpins
  have hcb' : (Hostkey.step s (.exec c now outcome)).callbacks c' = some cb :=
    (callbacks_of_ne hne).trans hcb
  cases hpc : cb.pc with
  | upsert => rw [hpc] at hdoubts; cases hdoubts
  | get => rw [hpc] at hdoubts; cases hdoubts
  | done => rw [hpc] at hdoubts; cases hdoubts
  | recordMismatch existing =>
    refine ⟨[], fun h => ?_⟩
    rw [run_cons, run_nil] at h
    exact h.reject c' cb existing hcb' hpc r hrow hpin
  | consumeOverride existing =>
    -- there is no override left for it, so its next statement is `RecordMismatch`
    have hover : r.overridable 0 = false := by rw [Row.overridable, hstatus]; rfl
    have hconsume : Hostkey.consumeOverride (Hostkey.step s (.exec c now outcome)).row 0
        cb.offer.keyType cb.offer.fingerprint = (some r, false) := by
      rw [hrow, Hostkey.consumeOverride, hover]
      rfl
    refine ⟨[.exec c' 0 .done], fun h => ?_⟩
    rw [run_cons, run_cons, run_nil] at h
    generalize Hostkey.step s (.exec c now outcome) = s₁ at hrow hcb' hconsume h
    refine h.reject c' { cb with pc := .recordMismatch existing } existing ?_ rfl r ?_ hpin
    · simp only [Hostkey.step, hcb', hpc, execConsumeOverride, hconsume]
      exact if_pos rfl
    · simp only [Hostkey.step, hcb', hpc, execConsumeOverride, hconsume]
      rfl

end

/-- **A rejected key is not the pinned one.**  In every interleaving in which no fingerprint
becomes the pinned one behind a callback that was offered it and has read another pin, the row
never has an alarm about its own pin and no callback rejects the pinned key.  Wherever a step
breaks this condition, the run can go on to such a rejection. -/
theorem honest_of_allowed {row : Option Row} (hrow : ∀ r, row = some r → r.NoAlarm) :
    (∀ ls, Along step Allowed { row } ls → Honest (run step { row } ls)) ∧
    ∀ s l, ¬ Allowed s l → ∃ ls, ¬ Honest (run step s (l :: ls)) := by
  refine ⟨?_, fun s l => alarm_of_not_allowed⟩
  intro ls hok
  have hinit : Sound { row } := by
    refine ⟨hrow, ?_⟩
    rintro c fingerprint ⟨cb, hcb, -⟩
    cases hcb
  exact (invariant_along (I := Sound) (fun s l h hl => h.step hl) hinit hok).honest

/-- A dial pins `A`, and the next one is offered `B` and rejects it. -/
def dialThenMismatch : List Label :=
  [.start 0 ⟨"h:22", "ssh-ed25519", "A"⟩, .exec 0 0 .done, .exec 0 0 .done,
   .start 1 ⟨"h:22", "ssh-ed25519", "B"⟩, .exec 1 0 .done, .exec 1 0 .done, .exec 1 0 .done,
   .exec 1 0 .done]

/-- Nobody but the callback that moves doubts. -/
lemma allowed_of_alone {s : State} {l : Label}
    (h : ∀ c now outcome, l = .exec c now outcome → ∀ c', c' ≠ c →
      (s.callbacks c').all (·.pc.doubts = false) = true) : Allowed s l := by
  rintro c fingerprint ⟨now, outcome, -, hl, -⟩ c' hne ⟨cb, hcb, hdoubts, -⟩
  have hno := h c now outcome hl c' hne
  simp [hcb, hdoubts] at hno

lemma along_dialThenMismatch : Along step Allowed { row := none } dialThenMismatch := by
  refine ⟨?_, ?_, ?_, ?_, ?_, ?_, ?_, ?_, trivial⟩
  all_goals
    refine allowed_of_alone ?_
    rintro c now outcome ⟨⟩ c' hne
  -- the callbacks are 0 and 1, and the one that does not move has returned or not started
  all_goals
    rcases c' with _ | _ | c'
    · rfl
    · first | rfl | exact absurd rfl hne
    · rfl

theorem honest_dialThenMismatch :
    (run step { row := none } dialThenMismatch).row.map
        (fun r => (r.fingerprintSHA256, r.lastMismatchFingerprint)) = some ("A", "B") ∧
      Honest (run step { row := none } dialThenMismatch) :=
  ⟨rfl, (honest_of_allowed fun r hr => by cases hr).1 dialThenMismatch along_dialThenMismatch⟩

/-- The first dial pins `A`, and two dials read it when they are offered `B`. -/
def twoDials : List Label :=
  let offer (fingerprint : String) : Offer := ⟨"h:22", "ssh-ed25519", fingerprint⟩
  [.start 0 (offer "A"), .exec 0 0 .done, .exec 0 0 .done,
   .start 1 (offer "B"), .exec 1 0 .done, .exec 1 0 .done,
   .start 2 (offer "B"), .exec 2 0 .done, .exec 2 0 .done]

/-- The override is approved, the first of them uses it up, and the second one rejects the key
that is the pinned one by then. -/
theorem pinned_key_rejected :
    let s := run step { row := none } (twoDials ++
      [.approveOverride 0 0 "admin" overrideTTL .done, .exec 1 0 .done, .exec 2 0 .done])
    ¬ Honest s ∧ (step s (.exec 2 0 .done)).row.map
      (fun r => (r.fingerprintSHA256, r.lastMismatchFingerprint)) = some ("B", "B") := by
  refine ⟨?_, rfl⟩
  intro h
  exact h.reject 2 _ _ rfl rfl _ rfl rfl

end OpsPlatform.Hostkey
