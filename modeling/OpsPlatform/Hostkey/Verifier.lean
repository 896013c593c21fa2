/-
Host-key pinning (`Callback` in `internal/hostkey/verifier.go`) under concurrency.

A callback is a sequence of up to four statements with no transaction around them.  Here any
number of callbacks for one `(scope, target)` run interleaved with each other, with
`ApproveOverride` and with `Delete`; every statement may fail, before or after the server
executed it, and has a `now()` of its own.  The history records what each callback read, what
it consumed and what it returned.
-/
import OpsPlatform.Hostkey.Repository
import OpsPlatform.Lib.History
import OpsPlatform.Lib.NetAddr
import OpsPlatform.Lib.Outcome
import OpsPlatform.Lib.Run
import OpsPlatform.Lib.Strconv

namespace OpsPlatform.Hostkey

open Lib Lib.Run Lib.History Lib.NetAddr

/-- The arguments of an `ssh.HostKeyCallback`; the key by its type and `Fingerprint`. -/
structure Offer where
  hostname : String
  keyType : String
  fingerprint : String
deriving DecidableEq

def Offer.host (o : Offer) : String :=
  match splitHostPort o.hostname with
  | some (host, _) => if host = "" then o.hostname else host
  | none => o.hostname

def Offer.port (o : Offer) : Int :=
  let port := Strconv.atoiValue (((splitHostPort o.hostname).map Prod.snd).getD "").toList
  if port = 0 then 22 else port

/-- Where a callback stands: before one of its statements, or at its end.  `existing` is the
record that it read. -/
inductive Pc where
  | upsert
  | get
  | consumeOverride (existing : Row)
  | recordMismatch (existing : Row)
  | done

structure Callback where
  offer : Offer
  pc : Pc := .upsert

inductive Event where
  | read (c : ℕ) (fingerprint : String)
  | consumed (c : ℕ) (before : Row) (now : Time)
  | returned (c : ℕ) (offer : Offer) (result : Except String Unit)

/-- The row of the target, the callbacks that have been started, and the history. -/
structure State where
  row : Option Row
  callbacks : ℕ → Option Callback := fun _ => none
  history : List Event := []

/-- How a statement ends for the client: also a statement that was executed can end with an
error, when its answer is lost. -/
inductive Outcome where
  | done
  | failed (message : String) (executed : Bool)

/-- A step: a callback starts, a callback executes its next statement, or an administrator
calls `ApproveOverride` or `Delete`. -/
inductive Label where
  | start (c : ℕ) (offer : Offer)
  | exec (c : ℕ) (now : Time) (outcome : Outcome)
  | approveOverride (now clock : Time) (adminName : String) (ttl : Int) (outcome : Outcome)
  | delete (outcome : Outcome)

def Outcome.executed : Outcome → Bool
  | .done => true
  | .failed _ executed => executed

/-- The row after a statement that would make it `after`. -/
def Outcome.row (outcome : Outcome) (before after : Option Row) : Option Row :=
  if outcome.executed then after else before

def State.setPc (s : State) (c : ℕ) (cb : Callback) (pc : Pc) : State :=
  { s with callbacks := fun c' => if c' = c then some { cb with pc } else s.callbacks c' }

/-- The callback returns. -/
def State.finish (s : State) (c : ℕ) (cb : Callback) (result : Except String Unit) : State :=
  let s := s.setPc c cb .done
  { s with history := .returned c cb.offer result :: s.history }

def State.record (s : State) (e : Event) : State := { s with history := e :: s.history }

/-- The error of a mismatch. -/
def mismatchError (pinned offered : String) : String :=
  "ssh host key mismatch — pinned fingerprint " ++ pinned ++ " does not match offered " ++
    offered ++
    "; ask an admin to approve a one-time override if the server was legitimately re-keyed"

/-! ### The statements of a callback -/

/-- The rest of the call of `Upsert`, whose statement gives `result`. -/
def afterUpsert (s : State) (c : ℕ) (cb : Callback) (outcome : Outcome) :
    Except String (Option Row) → State
  | .error message => s.finish c cb (.error ("hostkey upsert: " ++ message))
  | .ok after =>
    let s := { s with row := outcome.row s.row after }
    match outcome with
    | .failed message _ => s.finish c cb (.error ("hostkey upsert: " ++ message))
    | .done => s.setPc c cb .get

def execUpsert (s : State) (c : ℕ) (cb : Callback) (now : Time) (outcome : Outcome) : State :=
  afterUpsert s c cb outcome
    (upsert s.row now cb.offer.host cb.offer.port cb.offer.keyType cb.offer.fingerprint)

def execGet (s : State) (c : ℕ) (cb : Callback) (outcome : Outcome) : State :=
  match outcome, get s.row with
  | .failed message _, _ => s.finish c cb (.error ("hostkey lookup: " ++ message))
  | .done, .error message => s.finish c cb (.error ("hostkey lookup: " ++ message))
  | .done, .ok existing =>
    let s := s.record (.read c existing.fingerprintSHA256)
    if existing.fingerprintSHA256 = cb.offer.fingerprint then s.finish c cb (.ok ())
    else s.setPc c cb (.consumeOverride existing)

/-- The history after a statement that may have consumed the override of the row. -/
def State.recordConsumed (s : State) (c : ℕ) (now : Time) (outcome : Outcome) : State :=
  match s.row with
  | none => s
  | some r =>
    if outcome.executed && r.overridable now then s.record (.consumed c r now) else s

def execConsumeOverride (s : State) (c : ℕ) (cb : Callback) (existing : Row) (now : Time)
    (outcome : Outcome) : State :=
  let o := cb.offer
  let (after, consumed) := consumeOverride s.row now o.keyType o.fingerprint
  let s := { s.recordConsumed c now outcome with row := outcome.row s.row after }
  match outcome with
  | .failed message _ => s.finish c cb (.error ("hostkey override check: " ++ message))
  | .done =>
    if consumed then s.finish c cb (.ok ()) else s.setPc c cb (.recordMismatch existing)

/-- The error of `RecordMismatch` itself is ignored. -/
def execRecordMismatch (s : State) (c : ℕ) (cb : Callback) (existing : Row) (now : Time)
    (outcome : Outcome) : State :=
  let offered := cb.offer.fingerprint
  let s := { s with row := outcome.row s.row (recordMismatch s.row now offered) }
  s.finish c cb (.error (mismatchError existing.fingerprintSHA256 offered))

def step (s : State) : Label → State
  | .start c offer =>
    match s.callbacks c with
    | none => s.setPc c { offer } .upsert
    | some _ => s
  | .exec c now outcome =>
    match s.callbacks c with
    | none => s
    | some cb =>
      match cb.pc with
      | .upsert => execUpsert s c cb now outcome
      | .get => execGet s c cb outcome
      | .consumeOverride existing => execConsumeOverride s c cb existing now outcome
      | .recordMismatch existing => execRecordMismatch s c cb existing now outcome
      | .done => s
  | .approveOverride now clock adminName ttl outcome =>
    { s with row := outcome.row s.row (approveOverride s.row now clock adminName ttl).1 }
  | .delete outcome => { s with row := outcome.row s.row (delete s.row).1 }

/-! ### What a step does to the row -/

section

variable (s : State) (c : ℕ) (cb : Callback)

@[simp] lemma setPc_row (pc : Pc) : (s.setPc c cb pc).row = s.row := rfl

@[simp] lemma setPc_history (pc : Pc) : (s.setPc c cb pc).history = s.history := rfl

@[simp] lemma finish_row (result : Except String Unit) : (s.finish c cb result).row = s.row := rfl

@[simp] lemma record_history (e : Event) : (s.record e).history = e :: s.history := rfl

end

def Label.isApproval : Label → Bool
  | .approveOverride .. => true
  | _ => false

/-- The ways in which a step `l` from `s` can change the row. -/
inductive RowChange (s : State) (l : Label) : Option Row → Option Row → Prop where
  | same (row : Option Row) : RowChange s l row row
  | pinned {r' : Row} (hstatus : r'.status = .active) : RowChange s l none (some r')
  | touched {r r' : Row} (hpin : r'.fingerprintSHA256 = r.fingerprintSHA256)
      (hstatus : r'.status = r.status) : RowChange s l (some r) (some r')
  | approved {r r' : Row} (hl : l.isApproval = true)
      (hpin : r'.fingerprintSHA256 = r.fingerprintSHA256) : RowChange s l (some r) (some r')
  | overridden {r r' : Row} {c : ℕ} {now : Time} {outcome : Outcome} {cb : Callback}
      {existing : Row} (hl : l = .exec c now outcome) (hcb : s.callbacks c = some cb)
      (hpc : cb.pc = .consumeOverride existing) (hover : r.overridable now = true)
      (hpin : r'.fingerprintSHA256 = cb.offer.fingerprint) (hstatus : r'.status = .active) :
      RowChange s l (some r) (some r')
  | deleted (row : Option Row) : RowChange s l row none

section

variable {s : State} {l : Label}

/-- A statement whose answer is lost was executed or was not. -/
lemma RowChange.outcome {before after : Option Row} (h : RowChange s l before after)
    (outcome : Outcome) : RowChange s l before (outcome.row before after) := by
  rw [Outcome.row]
  split
  · exact h
  · exact .same before

lemma rowChange_upsert {row after : Option Row} {now : Time} {host : String} {port : Int}
    {keyType fingerprint : String}
    (h : upsert row now host port keyType fingerprint = .ok after) : RowChange s l row after := by
  rcases row with _ | r
  · rw [upsert, Except.ite_error_eq_ok] at h
    obtain rfl := Except.ok.inj h.2
    exact .pinned rfl
  · rw [upsert, Except.ite_error_eq_ok] at h
    obtain ⟨-, h⟩ := h
    split at h
    · obtain rfl := Except.ok.inj h
      exact .touched rfl rfl
    · obtain rfl := Except.ok.inj h
      exact .same _

lemma rowChange_recordMismatch (row : Option Row) (now : Time) (offered : String) :
    RowChange s l row (recordMismatch row now offered) := by
  rcases row with _ | r
  · exact .same none
  · exact .touched rfl rfl

end

lemma execUpsert_row (s : State) (l : Label) (c : ℕ) (cb : Callback) (now : Time)
    (outcome : Outcome) : RowChange s l s.row (execUpsert s c cb now outcome).row := by
  have hupsert : ∀ after, upsert s.row now cb.offer.host cb.offer.port cb.offer.keyType
      cb.offer.fingerprint = .ok after → RowChange s l s.row after := fun _ => rowChange_upsert
  rw [execUpsert]
  generalize upsert s.row now cb.offer.host cb.offer.port cb.offer.keyType
    cb.offer.fingerprint = result at hupsert
  cases result with
  | error message => exact .same _
  | ok after =>
    have hchange := (hupsert after rfl).outcome outcome
    cases outcome with
    | done => exact hchange
    | failed message executed => exact hchange

lemma execGet_row (s : State) (c : ℕ) (cb : Callback) (outcome : Outcome) :
    (execGet s c cb outcome).row = s.row := by
  cases outcome with
  | failed message executed => rfl
  | done =>
    cases hget : get s.row with
    | error message => simp only [execGet, hget, finish_row]
    | ok existing =>
      simp only [execGet, hget]
      split <;> rfl

lemma execConsumeOverride_row (s : State) (c : ℕ) (cb : Callback) (existing : Row) (now : Time)
    (outcome : Outcome) :
    (execConsumeOverride s c cb existing now outcome).row =
      outcome.row s.row (consumeOverride s.row now cb.offer.keyType cb.offer.fingerprint).1 := by
  rw [execConsumeOverride]
  cases outcome with
  | failed message executed => rfl
  | done =>
    dsimp only
    split <;> rfl

/-- `ConsumeOverride` rewrites the pin of a row whose override is pending and has not
expired. -/
lemma rowChange_consumeOverride {s : State} {c : ℕ} {now : Time} {outcome : Outcome}
    {cb : Callback} {existing : Row} (hcb : s.callbacks c = some cb)
    (hpc : cb.pc = .consumeOverride existing) (row : Option Row) :
    RowChange s (.exec c now outcome) row
      (consumeOverride row now cb.offer.keyType cb.offer.fingerprint).1 := by
  rcases row with _ | r
  · exact .same none
  · rw [consumeOverride]
    by_cases hover : r.overridable now = true
    · rw [if_pos hover]
      exact .overridden rfl hcb hpc hover rfl rfl
    · rw [if_neg hover]
      exact .same _

/-- Every step changes the row in one of these ways. -/
lemma step_row (s : State) (l : Label) : RowChange s l s.row (step s l).row := by
  cases l with
  | start c offer =>
    cases hcb : s.callbacks c with
    | none => simp only [step, hcb, setPc_row]; exact .same _
    | some cb => simp only [step, hcb]; exact .same _
  | exec c now outcome =>
    cases hcb : s.callbacks c with
    | none => simp only [step, hcb]; exact .same _
    | some cb =>
      cases hpc : cb.pc with
      | upsert =>
        simp only [step, hcb, hpc]
        exact execUpsert_row s _ c cb now outcome
      | get =>
        simp only [step, hcb, hpc, execGet_row]
        exact .same _
      | consumeOverride existing =>
        simp only [step, hcb, hpc, execConsumeOverride_row]
        exact (rowChange_consumeOverride hcb hpc s.row).outcome outcome
      | recordMismatch existing =>
        simp only [step, hcb, hpc, execRecordMismatch, finish_row]
        exact (rowChange_recordMismatch s.row now _).outcome outcome
      | done => simp only [step, hcb, hpc]; exact .same _
  | approveOverride now clock adminName ttl outcome =>
    refine RowChange.outcome ?_ outcome
    rcases s.row with _ | r
    · exact .same _
    · exact .approved rfl rfl
  | delete outcome =>
    refine RowChange.outcome ?_ outcome
    rcases s.row with _ | r
    · exact .same _
    · exact .deleted _

/-! ### What a callback returns -/

/-- Why a callback may return `nil`: the key it was offered is the pinned one that it read, or
it consumed an override that was pending and not expired. -/
def EventOk : Event → List Event → Prop
  | .returned c offer (.ok _), es =>
    .read c offer.fingerprint ∈ es ∨
      ∃ r now, .consumed c r now ∈ es ∧ r.overridable now = true
  | _, _ => True

lemma throughout_finish_error {s : State} (h : Throughout EventOk s.history) (c : ℕ)
    (cb : Callback) (message : String) :
    Throughout EventOk (s.finish c cb (.error message)).history := ⟨trivial, h⟩

lemma execUpsert_ok {s : State} (h : Throughout EventOk s.history) (c : ℕ) (cb : Callback)
    (now : Time) (outcome : Outcome) :
    Throughout EventOk (execUpsert s c cb now outcome).history := by
  rw [execUpsert]
  generalize upsert s.row now cb.offer.host cb.offer.port cb.offer.keyType
    cb.offer.fingerprint = result
  cases result with
  | error message => exact throughout_finish_error h c cb _
  | ok after =>
    cases outcome with
    | done => exact h
    | failed message executed => exact ⟨trivial, h⟩

lemma execGet_ok {s : State} (h : Throughout EventOk s.history) (c : ℕ) (cb : Callback)
    (outcome : Outcome) : Throughout EventOk (execGet s c cb outcome).history := by
  cases outcome with
  | failed message executed => exact throughout_finish_error h c cb _
  | done =>
    cases hget : get s.row with
    | error message =>
      simp only [execGet, hget]
      exact throughout_finish_error h c cb _
    | ok existing =>
      simp only [execGet, hget]
      split
      · next hpin => exact ⟨Or.inl (hpin ▸ List.mem_cons_self), trivial, h⟩
      · exact ⟨trivial, h⟩

lemma recordConsumed_ok {s : State} (h : Throughout EventOk s.history) (c : ℕ) (now : Time)
    (outcome : Outcome) : Throughout EventOk (s.recordConsumed c now outcome).history := by
  rw [State.recordConsumed]
  split
  · exact h
  · split
    · exact ⟨trivial, h⟩
    · exact h

lemma execConsumeOverride_ok {s : State} (h : Throughout EventOk s.history) (c : ℕ)
    (cb : Callback) (existing : Row) (now : Time) (outcome : Outcome) :
    Throughout EventOk (execConsumeOverride s c cb existing now outcome).history := by
  have hrec := recordConsumed_ok h c now outcome
  rw [execConsumeOverride]
  cases outcome with
  | failed message executed => exact ⟨trivial, hrec⟩
  | done =>
    dsimp only
    split
    · next hconsumed =>
      refine ⟨Or.inr ?_, hrec⟩
      -- the statement reports a consumption only for a row that it could override
      cases hrow : s.row with
      | none => simp [hrow, consumeOverride] at hconsumed
      | some r =>
        by_cases hover : r.overridable now = true
        · exact ⟨r, now, by simp [State.recordConsumed, Outcome.executed, hrow, hover], hover⟩
        · simp [hrow, consumeOverride, hover] at hconsumed
    · exact hrec

lemma step_ok {s : State} (l : Label) (h : Throughout EventOk s.history) :
    Throughout EventOk (step s l).history := by
  cases l with
  | start c offer =>
    cases hcb : s.callbacks c with
    | none => simpa only [step, hcb, setPc_history] using h
    | some cb => simpa only [step, hcb] using h
  | exec c now outcome =>
    cases hcb : s.callbacks c with
    | none => simpa only [step, hcb] using h
    | some cb =>
      cases hpc : cb.pc with
      | upsert =>
        simp only [step, hcb, hpc]
        exact execUpsert_ok h c cb now outcome
      | get =>
        simp only [step, hcb, hpc]
        exact execGet_ok h c cb outcome
      | consumeOverride existing =>
        simp only [step, hcb, hpc]
        exact execConsumeOverride_ok h c cb existing now outcome
      | recordMismatch existing =>
        simp only [step, hcb, hpc]
        exact ⟨trivial, h⟩
      | done => simpa only [step, hcb, hpc] using h
  | approveOverride now clock adminName ttl outcome => exact h
  | delete outcome => exact h

/-! ### Counting the changes of the pin -/

/-- The pin of an existing row is another one after the step. -/
def PinChanged (before after : Option Row) : Prop :=
  ∃ r r', before = some r ∧ after = some r' ∧ r'.fingerprintSHA256 ≠ r.fingerprintSHA256

instance (before after : Option Row) : Decidable (PinChanged before after) :=
  match before, after with
  | some r, some r' =>
    if h : r'.fingerprintSHA256 ≠ r.fingerprintSHA256 then .isTrue ⟨r, r', rfl, rfl, h⟩
    else .isFalse (by rintro ⟨_, _, ⟨⟩, ⟨⟩, hne⟩; exact h hne)
  | none, _ => .isFalse (by rintro ⟨_, _, ⟨⟩, _⟩)
  | some _, none => .isFalse (by rintro ⟨_, _, _, ⟨⟩, _⟩)

/-- The pin changes only when a callback that stands before its `ConsumeOverride` executes it
on a row whose override is pending and has not expired. -/
lemma consumed_of_pinChanged {s : State} {l : Label} {before after : Option Row}
    (h : RowChange s l before after) (hpin : PinChanged before after) :
    ∃ r r' c now outcome cb existing, before = some r ∧ after = some r' ∧
      l = .exec c now outcome ∧ s.callbacks c = some cb ∧ cb.pc = .consumeOverride existing ∧
      r.overridable now = true ∧ r'.fingerprintSHA256 = cb.offer.fingerprint ∧
      r'.status = .active := by
  obtain ⟨r, r', rfl, rfl, hne⟩ := hpin
  cases h with
  | same => exact absurd rfl hne
  | touched heq hstatus => exact absurd heq hne
  | approved hl heq => exact absurd heq hne
  | overridden hl hcb hpc hover heq hstatus =>
    exact ⟨r, r', _, _, _, _, _, rfl, rfl, hl, hcb, hpc, hover, heq, hstatus⟩

def pinChanges (s : State) (_ : Label) (s' : State) : ℕ :=
  if PinChanged s.row s'.row then 1 else 0

def approvals (_ : State) (l : Label) (_ : State) : ℕ := if l.isApproval then 1 else 0

/-- The potential of a row: an override that has been approved and not been used. -/
def pendingOverride (row : Option Row) : ℕ :=
  if row.any (·.status == .overridePending) then 1 else 0

/-- A change of the pin uses up an override, and only an approval makes a new one. -/
lemma pinChanges_le (s : State) (l : Label) :
    pinChanges s l (step s l) + pendingOverride (step s l).row ≤
      approvals s l (step s l) + pendingOverride s.row := by
  have hchange := step_row s l
  rw [pinChanges, approvals]
  generalize (step s l).row = after at hchange
  generalize s.row = before at hchange
  by_cases hpin : PinChanged before after
  · obtain ⟨r, r', c, now, outcome, cb, existing, rfl, rfl, -, -, -, hover, -, hactive⟩ :=
      consumed_of_pinChanged hchange hpin
    have hpending : r.status = .overridePending := by
      rw [Row.overridable, Bool.and_eq_true, beq_iff_eq] at hover
      exact hover.1
    simp [hpin, pendingOverride, hpending, hactive]
  · rw [if_neg hpin, Nat.zero_add]
    cases hchange with
    | same => exact Nat.le_add_left _ _
    | pinned hstatus => simp [pendingOverride, hstatus]
    | touched heq hstatus => simp [pendingOverride, hstatus]
    | approved hl heq =>
      rw [if_pos hl, pendingOverride]
      split <;> omega
    | overridden hl hcb hpc hover heq hactive => simp [pendingOverride, hactive]
    | deleted => simp [pendingOverride]

/-! ### Every interleaving -/

/-- **Pinning is safe under every interleaving.**  A callback returns `nil` only if it read the
offered fingerprint as the pinned one, or if it consumed an override that was pending and not
expired; the pin of an existing row changes only through such a consumption; and after a
`Delete` the pin changes at most as often as an override is approved. -/
theorem pinning_safe (row : Option Row) (ls : List Label) :
    let s := run step { row } ls
    (∀ later earlier c offer,
      s.history = later ++ .returned c offer (.ok ()) :: earlier →
      .read c offer.fingerprint ∈ earlier ∨
        ∃ r now, .consumed c r now ∈ earlier ∧ r.status = .overridePending ∧
          ∃ expires, r.overrideExpiresAt = some expires ∧ now < expires) ∧
    (∀ l r r', s.row = some r → (step s l).row = some r' →
      r'.fingerprintSHA256 ≠ r.fingerprintSHA256 →
      ∃ c now outcome cb existing, l = .exec c now outcome ∧ s.callbacks c = some cb ∧
        cb.pc = .consumeOverride existing ∧ r'.fingerprintSHA256 = cb.offer.fingerprint ∧
        r.status = .overridePending ∧
        ∃ expires, r.overrideExpiresAt = some expires ∧ now < expires) ∧
    ∀ ls', tally step pinChanges (step s (.delete .done)) ls' ≤
      tally step approvals (step s (.delete .done)) ls' := by
  intro s
  have hpending : ∀ (r : Row) (now : Time), r.overridable now = true →
      r.status = .overridePending ∧ ∃ expires, r.overrideExpiresAt = some expires ∧
        now < expires := by
    intro r now h
    rw [Row.overridable, Bool.and_eq_true, beq_iff_eq] at h
    refine ⟨h.1, ?_⟩
    cases hexp : r.overrideExpiresAt with
    | none => simp [hexp] at h
    | some expires => exact ⟨expires, rfl, by simpa [hexp] using h.2⟩
  refine ⟨?_, ?_, ?_⟩
  · intro later earlier c offer heq
    have hok : Throughout EventOk s.history :=
      invariant (I := fun s : State => Throughout EventOk s.history)
        (fun s l h => step_ok l h) (show Throughout EventOk [] from trivial) ls
    rw [heq] at hok
    rcases hok.of_split with hread | ⟨r, now, hmem, hover⟩
    · exact Or.inl hread
    · exact Or.inr ⟨r, now, hmem, hpending r now hover⟩
  · intro l r r' hr hr' hne
    obtain ⟨r₁, r₁', c, now, outcome, cb, existing, h₁, h₁', hl, hcb, hpc, hover, hpin, -⟩ :=
      consumed_of_pinChanged (step_row s l) ⟨r, r', hr, hr', hne⟩
    obtain rfl : r₁ = r := Option.some.inj (h₁.symm.trans hr)
    obtain rfl : r₁' = r' := Option.some.inj (h₁'.symm.trans hr')
    exact ⟨c, now, outcome, cb, existing, hl, hcb, hpc, hpin, hpending r₁ now hover⟩
  · intro ls'
    have hnone : (step s (.delete .done)).row = none := by
      show (delete s.row).1 = none
      cases s.row <;> rfl
    -- each change of the pin uses up an override, and an approval gives one
    have hpot := tally_le_of_potential (I := fun _ => True)
      (Φ := fun s : State => pendingOverride s.row) (fun _ _ _ => trivial)
      (fun s l _ => pinChanges_le s l) (s := step s (.delete .done)) trivial ls'
    have hzero : pendingOverride (step s (.delete .done)).row = 0 := by rw [hnone]; rfl
    omega

/-- A server is pinned with key `A`, re-keyed to `B`, and accepted again after an approval. -/
example :
    let dial (c : ℕ) (fingerprint : String) : List Label :=
      [.start c ⟨"h:22", "ssh-ed25519", fingerprint⟩, .exec c 0 .done, .exec c 0 .done]
    let s := run step { row := none } (dial 0 "A" ++ [.approveOverride 0 0 "admin" 1 .done] ++
      dial 1 "B" ++ [.exec 1 0 .done])
    s.row.map (·.fingerprintSHA256) = some "B" := rfl

end OpsPlatform.Hostkey
