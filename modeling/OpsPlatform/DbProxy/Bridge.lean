/-
One database session (`bridge` and the part of `ServeWS` around it, in
`internal/dbproxy/handler.go`), in every interleaving of its three goroutines.

Two pumps carry the bytes, one in each direction.  The first error ends `bridge`: it closes the
connection to the database, so that nothing gets there any more, and then reads the two counters.
The websocket is closed only after the audit row has been written.  A connection that is closed may
still hand out what it has buffered: the channel of an SSH client behind a VPC proxy does, and so
does the reader of the websocket.
-/
import OpsPlatform.GuacProxy.Bridge
import OpsPlatform.Lib.Pump
import OpsPlatform.Lib.Utf8
import Mathlib.Algebra.Ring.Nat

namespace OpsPlatform.DbProxy.Bridge

open Lib Lib.Run Lib.Pump
open GuacProxy.Bridge (BridgeErr)
open Utf8 (Bytes)

def isClosedErr (e : BridgeErr) : Bool := e.isEOF || e.isCloseError

/-- `sessions.EndInput`, as `ServeWS` fills it. -/
structure EndInput where
  sessionID : String
  bytesIn : ℕ
  bytesOut : ℕ
  error : String
deriving DecidableEq

/-- The goroutine of the request. -/
inductive Main where
  /-- in `<-errCh` -/
  | waiting
  | received (e : BridgeErr)
  /-- `db.Close()` has returned -/
  | closed (e : BridgeErr)
  /-- `bridge` has returned -/
  | returned (e : BridgeErr) (bytesIn bytesOut : ℕ)
  /-- `ServeWS` has returned -/
  | ended (e : BridgeErr) (bytesIn bytesOut : ℕ)

namespace Main

def dbClosed : Main → Bool
  | .waiting | .received _ => false
  | .closed _ | .returned .. | .ended .. => true

def wsClosed : Main → Bool
  | .waiting | .received _ | .closed _ | .returned .. => false
  | .ended .. => true

/-- The error that `bridge` has received. -/
def err : Main → Option BridgeErr
  | .waiting => none
  | .received e | .closed e | .returned e _ _ | .ended e _ _ => some e

/-- The counters that `bridge` has returned. -/
def counters : Main → Option (ℕ × ℕ)
  | .waiting | .received _ | .closed _ => none
  | .returned _ bytesIn bytesOut | .ended _ bytesIn bytesOut => some (bytesIn, bytesOut)

end Main

structure State where
  auditID : String
  /-- client → db -/
  toDb : Pump UInt8 BridgeErr := {}
  /-- db → client -/
  toClient : Pump UInt8 BridgeErr := {}
  /-- so many messages the websocket still hands out when it is closed -/
  wsLeft : ℕ
  /-- so many bytes the connection to the database still hands out when it is closed -/
  dbLeft : ℕ
  errCh : List BridgeErr := []
  main : Main := .waiting
  /-- the calls of `End` -/
  ends : List EndInput := []
  /-- all the errors that were sent to `errCh` -/
  failures : List BridgeErr := []

/-- A move of a pump, or the next step of the goroutine of the request. -/
inductive Label where
  | toDb (m : Move UInt8 BridgeErr)
  | toClient (m : Move UInt8 BridgeErr)
  | main

/-- The size of the buffer for what the database sends. -/
def bufferSize : ℕ := 32 * 1024

/-- What the websocket and the database let the first pump do; a message comes without an error. -/
def mayToDb (s : State) : Move UInt8 BridgeErr → Bool
  | .take _ after => after.isNone && (!s.main.wsClosed || decide (0 < s.wsLeft))
  | .pass _ => !s.main.dbClosed
  | _ => true

/-- What they let the second pump do. -/
def mayToClient (s : State) : Move UInt8 BridgeErr → Bool
  | .take chunk _ => !chunk.isEmpty && decide (chunk.length ≤ bufferSize) &&
      (!s.main.dbClosed || decide (chunk.length ≤ s.dbLeft))
  | .pass _ => !s.main.wsClosed
  | _ => true

/-- The text of the error in the audit row. -/
def auditText (e : BridgeErr) : String := if isClosedErr e then "" else e.message

/-- `ServeWS` behind `bridge`. -/
def audit (auditID : String) (e : BridgeErr) (bytesIn bytesOut : ℕ) : List EndInput :=
  if auditID = "" then []
  else [{ sessionID := auditID, bytesIn, bytesOut, error := auditText e }]

namespace State

variable (s : State)

/-- `errCh <- err`; the channel has room for the errors of both pumps. -/
def send (e : Option BridgeErr) : State :=
  { s with errCh := s.errCh ++ e.toList, failures := s.failures ++ e.toList }

def stepMain : State :=
  match s.main with
  | .waiting =>
    match s.errCh with
    | [] => s
    | e :: rest => { s with errCh := rest, main := .received e }
  | .received e => { s with main := .closed e }
  | .closed e => { s with main := .returned e s.toDb.counted s.toClient.counted }
  | .returned e bytesIn bytesOut =>
    { s with ends := s.ends ++ audit s.auditID e bytesIn bytesOut
             main := .ended e bytesIn bytesOut }
  | .ended .. => s

end State

def step (s : State) : Label → State
  | .toDb m =>
    if mayToDb s m then
      { s with
        toDb := (s.toDb.move m).1
        wsLeft := if s.main.wsClosed then s.wsLeft - (s.toDb.phase.reads m).toList.length
          else s.wsLeft }.send (s.toDb.move m).2
    else s
  | .toClient m =>
    if mayToClient s m then
      { s with
        toClient := (s.toClient.move m).1
        dbLeft := if s.main.dbClosed then s.dbLeft - ((s.toClient.phase.reads m).getD []).length
          else s.dbLeft }.send (s.toClient.move m).2
    else s
  | .main => s.stepMain

/-- `bridge` has started its goroutines. -/
def init (auditID : String) (wsLeft dbLeft : ℕ) : State := { auditID, wsLeft, dbLeft }

/-! ### Accounts -/

/-- What the counters say of the pumps: they have all that the database was given, and all that it
has sent but one buffer and what its connection hands out after it was closed. -/
structure Accounts (dbLeft : ℕ) (s : State) (bytesIn bytesOut : ℕ) : Prop where
  given_le : s.toDb.given.length ≤ bytesIn
  le_taken : bytesIn ≤ s.toDb.taken.length
  out_le : bytesOut ≤ s.toClient.taken.length
  taken_le : s.toClient.taken.length + s.dbLeft ≤ bytesOut + bufferSize + dbLeft

structure Inv (wsLeft dbLeft : ℕ) (s : State) : Prop where
  toDb : s.toDb.InBalance
  toClient : s.toClient.InBalance
  buffer : s.toClient.phase.uncounted ≤ bufferSize
  chunks : ∀ after, s.toClient.phase ≠ .counting [] after
  wsLeft_le : s.wsLeft ≤ wsLeft
  dbLeft_le : s.dbLeft ≤ dbLeft
  failures_eq : s.failures = s.main.err.toList ++ s.errCh
  failures_length :
    s.failures.length = s.toDb.phase.isEnded.toNat + s.toClient.phase.isEnded.toNat
  accounts : ∀ c ∈ s.main.counters, Accounts dbLeft s c.1 c.2
  ends_eq : s.ends = match s.main with
    | .ended e bytesIn bytesOut => audit s.auditID e bytesIn bytesOut
    | _ => []

section

variable {wsLeft dbLeft : ℕ} {s : State}

lemma inv_init (auditID : String) : Inv wsLeft dbLeft (init auditID wsLeft dbLeft) where
  toDb := inBalance_start
  toClient := inBalance_start
  buffer := Nat.zero_le _
  chunks := by rintro after ⟨⟩
  wsLeft_le := le_rfl
  dbLeft_le := le_rfl
  failures_eq := rfl
  failures_length := rfl
  accounts := by rintro c ⟨⟩
  ends_eq := rfl

/-- The counters are read from behind the close. -/
lemma dbClosed_of_counters {main : Main} {c : ℕ × ℕ} (h : c ∈ main.counters) :
    main.dbClosed = true := by
  cases main <;> first | rfl | cases h

lemma inv_toDb (h : Inv wsLeft dbLeft s) (m : Move UInt8 BridgeErr) :
    Inv wsLeft dbLeft (step s (.toDb m)) := by
  rw [step]
  split
  · next hmay =>
    refine ⟨h.toDb.move m, h.toClient, h.buffer, h.chunks, ?_, h.dbLeft_le, ?_, ?_,
      fun c hc => ?_, h.ends_eq⟩
    · refine le_trans ?_ h.wsLeft_le
      simp only [State.send]
      split
      · exact Nat.sub_le _ _
      · exact le_rfl
    · simp only [State.send, h.failures_eq, List.append_assoc]
    · simp only [State.send, List.length_append, h.failures_length, toNat_isEnded_move]
      omega
    · have hclosed : s.main.dbClosed = true := dbClosed_of_counters hc
      have hgiven : (s.toDb.move m).1.given = s.toDb.given := by
        refine given_move fun n hm => ?_
        subst hm
        simp [mayToDb, hclosed] at hmay
      obtain ⟨hgiven', htaken, hout, hout'⟩ := h.accounts c hc
      exact ⟨hgiven ▸ hgiven', htaken.trans taken_prefix_move.length_le, hout, hout'⟩
  · exact h

/-- What the second pump reads is one buffer at most, and what is left once the connection is
closed. -/
lemma length_of_reads {m : Move UInt8 BridgeErr} (hmay : mayToClient s m = true)
    {chunk : Bytes} (h : s.toClient.phase.reads m = some chunk) :
    chunk ≠ [] ∧ chunk.length ≤ bufferSize ∧
      (s.main.dbClosed = true → chunk.length ≤ s.dbLeft) := by
  obtain ⟨-, after, rfl⟩ := reads_eq_some h
  simp only [mayToClient, Bool.and_eq_true, Bool.or_eq_true, Bool.not_eq_true',
    decide_eq_true_eq, List.isEmpty_eq_false_iff] at hmay
  refine ⟨hmay.1.1, hmay.1.2, fun hclosed => ?_⟩
  exact hmay.2.resolve_left (by rw [hclosed]; simp)

lemma inv_toClient (h : Inv wsLeft dbLeft s) (m : Move UInt8 BridgeErr) :
    Inv wsLeft dbLeft (step s (.toClient m)) := by
  rw [step]
  split
  · next hmay =>
    refine ⟨h.toDb, h.toClient.move m, uncounted_move h.buffer ?_, ?_, h.wsLeft_le, ?_, ?_, ?_,
      fun c hc => ?_, h.ends_eq⟩
    · rintro chunk after rfl
      simp only [mayToClient, Bool.and_eq_true, decide_eq_true_eq] at hmay
      exact hmay.1.2
    · exact counting_move h.chunks fun hreads => (length_of_reads hmay hreads).1 rfl
    · refine le_trans ?_ h.dbLeft_le
      simp only [State.send]
      split
      · exact Nat.sub_le _ _
      · exact le_rfl
    · simp only [State.send, h.failures_eq, List.append_assoc]
    · simp only [State.send, List.length_append, h.failures_length, toNat_isEnded_move]
      omega
    · have hclosed : s.main.dbClosed = true := dbClosed_of_counters hc
      obtain ⟨hin, hin', hout, hout'⟩ := h.accounts c hc
      refine ⟨hin, hin', hout.trans taken_prefix_move.length_le, ?_⟩
      -- what is read is no longer left
      simp only [State.send, if_pos hclosed, taken_move, List.length_append]
      cases hreads : s.toClient.phase.reads m with
      | none => simpa using hout'
      | some chunk =>
        have hlength := (length_of_reads hmay hreads).2.2 hclosed
        simp only [Option.getD_some]
        omega
  · exact h

lemma inv_main (h : Inv wsLeft dbLeft s) : Inv wsLeft dbLeft s.stepMain := by
  obtain ⟨hdb, hclient, hbuffer, hchunks, hws, hleft, hfailures, hlength, haccounts, hends⟩ := h
  rw [State.stepMain]
  split
  · next hmain =>
    rw [hmain] at hfailures hends
    split
    · exact ⟨hdb, hclient, hbuffer, hchunks, hws, hleft, by rw [hmain, hfailures], hlength,
        haccounts, by rw [hmain, hends]⟩
    · next e rest hch =>
      rw [hch] at hfailures
      exact ⟨hdb, hclient, hbuffer, hchunks, hws, hleft, hfailures, hlength, by rintro c ⟨⟩, hends⟩
  · next e hmain =>
    rw [hmain] at hfailures hends
    exact ⟨hdb, hclient, hbuffer, hchunks, hws, hleft, hfailures, hlength, by rintro c ⟨⟩, hends⟩
  · next e hmain =>
    rw [hmain] at hfailures hends
    refine ⟨hdb, hclient, hbuffer, hchunks, hws, hleft, hfailures, hlength, ?_, hends⟩
    rintro c ⟨⟩
    -- the pump has one buffer in hand at most
    have hin := hdb.taken_eq
    have hout := hclient.taken_eq
    refine ⟨hdb.given_le, hin ▸ Nat.le_add_right _ _, hout ▸ Nat.le_add_right _ _, ?_⟩
    rw [hout]
    exact Nat.add_le_add (Nat.add_le_add_left hbuffer _) hleft
  · next e bytesIn bytesOut hmain =>
    rw [hmain] at hfailures hends haccounts
    refine ⟨hdb, hclient, hbuffer, hchunks, hws, hleft, hfailures, hlength, ?_, ?_⟩
    · rintro c ⟨⟩
      obtain ⟨hgiven, htaken, hout, hout'⟩ := haccounts _ rfl
      exact ⟨hgiven, htaken, hout, hout'⟩
    · simp only [hends, List.nil_append]
  · exact ⟨hdb, hclient, hbuffer, hchunks, hws, hleft, hfailures, hlength, haccounts, hends⟩

/-- **The step lemma.** -/
lemma inv_step (h : Inv wsLeft dbLeft s) (l : Label) : Inv wsLeft dbLeft (step s l) := by
  cases l with
  | toDb m => exact inv_toDb h m
  | toClient m => exact inv_toClient h m
  | main => exact inv_main h

/-- **The run lemma.** -/
lemma inv_run (auditID : String) (wsLeft dbLeft : ℕ) (ls : List Label) :
    Inv wsLeft dbLeft (run step (init auditID wsLeft dbLeft) ls) :=
  invariant (I := Inv wsLeft dbLeft) (fun _ l h => inv_step h l) (inv_init auditID) ls

/-- **The accounts of a session.**  In every interleaving both directions pass on a prefix of what
they have read, and all of it whenever they wait for more.  There is at most one audit row, it has
every byte that the database was ever given, it lacks at most one buffer of what the client was
ever sent and what the connection to the database has handed out after it was closed, and its text
is that of the first error. -/
theorem bridge_accounts (auditID : String) (wsLeft dbLeft : ℕ) (ls : List Label) :
    let s := run step (init auditID wsLeft dbLeft) ls
    (s.toDb.given <+: s.toDb.taken ∧ s.toClient.given <+: s.toClient.taken) ∧
      (s.toDb.phase = .reading → s.toDb.given = s.toDb.taken) ∧
      (s.toClient.phase = .reading → s.toClient.given = s.toClient.taken) ∧
      s.errCh.length ≤ 2 ∧ s.ends.length ≤ 1 ∧
      ∀ row ∈ s.ends, row.sessionID = s.auditID ∧ s.auditID ≠ "" ∧
        s.toDb.given.length ≤ row.bytesIn ∧ row.bytesIn ≤ s.toDb.taken.length ∧
        row.bytesOut ≤ s.toClient.taken.length ∧
        s.toClient.given.length ≤ row.bytesOut + bufferSize + dbLeft ∧
        ∃ e, s.failures.head? = some e ∧ row.error = auditText e := by
  intro s
  have hinv : Inv wsLeft dbLeft s := inv_run auditID wsLeft dbLeft ls
  have hreading : ∀ p : Pump UInt8 BridgeErr, p.InBalance → p.phase = .reading →
      p.given = p.taken := by
    intro p hp hphase
    rw [InBalance, hphase] at hp
    exact hp.1
  refine ⟨⟨hinv.toDb.given_prefix, hinv.toClient.given_prefix⟩, hreading _ hinv.toDb,
    hreading _ hinv.toClient, ?_, ?_⟩
  · -- each pump sends one error at most
    have hsent := congrArg List.length hinv.failures_eq
    have hdb := Bool.toNat_le s.toDb.phase.isEnded
    have hclient := Bool.toNat_le s.toClient.phase.isEnded
    rw [hinv.failures_length, List.length_append] at hsent
    omega
  · have hends := hinv.ends_eq
    have hfailures := hinv.failures_eq
    split at hends
    · next e bytesIn bytesOut hmain =>
      rw [hmain] at hfailures
      obtain ⟨hgiven, htaken, hout, hout'⟩ := hinv.accounts (bytesIn, bytesOut) (by rw [hmain]; rfl)
      rw [hends, audit]
      split
      · exact ⟨Nat.zero_le 1, by simp⟩
      · next hid =>
        refine ⟨le_rfl, fun row hrow => ?_⟩
        obtain rfl := List.mem_singleton.mp hrow
        have hsent := hinv.toClient.given_prefix.length_le.trans (Nat.le_of_add_right_le hout')
        exact ⟨rfl, hid, hgiven, htaken, hout, hsent, e, by rw [hfailures]; rfl, rfl⟩
    · rw [hends]
      exact ⟨Nat.zero_le 1, by simp⟩

/-! ### The end of the goroutines -/

/-- The step is a move of a pump that is open to it. -/
def moved (s : State) (l : Label) : Bool :=
  match l with
  | .toDb m => mayToDb s m && s.toDb.phase.accepts m
  | .toClient m => mayToClient s m && s.toClient.phase.accepts m
  | .main => false

/-- The weight of a move. -/
def moves (s : State) (l : Label) (_ : State) : ℕ := if moved s l then 1 else 0

/-- How many moves are left when both connections are closed: each message that the websocket has
left brings three. -/
def movesLeft (s : State) : ℕ :=
  s.toDb.phase.movesLeft + 3 * s.wsLeft + s.toClient.phase.movesLost

lemma stepMain_of_ended (h : s.main.wsClosed = true) : s.stepMain = s := by
  cases hmain : s.main with
  | ended => rw [State.stepMain, hmain]
  | waiting | received | closed | returned =>
    rw [hmain] at h
    cases h

lemma dbClosed_of_wsClosed {main : Main} (h : main.wsClosed = true) : main.dbClosed = true := by
  cases main <;> first | rfl | cases h

/-- A move of the first pump when the session has ended. -/
lemma toDb_of_ended (h : s.main.wsClosed = true) {m : Move UInt8 BridgeErr}
    (hmay : mayToDb s m = true) : (s.toDb.move m).1.given = s.toDb.given ∧
      (if s.toDb.phase.accepts m then 1 else 0) + (s.toDb.move m).1.phase.movesLeft +
          3 * (s.wsLeft - (s.toDb.phase.reads m).toList.length) ≤
        s.toDb.phase.movesLeft + 3 * s.wsLeft := by
  have hpass : m.passes = false := by
    cases m with
    | pass n => simp [mayToDb, dbClosed_of_wsClosed h] at hmay
    | _ => rfl
  refine ⟨given_of_not_passes hpass, ?_⟩
  split
  · next haccepts =>
    have hleft := movesLeft_move haccepts hpass
    -- a message that is read is no longer left
    cases hreads : s.toDb.phase.reads m with
    | none =>
      rw [hreads] at hleft
      simp only [Option.toList_none, List.length_nil] at hleft ⊢
      omega
    | some chunk =>
      obtain ⟨-, after, rfl⟩ := reads_eq_some hreads
      simp only [mayToDb, h, Bool.not_true, Bool.false_or, Bool.and_eq_true,
        decide_eq_true_eq] at hmay
      rw [hreads] at hleft
      simp only [Option.toList_some, List.length_singleton] at hleft ⊢
      omega
  · next haccepts =>
    have hclosed := Bool.eq_false_iff.mpr haccepts
    rw [move_of_not_accepts hclosed, reads_of_not_accepts hclosed]
    simp

/-- A move of the second pump when the session has ended. -/
lemma toClient_of_ended (h : s.main.wsClosed = true) {m : Move UInt8 BridgeErr}
    (hmay : mayToClient s m = true) : (s.toClient.move m).1.given = s.toClient.given ∧
      (if s.toClient.phase.accepts m then 1 else 0) + (s.toClient.move m).1.phase.movesLost ≤
        s.toClient.phase.movesLost := by
  have hpass : m.passes = false := by
    cases m with
    | pass n => simp [mayToClient, h] at hmay
    | _ => rfl
  refine ⟨given_of_not_passes hpass, ?_⟩
  split
  · next haccepts =>
    rw [Nat.add_comm]
    exact movesLost_move haccepts hpass fun hreads => (length_of_reads hmay hreads).1 rfl
  · next haccepts =>
    rw [move_of_not_accepts (Bool.eq_false_iff.mpr haccepts), Nat.zero_add]

/-- A step of a session that has ended. -/
lemma step_of_ended (h : s.main.wsClosed = true) (l : Label) :
    (step s l).main.wsClosed = true ∧ (step s l).toDb.given = s.toDb.given ∧
      (step s l).toClient.given = s.toClient.given ∧ (step s l).ends = s.ends ∧
      (if moved s l then 1 else 0) + movesLeft (step s l) ≤ movesLeft s := by
  cases l with
  | toDb m =>
    rw [step, moved]
    cases hmay : mayToDb s m with
    | false => exact ⟨h, rfl, rfl, rfl, by simp⟩
    | true =>
      obtain ⟨hgiven, hleft⟩ := toDb_of_ended h hmay
      refine ⟨h, hgiven, rfl, rfl, ?_⟩
      simp only [movesLeft, State.send, Bool.true_and, if_true, h]
      omega
  | toClient m =>
    rw [step, moved]
    cases hmay : mayToClient s m with
    | false => exact ⟨h, rfl, rfl, rfl, by simp⟩
    | true =>
      obtain ⟨hgiven, hleft⟩ := toClient_of_ended h hmay
      refine ⟨h, rfl, hgiven, rfl, ?_⟩
      simp only [movesLeft, State.send, Bool.true_and, if_true]
      omega
  | main =>
    rw [step, stepMain_of_ended h]
    exact ⟨h, rfl, rfl, rfl, by simp [moved]⟩

/-- A pump of a session that has ended can move, unless it has ended too. -/
lemma ended_or_moved (s : State) :
    (s.toDb.phase.isEnded = true ∧ s.toClient.phase.isEnded = true) ∨ ∃ l, moved s l = true := by
  have e : BridgeErr := { message := "use of closed network connection" }
  cases hdb : s.toDb.phase.isEnded with
  | false =>
    obtain ⟨m, haccepts, hpass, htake⟩ := exists_accepts e hdb
    refine .inr ⟨.toDb m, ?_⟩
    cases m with
    | take chunk after => exact absurd rfl (htake chunk after)
    | pass n => cases hpass
    | _ => rw [moved, haccepts]; rfl
  | true =>
    cases hclient : s.toClient.phase.isEnded with
    | false =>
      obtain ⟨m, haccepts, hpass, htake⟩ := exists_accepts e hclient
      refine .inr ⟨.toClient m, ?_⟩
      cases m with
      | take chunk after => exact absurd rfl (htake chunk after)
      | pass n => cases hpass
      | _ => rw [moved, haccepts]; rfl
    | true => exact .inl ⟨rfl, rfl⟩

/-- **The goroutines end.**  When `ServeWS` has returned, nothing more gets to either side and
there is no other audit row; both pumps end after seven moves and three for each message that the
closed websocket still hands out, and one that has not ended can move. -/
theorem bridge_winds_down (auditID : String) (wsLeft dbLeft : ℕ) (ls₀ ls : List Label)
    (h : (run step (init auditID wsLeft dbLeft) ls₀).main.wsClosed = true) :
    let s := run step (init auditID wsLeft dbLeft) ls₀
    let s' := run step s ls
    s'.toDb.given = s.toDb.given ∧ s'.toClient.given = s.toClient.given ∧ s'.ends = s.ends ∧
      tally step moves s ls ≤ 7 + 3 * wsLeft ∧
      ((s'.toDb.phase.isEnded = true ∧ s'.toClient.phase.isEnded = true) ∨
        ∃ l, moved s' l = true) := by
  intro s s'
  have hkept : s'.main.wsClosed = true ∧ s'.toDb.given = s.toDb.given ∧
      s'.toClient.given = s.toClient.given ∧ s'.ends = s.ends := by
    refine invariant (I := fun t : State => t.main.wsClosed = true ∧ t.toDb.given = s.toDb.given ∧
      t.toClient.given = s.toClient.given ∧ t.ends = s.ends) (fun t l ht => ?_)
      ⟨h, rfl, rfl, rfl⟩ ls
    obtain ⟨hclosed, hdb, hclient, hends, -⟩ := step_of_ended ht.1 l
    exact ⟨hclosed, hdb.trans ht.2.1, hclient.trans ht.2.2.1, hends.trans ht.2.2.2⟩
  have htally := tally_le_of_potential (f := moves) (g := fun _ _ _ => 0) (Φ := movesLeft)
    (I := fun t : State => t.main.wsClosed = true) (fun t l ht => (step_of_ended ht l).1)
    (fun t l ht => (step_of_ended ht l).2.2.2.2.trans_eq (Nat.zero_add _).symm) h ls
  rw [tally_zero, Nat.zero_add] at htally
  refine ⟨hkept.2.1, hkept.2.2.1, hkept.2.2.2, ?_, ended_or_moved s'⟩
  have hinv : Inv wsLeft dbLeft s := inv_run auditID wsLeft dbLeft ls₀
  have hdb := s.toDb.phase.movesLeft_le
  have hclient := Phase.movesLost_le hinv.chunks
  have hws := hinv.wsLeft_le
  have hmoves : movesLeft s ≤ 7 + 3 * wsLeft := by
    rw [movesLeft]
    omega
  exact (Nat.le_of_add_right_le htally).trans hmoves

/-- The client sends a statement to a database behind a VPC proxy and goes away; the SSH channel
has three bytes for it. -/
def sampleSchedule : List Label :=
  [.toDb (.take [83, 69] none), .toDb .count, .toDb (.pass 2), .toDb (.finish none),
    .toDb (.fail { message := "websocket: close 1001 (going away)", isCloseError := true }),
    .main, .main, .main, .main]

/-- The answer of the database is read when the session has ended, and is lost. -/
def lateAnswer : List Label :=
  [.toClient (.take [1, 2, 3] none), .toClient .count,
    .toClient (.finish (some { message := "use of closed network connection" }))]

theorem bridge_winds_down_sample :
    let s := run step (init "a1" 0 3) sampleSchedule
    (run step s lateAnswer).toClient.taken = [1, 2, 3] ∧
      (run step s lateAnswer).toClient.given = [] ∧
      (run step s lateAnswer).ends =
        [{ sessionID := "a1", bytesIn := 2, bytesOut := 0, error := "" }] ∧
      tally step moves s lateAnswer = 3 ∧ tally step moves s lateAnswer ≤ 7 := by
  obtain ⟨-, hgiven, hends, hmoves, -⟩ :=
    bridge_winds_down "a1" 0 3 sampleSchedule lateAnswer rfl
  exact ⟨rfl, hgiven, hends, rfl, hmoves⟩

end

end OpsPlatform.DbProxy.Bridge
