/-
The end of a terminal session (`runSession` in `internal/terminal/handler.go`, from the start of
its goroutines).

The remote shell writes its output and exits with a status.  Whichever comes first ends the
session: a goroutine that returns cancels the context, and `session.Wait` delivers the status.
The `select` can take the first of the two after a shell that has exited, and then there is no
exit code; and on neither branch does the return wait for the pumps.  A frame carries the chunk
of its read only if the chunk is UTF-8 by itself.
-/
import Mathlib.Algebra.BigOperators.Group.List.Basic
import OpsPlatform.Lib.Run
import OpsPlatform.Lib.Utf8
import OpsPlatform.Terminal.Output
import OpsPlatform.Terminal.Session

namespace OpsPlatform.Terminal.Completion

open Lib Lib.Run Lib.Utf8 Lib.JsonText

/-- Where a pump is: what `Read` returned is recorded and then sent. -/
inductive Pump where
  | reading
  | recording (chunk : Bytes) (readErr : Bool)
  | sending (chunk : Bytes) (readErr : Bool)
  | ended
deriving DecidableEq

namespace Pump

/-- What is read and not yet passed to `WriteOutput`. -/
def toRecord : Pump → Bytes
  | recording chunk _ => chunk
  | _ => []

/-- What is read and not yet on the websocket. -/
def toSend : Pump → Bytes
  | recording chunk _ => chunk
  | sending chunk _ => chunk
  | _ => []

def isRecording : Pump → Bool
  | recording _ _ => true
  | _ => false

def isSending : Pump → Bool
  | sending _ _ => true
  | _ => false

end Pump

/-- A pump, with what it has passed to `WriteOutput` and the chunks that it has sent, each with
the frame that is on the websocket for it. -/
structure Channel where
  pump : Pump := .reading
  recorded : Bytes := []
  sent : List (Bytes × Value) := []

namespace Channel

variable (ch : Channel)

/-- `src.Read` returns. -/
def read (chunk : Bytes) (readErr : Bool) : Channel :=
  if chunk ≠ [] then { ch with pump := .recording chunk readErr }
  else if readErr then { ch with pump := .ended }
  else ch

/-- `recorder.WriteOutput`; an error is only logged. -/
def record : Channel :=
  match ch.pump with
  | .recording chunk readErr =>
    { ch with pump := .sending chunk readErr, recorded := ch.recorded ++ chunk }
  | _ => ch

/-- `ws.WriteJSON`, and the end of the iteration. -/
def send : Channel :=
  match ch.pump with
  | .sending chunk readErr =>
    { ch with pump := if readErr then .ended else .reading
              sent := ch.sent ++ [(chunk, dataFrame chunk)] }
  | _ => ch

end Channel

/-- What `runSession` returns; its error is nil once the goroutines run. -/
structure Result where
  bytesIn : ℕ
  bytesOut : ℕ
  exitCode : Option Int
deriving DecidableEq

/-- Where the goroutine of the request is. -/
inductive Main where
  | select
  /-- after the `select`, with the exit code that it has set -/
  | exiting (exitCode : Option Int)
  | returned (result : Result)
deriving DecidableEq

def Main.isExiting : Main → Bool
  | exiting _ => true
  | _ => false

structure State where
  /-- output of the shell that has not arrived -/
  toWrite : Bytes
  /-- output that nobody has read -/
  pipe : Bytes := []
  stdout : Channel := {}
  stderr : Channel := {}
  readerEnded : Bool := false
  /-- the context of the request is done -/
  contextDone : Bool := false
  waitCh : Option WaitResult := none
  inBytes : ℕ := 0
  outBytes : ℕ := 0
  main : Main := .select

/-- The goroutines are started, and the shell is going to write `output`. -/
def init (output : Bytes) : State := { toWrite := output }

/-- `sessionCtx` is done: its parent is, or a goroutine has returned and has run its deferred
`sessionCancel`. -/
def State.cancelled (s : State) : Prop :=
  s.contextDone = true ∨ s.readerEnded = true ∨ s.stdout.pump = .ended ∨ s.stderr.pump = .ended

instance (s : State) : Decidable s.cancelled := inferInstanceAs (Decidable (_ ∨ _ ∨ _ ∨ _))

/-- What `session.Wait` returns for an exit status. -/
def waitResult (status : Int) : WaitResult := if status = 0 then .ok else .exitError status

/-- The exit code that the `select` sets. -/
def exitCode : WaitResult → Option Int
  | .ok => some 0
  | .exitError code => some code
  | .other => none

/-- The steps of a session whose websocket does not fail. -/
inductive Label where
  /-- `n` more bytes of the output arrive -/
  | remoteWrites (n : ℕ)
  | readStdout (n : ℕ) (readErr : Bool)
  | readStderr (chunk : Bytes) (readErr : Bool)
  | record (src : Source)
  | send (src : Source)
  /-- a message is read; `none` for one that is not JSON -/
  | receive (frame : Option InboundFrame) (stdinFails : Bool)
  /-- the browser has sent nothing until the read deadline -/
  | readDeadline
  /-- the reader sees that `sessionCtx` is done -/
  | readerCancelled
  | contextDone
  | waitReturns
  /-- the `select` takes the branch of `sessionCtx` -/
  | selectDone
  /-- the `select` takes the branch of `waitCh` -/
  | selectWait
  | returns

namespace State

variable (s : State)

def channel : Source → Channel
  | .stdout => s.stdout
  | .stderr => s.stderr

def remoteWrites (n : ℕ) : State :=
  { s with toWrite := s.toWrite.drop n, pipe := s.pipe ++ s.toWrite.take n }

def readStdout (n : ℕ) (readErr : Bool) : State :=
  { s with pipe := s.pipe.drop n
           stdout := s.stdout.read (s.pipe.take n) readErr
           outBytes := s.outBytes + n }

def readStderr (chunk : Bytes) (readErr : Bool) : State :=
  { s with stderr := s.stderr.read chunk readErr, outBytes := s.outBytes + chunk.length }

def record : Source → State
  | .stdout => { s with stdout := s.stdout.record }
  | .stderr => { s with stderr := s.stderr.record }

def send : Source → State
  | .stdout => { s with stdout := s.stdout.send }
  | .stderr => { s with stderr := s.stderr.send }

/-- The reader has read a message. -/
def receive (stdinFails : Bool) : Option InboundFrame → State
  | none => s
  | some frame =>
    if frame.type = "data" then
      { s with inBytes := s.inBytes + frame.payload.utf8ByteSize, readerEnded := stdinFails }
    else s

def selectWait : State :=
  match s.waitCh with
  | some result => { s with main := .exiting (exitCode result) }
  | none => s

def returns : State :=
  match s.main with
  | .exiting code =>
    { s with main := .returned { bytesIn := s.inBytes, bytesOut := s.outBytes, exitCode := code } }
  | _ => s

/-- The result, once `runSession` has returned. -/
def result : Option Result :=
  match s.main with
  | .returned result => some result
  | _ => none

end State

/-- What a step does where it can be taken. -/
def step (status : Int) (s : State) : Label → State
  | .remoteWrites n => s.remoteWrites n
  | .readStdout n readErr => s.readStdout n readErr
  | .readStderr chunk readErr => s.readStderr chunk readErr
  | .record src => s.record src
  | .send src => s.send src
  | .receive frame stdinFails => s.receive stdinFails frame
  | .readDeadline | .readerCancelled => { s with readerEnded := true }
  | .contextDone => { s with contextDone := true }
  | .waitReturns => { s with waitCh := some (waitResult status) }
  | .selectDone => { s with main := .exiting none }
  | .selectWait => s.selectWait
  | .returns => s.returns

/-- When a step can be taken, before the return: a read has at most 4096 bytes, the end of the
file comes behind all output of the shell, and so does its exit. -/
def CanTake (s : State) : Label → Prop
  | .remoteWrites n => n ≤ s.toWrite.length
  | .readStdout n readErr => s.stdout.pump = .reading ∧ n ≤ 4096 ∧ n ≤ s.pipe.length ∧
      (readErr = true → s.toWrite = [] ∧ n = s.pipe.length)
  | .readStderr chunk readErr => s.stderr.pump = .reading ∧ chunk.length ≤ 4096 ∧
      (readErr = true → s.toWrite = [])
  | .record src => (s.channel src).pump.isRecording = true
  | .send src => (s.channel src).pump.isSending = true
  | .receive _ _ => s.readerEnded = false
  | .readDeadline => s.readerEnded = false
  | .readerCancelled => s.readerEnded = false ∧ s.cancelled
  | .contextDone => True
  | .waitReturns => s.toWrite = [] ∧ s.waitCh.isNone = true
  | .selectDone => s.main = .select ∧ s.cancelled
  | .selectWait => s.main = .select ∧ s.waitCh.isSome = true
  | .returns => s.main.isExiting = true

instance (s : State) : (l : Label) → Decidable (CanTake s l)
  | .remoteWrites n => inferInstanceAs (Decidable (n ≤ s.toWrite.length))
  | .readStdout _ _ => inferInstanceAs (Decidable (_ ∧ _ ∧ _ ∧ _))
  | .readStderr _ _ => inferInstanceAs (Decidable (_ ∧ _ ∧ _))
  | .record src => inferInstanceAs (Decidable ((s.channel src).pump.isRecording = true))
  | .send src => inferInstanceAs (Decidable ((s.channel src).pump.isSending = true))
  | .receive _ _ | .readDeadline => inferInstanceAs (Decidable (s.readerEnded = false))
  | .readerCancelled | .waitReturns | .selectDone | .selectWait =>
    inferInstanceAs (Decidable (_ ∧ _))
  | .contextDone => inferInstanceAs (Decidable True)
  | .returns => inferInstanceAs (Decidable (s.main.isExiting = true))

/-- A schedule of the goroutines that ends with the return of `runSession`. -/
structure Interleaving (output : Bytes) (status : Int) (ls : List Label) : Prop where
  steps : Along (step status) (fun s l => s.result = none ∧ CanTake s l) (init output) ls
  returns : (run (step status) (init output) ls).result.isSome = true

/-- Every byte of the output was passed to `WriteOutput` and sent in a frame that carries it, and
the exit code is the status. -/
structure Completed (output : Bytes) (status : Int) (s : State) : Prop where
  recorded : s.stdout.recorded = output
  sent : (s.stdout.sent.map Prod.fst).flatten = output
  carried : ∀ f ∈ s.stdout.sent, Utf8.encode (payloadOf f.2) = f.1
  exitCode : ∃ result, s.result = some result ∧ result.exitCode = some status

/-! ### What a schedule lets the session do -/

def Label.isSelectDone : Label → Bool
  | selectDone => true
  | _ => false

def Label.isSendStdout : Label → Bool
  | send .stdout => true
  | _ => false

/-- The sizes of the reads of stdout that a data frame of stdout still follows. -/
def forwardedReads : List Label → List ℕ
  | [] => []
  | .readStdout n _ :: ls =>
    if 0 < n ∧ ls.any Label.isSendStdout = true then n :: forwardedReads ls else forwardedReads ls
  | _ :: ls => forwardedReads ls

/-- A schedule on which the `select` does not take the branch of `sessionCtx`, and on which the
reads of stdout that a frame follows come to the whole output and cut it into UTF-8 texts: the
output is one, and no read ends inside a character of it. -/
structure Orderly (output : Bytes) (ls : List Label) : Prop where
  waits : ls.any Label.isSelectDone = false
  forwards : (forwardedReads ls).sum = output.length
  whole : ∀ n, Valid (output.take ((forwardedReads ls).take n).sum)

/-! ### What the pump of stdout has read -/

/-- The pump has read `got`, of which it may still have the last chunk to record and to send. -/
structure Channel.HasRead (got : Bytes) (ch : Channel) : Prop where
  recorded : ch.recorded ++ ch.pump.toRecord = got
  sent : (ch.sent.map Prod.fst).flatten ++ ch.pump.toSend = got
  frames : ∀ f ∈ ch.sent, f.2 = dataFrame f.1
  holds : ch.pump.isRecording = true ∨ ch.pump.isSending = true → ch.pump.toSend ≠ []

section

variable {got : Bytes} {ch : Channel}

lemma Channel.HasRead.read (h : ch.HasRead got) (hreading : ch.pump = .reading) (chunk : Bytes)
    (readErr : Bool) : (ch.read chunk readErr).HasRead (got ++ chunk) := by
  obtain ⟨hrecorded, hsent, hframes, hholds⟩ := h
  have hrecorded' : ch.recorded = got := by simpa [hreading, Pump.toRecord] using hrecorded
  have hsent' : (ch.sent.map Prod.fst).flatten = got := by
    simpa [hreading, Pump.toSend] using hsent
  rw [Channel.read]
  split
  · next hchunk =>
    exact ⟨by rw [hrecorded']; rfl, by rw [hsent']; rfl, hframes, fun _ => hchunk⟩
  · next hempty =>
    obtain rfl := not_not.mp hempty
    rw [List.append_nil]
    split
    · refine ⟨by simp [hrecorded', Pump.toRecord], by simp [hsent', Pump.toSend], hframes, ?_⟩
      simp [Pump.isRecording, Pump.isSending]
    · exact ⟨hrecorded, hsent, hframes, hholds⟩

lemma Channel.HasRead.record (h : ch.HasRead got) : ch.record.HasRead got := by
  obtain ⟨hrecorded, hsent, hframes, hholds⟩ := h
  rw [Channel.record]
  split
  · next chunk readErr hpump =>
    rw [hpump] at hrecorded hsent hholds
    refine ⟨by rw [← hrecorded]; exact List.append_nil _, hsent, hframes, fun _ => ?_⟩
    exact hholds (Or.inl rfl)
  · exact ⟨hrecorded, hsent, hframes, hholds⟩

lemma Channel.HasRead.send (h : ch.HasRead got) : ch.send.HasRead got := by
  obtain ⟨hrecorded, hsent, hframes, hholds⟩ := h
  rw [Channel.send]
  split
  · next chunk readErr hpump =>
    rw [hpump] at hrecorded hsent
    have hframes' : ∀ f ∈ ch.sent ++ [(chunk, dataFrame chunk)], f.2 = dataFrame f.1 := by
      intro f hf
      rcases List.mem_append.mp hf with hf | hf
      · exact hframes f hf
      · rw [List.mem_singleton.mp hf]
    have hsent' : ((ch.sent ++ [(chunk, dataFrame chunk)]).map Prod.fst).flatten = got := by
      rw [← hsent, List.map_append, List.flatten_append]
      exact congrArg _ (List.append_nil chunk)
    cases readErr
    · exact ⟨hrecorded, by rw [← hsent']; exact List.append_nil _, hframes',
        by simp [Pump.isRecording, Pump.isSending]⟩
    · exact ⟨hrecorded, by rw [← hsent']; exact List.append_nil _, hframes',
        by simp [Pump.isRecording, Pump.isSending]⟩
  · exact ⟨hrecorded, hsent, hframes, hholds⟩

lemma Pump.toRecord_of_toSend {p : Pump} (h : p.toSend = []) : p.toRecord = [] := by
  cases p with
  | recording chunk readErr => exact h
  | _ => rfl

/-- The frame of a chunk carries it exactly if it is UTF-8. -/
lemma carried_dataFrame (chunk : Bytes) :
    Utf8.encode (payloadOf (dataFrame chunk)) = chunk ↔ Valid chunk := by
  rw [payloadOf_dataFrame, valid_iff_toValid]
  exact Iff.rfl

lemma Channel.HasRead.carried_iff (h : ch.HasRead got) :
    (∀ f ∈ ch.sent, Utf8.encode (payloadOf f.2) = f.1) ↔
      ∀ n, Valid ((ch.sent.map Prod.fst).take n).flatten := by
  rw [← valid_pieces_iff, List.forall_mem_map]
  refine forall₂_congr fun f hf => ?_
  rw [h.frames f hf, carried_dataFrame]

end

/-! ### Where the output is -/

/-- The output is what was read, what is in the pipe and what has not arrived, in this order. -/
def Flow (output : Bytes) (s : State) : Prop :=
  ∃ got, s.stdout.HasRead got ∧ got ++ (s.pipe ++ s.toWrite) = output

section

variable {output : Bytes} {status : Int} {s : State}

lemma flow_init : Flow output (init output) :=
  ⟨[], ⟨rfl, rfl, by simp [init], by simp [init, Pump.isRecording, Pump.isSending]⟩, rfl⟩

lemma Flow.remoteWrites (h : Flow output s) (n : ℕ) : Flow output (s.remoteWrites n) := by
  obtain ⟨got, hread, heq⟩ := h
  refine ⟨got, hread, ?_⟩
  rw [← heq, State.remoteWrites, List.append_assoc s.pipe, List.take_append_drop]

lemma Flow.readStdout (h : Flow output s) (hreading : s.stdout.pump = .reading) (n : ℕ)
    (readErr : Bool) : Flow output (s.readStdout n readErr) := by
  obtain ⟨got, hread, heq⟩ := h
  refine ⟨got ++ s.pipe.take n, hread.read hreading _ _, ?_⟩
  show got ++ s.pipe.take n ++ (s.pipe.drop n ++ s.toWrite) = output
  rw [List.append_assoc, ← List.append_assoc (s.pipe.take n), List.take_append_drop, heq]

lemma Flow.record (h : Flow output s) (src : Source) : Flow output (s.record src) := by
  cases src with
  | stdout =>
    obtain ⟨got, hread, heq⟩ := h
    exact ⟨got, hread.record, heq⟩
  | stderr => exact h

lemma Flow.send (h : Flow output s) (src : Source) : Flow output (s.send src) := by
  cases src with
  | stdout =>
    obtain ⟨got, hread, heq⟩ := h
    exact ⟨got, hread.send, heq⟩
  | stderr => exact h

lemma receive_cases (stdinFails : Bool) (frame : Option InboundFrame) :
    s.receive stdinFails frame = s ∨ ∃ inBytes readerEnded,
      s.receive stdinFails frame = { s with inBytes := inBytes, readerEnded := readerEnded } := by
  cases frame with
  | none => exact Or.inl rfl
  | some frame =>
    rw [State.receive]
    split
    · exact Or.inr ⟨_, _, rfl⟩
    · exact Or.inl rfl

lemma selectWait_cases :
    s.selectWait = s ∨ ∃ result, s.waitCh = some result ∧
      s.selectWait = { s with main := .exiting (exitCode result) } := by
  rw [State.selectWait]
  split
  · next result hwait => exact Or.inr ⟨result, hwait, rfl⟩
  · exact Or.inl rfl

lemma returns_cases :
    s.returns = s ∨ ∃ code, s.main = .exiting code ∧
      s.returns = { s with main := .returned ⟨s.inBytes, s.outBytes, code⟩ } := by
  rw [State.returns]
  split
  · next code hmain => exact Or.inr ⟨code, hmain, rfl⟩
  · exact Or.inl rfl

lemma Flow.step (h : Flow output s) {l : Label} (hl : CanTake s l) :
    Flow output (step status s l) := by
  cases l with
  | remoteWrites n => exact h.remoteWrites n
  | readStdout n readErr => exact h.readStdout hl.1 n readErr
  | readStderr chunk readErr => exact h
  | record src => exact h.record src
  | send src => exact h.send src
  | receive frame stdinFails =>
    rw [Completion.step]
    rcases receive_cases (s := s) stdinFails frame with heq | ⟨_, _, heq⟩
    · rw [heq]
      exact h
    · rw [heq]
      exact h
  | readDeadline => exact h
  | readerCancelled => exact h
  | contextDone => exact h
  | waitReturns => exact h
  | selectDone => exact h
  | selectWait =>
    rw [Completion.step]
    rcases selectWait_cases (s := s) with heq | ⟨_, _, heq⟩
    · rw [heq]
      exact h
    · rw [heq]
      exact h
  | returns =>
    rw [Completion.step]
    rcases returns_cases (s := s) with heq | ⟨_, _, heq⟩
    · rw [heq]
      exact h
    · rw [heq]
      exact h

/-! ### The chunks that a schedule sends -/

/-- The steps of the pump of stdout. -/
def Label.ofStdout : Label → Bool
  | readStdout _ _ | record .stdout | send .stdout => true
  | _ => false

lemma stdout_step {l : Label} (hl : l.ofStdout = false) :
    (step status s l).stdout = s.stdout := by
  cases l with
  | readStdout n readErr => cases hl
  | record src =>
    cases src with
    | stdout => cases hl
    | stderr => rfl
  | send src =>
    cases src with
    | stdout => cases hl
    | stderr => rfl
  | receive frame stdinFails =>
    rw [step]
    rcases receive_cases (s := s) stdinFails frame with heq | ⟨_, _, heq⟩ <;> rw [heq]
  | selectWait =>
    rw [step]
    rcases selectWait_cases (s := s) with heq | ⟨_, _, heq⟩ <;> rw [heq]
  | returns =>
    rw [step]
    rcases returns_cases (s := s) with heq | ⟨_, _, heq⟩ <;> rw [heq]
  | _ => rfl

lemma forwardedReads_cons {l : Label} (hl : l.ofStdout = false) (ls : List Label) :
    forwardedReads (l :: ls) = forwardedReads ls := by
  cases l with
  | readStdout n readErr => cases hl
  | _ => rfl

lemma isSendStdout_of_ofStdout {l : Label} (hl : l.ofStdout = false) : l.isSendStdout = false := by
  cases l with
  | send src =>
    cases src with
    | stdout => cases hl
    | stderr => rfl
  | _ => rfl

/-- The size of the chunk that a pump holds. -/
def Pump.held (p : Pump) : List ℕ := if p.toSend = [] then [] else [p.toSend.length]

def Channel.sizes (ch : Channel) : List ℕ := ch.sent.map fun f => f.1.length

lemma Channel.sizes_read (ch : Channel) (chunk : Bytes) (readErr : Bool) :
    (ch.read chunk readErr).sizes = ch.sizes := by
  rw [Channel.read]
  split
  · rfl
  · split <;> rfl

lemma Channel.held_read {ch : Channel} (hreading : ch.pump = .reading) (chunk : Bytes)
    (readErr : Bool) : (ch.read chunk readErr).pump.held =
      if 0 < chunk.length then [chunk.length] else [] := by
  rw [Channel.read]
  by_cases hchunk : chunk = []
  · rw [if_neg (not_not.mpr hchunk), hchunk, List.length_nil, if_neg (Nat.lt_irrefl 0)]
    split
    · rfl
    · rw [hreading]
      rfl
  · rw [if_pos hchunk, if_pos (List.length_pos_iff.mpr hchunk)]
    exact if_neg hchunk

lemma Channel.record_eq (ch : Channel) :
    ch.record.pump.held = ch.pump.held ∧ ch.record.sizes = ch.sizes := by
  rw [Channel.record]
  split
  · next chunk readErr hpump => exact ⟨by rw [hpump]; rfl, rfl⟩
  · exact ⟨rfl, rfl⟩

/-- A pump at its send sends what it holds. -/
lemma Channel.HasRead.sizes_send {got : Bytes} {ch : Channel} (h : ch.HasRead got)
    (hsending : ch.pump.isSending = true) :
    ch.send.pump.held = [] ∧ ch.send.sizes = ch.sizes ++ ch.pump.held := by
  have hne := h.holds (Or.inr hsending)
  rw [Channel.send]
  split
  · next chunk readErr hpump =>
    refine ⟨by cases readErr <;> rfl, ?_⟩
    rw [Pump.held, if_neg hne, hpump, Channel.sizes, List.map_append]
    rfl
  · next hnot =>
    cases hpump : ch.pump with
    | sending chunk readErr => exact absurd hpump (hnot chunk readErr)
    | _ =>
      rw [hpump] at hsending
      cases hsending

/-- On the rest of a schedule the pump sends the chunk that it holds, if it sends anything, and
then the chunks of the reads that are forwarded. -/
lemma sizes_run (h : Flow output s) {ls : List Label}
    (hsteps : Along (step status) (fun s l => s.result = none ∧ CanTake s l) s ls) :
    (run (step status) s ls).stdout.sizes = s.stdout.sizes ++
      ((if ls.any Label.isSendStdout = true then s.stdout.pump.held else []) ++
        forwardedReads ls) := by
  induction ls generalizing s with
  | nil => simp [forwardedReads]
  | cons l ls ih =>
    obtain ⟨⟨-, hl⟩, hrest⟩ := hsteps
    rw [run_cons, ih (h.step hl) hrest]
    by_cases hother : l.ofStdout = false
    · rw [stdout_step hother, forwardedReads_cons hother, List.any_cons,
        isSendStdout_of_ofStdout hother, Bool.false_or]
    · cases l with
      | readStdout n readErr =>
        obtain ⟨hreading, -, hn, -⟩ := hl
        have hheld : s.stdout.pump.held = [] := by rw [hreading]; rfl
        have hlength : (s.pipe.take n).length = n := List.length_take_of_le hn
        show (s.stdout.read (s.pipe.take n) readErr).sizes ++
          ((if _ then (s.stdout.read (s.pipe.take n) readErr).pump.held else []) ++ _) = _
        rw [Channel.sizes_read, Channel.held_read hreading, hlength, hheld, ite_self,
          List.nil_append, forwardedReads]
        by_cases hsend : ls.any Label.isSendStdout = true
        · by_cases hn : 0 < n
          · rw [if_pos hsend, if_pos hn, if_pos ⟨hn, hsend⟩, List.singleton_append]
          · rw [if_neg hn, ite_self, if_neg fun h => hn h.1, List.nil_append]
        · rw [if_neg hsend, if_neg fun h => hsend h.2, List.nil_append]
      | record src =>
        cases src with
        | stderr => exact absurd rfl hother
        | stdout =>
          show s.stdout.record.sizes ++ ((if _ then s.stdout.record.pump.held else []) ++ _) = _
          rw [s.stdout.record_eq.1, s.stdout.record_eq.2]
          rfl
      | send src =>
        cases src with
        | stderr => exact absurd rfl hother
        | stdout =>
          obtain ⟨got, hread, -⟩ := h
          obtain ⟨hheld, hsizes⟩ := hread.sizes_send hl
          show s.stdout.send.sizes ++ ((if _ then s.stdout.send.pump.held else []) ++ _) =
            s.stdout.sizes ++ ((if true = true then s.stdout.pump.held else []) ++
              forwardedReads ls)
          rw [hheld, hsizes, ite_self, List.nil_append, if_pos rfl, List.append_assoc]
      | _ => exact absurd rfl hother

/-! ### The exit code -/

/-- The branch of `sessionCtx` was not taken. -/
structure Coded (status : Int) (s : State) : Prop where
  wait : ∀ r, s.waitCh = some r → r = waitResult status
  main : s.main = .select ∨ s.main = .exiting (some status) ∨
    ∃ result, s.main = .returned result ∧ result.exitCode = some status

/-- The branch of `sessionCtx` was taken. -/
def NoCode (s : State) : Prop :=
  s.main = .exiting none ∨ ∃ result, s.main = .returned result ∧ result.exitCode = none

lemma coded_init : Coded status (init output) where
  wait := by
    intro r hr
    cases hr
  main := Or.inl rfl

lemma exitCode_waitResult (status : Int) : exitCode (waitResult status) = some status := by
  rw [waitResult]
  split
  · next h => rw [h]; rfl
  · rfl

lemma Coded.step (h : Coded status s) {l : Label} (hl : l.isSelectDone = false) :
    Coded status (step status s l) := by
  obtain ⟨hwait, hmain⟩ := h
  cases l with
  | record src => cases src <;> exact ⟨hwait, hmain⟩
  | send src => cases src <;> exact ⟨hwait, hmain⟩
  | receive frame stdinFails =>
    rw [Completion.step]
    rcases receive_cases (s := s) stdinFails frame with heq | ⟨_, _, heq⟩
    · rw [heq]
      exact ⟨hwait, hmain⟩
    · rw [heq]
      exact ⟨hwait, hmain⟩
  | waitReturns =>
    refine ⟨?_, hmain⟩
    intro r hr
    exact (Option.some.inj hr).symm
  | selectDone => cases hl
  | selectWait =>
    rw [Completion.step]
    rcases selectWait_cases (s := s) with heq | ⟨result, hresult, heq⟩
    · rw [heq]
      exact ⟨hwait, hmain⟩
    · rw [heq, hwait result hresult, exitCode_waitResult]
      exact ⟨hwait, Or.inr (Or.inl rfl)⟩
  | returns =>
    rw [Completion.step]
    rcases returns_cases (s := s) with heq | ⟨code, hcode, heq⟩
    · rw [heq]
      exact ⟨hwait, hmain⟩
    · rw [heq]
      refine ⟨hwait, Or.inr (Or.inr ⟨_, rfl, ?_⟩)⟩
      rw [hcode] at hmain
      rcases hmain with hmain | hmain | ⟨_, hmain, -⟩
      · cases hmain
      · cases hmain
        rfl
      · cases hmain
  | _ => exact ⟨hwait, hmain⟩

lemma coded_run (h : Coded status s) {ls : List Label} (hls : ls.any Label.isSelectDone = false) :
    Coded status (run (step status) s ls) := by
  induction ls generalizing s with
  | nil => exact h
  | cons l ls ih =>
    rw [List.any_cons, Bool.or_eq_false_iff] at hls
    exact ih (h.step hls.1) hls.2

lemma NoCode.step (h : NoCode s) {l : Label} (hl : s.result = none ∧ CanTake s l) :
    NoCode (step status s l) := by
  obtain ⟨hrunning, hl⟩ := hl
  have hmain : s.main = .exiting none := by
    rcases h with hmain | ⟨result, hmain, -⟩
    · exact hmain
    · rw [State.result, hmain] at hrunning
      cases hrunning
  cases l with
  | record src => cases src <;> exact Or.inl hmain
  | send src => cases src <;> exact Or.inl hmain
  | receive frame stdinFails =>
    rw [Completion.step]
    rcases receive_cases (s := s) stdinFails frame with heq | ⟨_, _, heq⟩
    · rw [heq]
      exact h
    · rw [heq]
      exact h
  | selectDone => exact Or.inl rfl
  | selectWait =>
    obtain ⟨hselect, -⟩ := hl
    rw [hmain] at hselect
    cases hselect
  | returns =>
    refine Or.inr ⟨⟨s.inBytes, s.outBytes, none⟩, ?_, rfl⟩
    rw [Completion.step, State.returns, hmain]
  | _ => exact Or.inl hmain

lemma noCode_run {ls : List Label}
    (hsteps : Along (step status) (fun s l => s.result = none ∧ CanTake s l) s ls)
    (hls : ls.any Label.isSelectDone = true) : NoCode (run (step status) s ls) := by
  induction ls generalizing s with
  | nil => cases hls
  | cons l ls ih =>
    rw [List.any_cons, Bool.or_eq_true] at hls
    rcases hls with hl | hls
    · have hnocode : NoCode (step status s l) := by
        cases l with
        | selectDone => exact Or.inl rfl
        | _ => cases hl
      rw [run_cons]
      exact invariant_along (I := NoCode) (fun s l h hl => h.step hl) hnocode hsteps.2
    · exact ih hsteps.2 hls

lemma NoCode.not_completed (h : NoCode s) : ¬ Completed output status s := by
  rintro ⟨-, -, -, result, hresult, hcode⟩
  rw [State.result] at hresult
  rcases h with hmain | ⟨result', hmain, hnone⟩
  · rw [hmain] at hresult
    cases hresult
  · rw [hmain] at hresult
    obtain rfl := Option.some.inj hresult
    rw [hnone] at hcode
    cases hcode

lemma Coded.exitCode (h : Coded status s) (hreturned : s.result.isSome = true) :
    ∃ result, s.result = some result ∧ result.exitCode = some status := by
  rw [State.result] at hreturned ⊢
  rcases h.main with hmain | hmain | ⟨result, hmain, hcode⟩
  · rw [hmain] at hreturned
    cases hreturned
  · rw [hmain] at hreturned
    cases hreturned
  · rw [hmain]
    exact ⟨result, rfl, hcode⟩

/-! ### The return -/

/-- The chunks that were sent are the output as far as they go. -/
lemma Flow.take_output (h : Flow output s) (n : ℕ) (hn : n ≤ s.stdout.sizes.sum) :
    output.take n = (s.stdout.sent.map Prod.fst).flatten.take n := by
  obtain ⟨got, hread, heq⟩ := h
  have hlength : (s.stdout.sent.map Prod.fst).flatten.length = s.stdout.sizes.sum := by
    rw [List.length_flatten, List.map_map]
    rfl
  rw [← heq, ← hread.sent, List.append_assoc]
  exact List.take_append_of_le_length (by rw [hlength]; exact hn)

/-- All of the output was recorded and sent exactly if the chunks that were sent are as long. -/
lemma Flow.all_iff (h : Flow output s) :
    (s.stdout.recorded = output ∧ (s.stdout.sent.map Prod.fst).flatten = output) ↔
      s.stdout.sizes.sum = output.length := by
  obtain ⟨got, hread, heq⟩ := h
  have hlength : (s.stdout.sent.map Prod.fst).flatten.length = s.stdout.sizes.sum := by
    rw [List.length_flatten, List.map_map]
    rfl
  constructor
  · rintro ⟨-, hsent⟩
    rw [← hlength, hsent]
  · intro hsum
    have htotal := congrArg List.length heq
    rw [← hread.sent, List.length_append, List.length_append, hlength] at htotal
    have hheld : s.stdout.pump.toSend = [] := List.length_eq_zero_iff.mp (by omega)
    have hrest : s.pipe ++ s.toWrite = [] := List.length_eq_zero_iff.mp (by omega)
    obtain ⟨hrecorded, hsent, -, -⟩ := hread
    rw [hheld, List.append_nil] at hsent
    rw [Pump.toRecord_of_toSend hheld, List.append_nil] at hrecorded
    rw [hrest, List.append_nil] at heq
    exact ⟨hrecorded.trans heq, hsent.trans heq⟩

/-- Every frame carries its chunk exactly if the output is cut between characters. -/
lemma Flow.carried_iff (h : Flow output s) :
    (∀ f ∈ s.stdout.sent, Utf8.encode (payloadOf f.2) = f.1) ↔
      ∀ n, Valid (output.take (s.stdout.sizes.take n).sum) := by
  obtain ⟨got, hread, heq⟩ := id h
  rw [hread.carried_iff]
  refine forall_congr' fun n => ?_
  have hle : (s.stdout.sizes.take n).sum ≤ s.stdout.sizes.sum := by
    rw [← List.sum_take_add_sum_drop s.stdout.sizes n]
    exact Nat.le_add_right _ _
  have hsizes : s.stdout.sizes = (s.stdout.sent.map Prod.fst).map List.length := by
    rw [List.map_map]
    rfl
  rw [h.take_output _ hle, hsizes, List.take_sum_flatten]

end

/-- **The end of a session.**  Along every schedule of the goroutines that ends with the return of
`runSession`, all output of the shell was recorded and sent in frames that carry it and the exit
code is its status exactly when the schedule does not let the `select` take the branch of
`sessionCtx`, and the reads of stdout that it lets a frame follow come to the whole output and
cut no character. -/
theorem completed_iff (output : Bytes) (status : Int) (ls : List Label)
    (hls : Interleaving output status ls) :
    Completed output status (run (step status) (init output) ls) ↔ Orderly output ls := by
  obtain ⟨hsteps, hreturns⟩ := hls
  have hflow : Flow output (run (step status) (init output) ls) :=
    invariant_along (I := Flow output) (fun s l h hl => h.step hl.2) flow_init hsteps
  have hsizes : (run (step status) (init output) ls).stdout.sizes = forwardedReads ls := by
    rw [sizes_run flow_init hsteps]
    show [] ++ ((if _ then [] else []) ++ _) = _
    rw [ite_self]
    rfl
  by_cases hwaits : ls.any Label.isSelectDone = false
  · have hcode := (coded_run coded_init hwaits).exitCode hreturns
    constructor
    · rintro ⟨hrecorded, hsent, hcarried, -⟩
      refine ⟨hwaits, ?_, ?_⟩
      · rw [← hsizes]
        exact hflow.all_iff.mp ⟨hrecorded, hsent⟩
      · rw [← hsizes]
        exact hflow.carried_iff.mp hcarried
    · rintro ⟨-, hforwards, hwhole⟩
      rw [← hsizes] at hforwards hwhole
      obtain ⟨hrecorded, hsent⟩ := hflow.all_iff.mpr hforwards
      exact ⟨hrecorded, hsent, hflow.carried_iff.mpr hwhole, hcode⟩
  · have hlost := noCode_run hsteps (by simpa using hwaits)
    exact iff_of_false hlost.not_completed fun h => hwaits h.waits

/-- A shell that writes three bytes to stdout and one to stderr, which are forwarded before the
return. -/
def forwarded : List Label :=
  [.remoteWrites 1, .readStdout 1 false, .record .stdout, .remoteWrites 2, .readStderr [33] false,
    .send .stdout, .waitReturns, .readStdout 2 false, .record .stderr, .record .stdout,
    .selectWait, .send .stdout, .returns]

theorem completed_forwarded : Interleaving [0x68, 0xC3, 0xA9] 3 forwarded ∧
    Completed [0x68, 0xC3, 0xA9] 3 (run (step 3) (init [0x68, 0xC3, 0xA9]) forwarded) := by
  have hls : Interleaving [0x68, 0xC3, 0xA9] 3 forwarded := ⟨by decide, by decide⟩
  refine ⟨hls, (completed_iff _ 3 forwarded hls).mpr ⟨by decide, by decide, ?_⟩⟩
  intro n
  rcases n with _ | _ | n
  · exact ⟨[], by decide⟩
  · exact ⟨['h'], by decide⟩
  · refine ⟨['h', Char.ofNat 0xE9], ?_⟩
    rw [show ((forwardedReads forwarded).take (n + 2)) = [1, 2] by
      simp [forwardedReads, forwarded, Label.isSendStdout]]
    decide

/-- The pump of stdout reaches the end of the file first, and the `select` takes the branch of
the context that it cancels. -/
def pumpFirst : List Label := [.readStdout 0 true, .waitReturns, .selectDone, .returns]

/-- `Wait` returns before the output is read. -/
def waitFirst : List Label := [.remoteWrites 1, .waitReturns, .selectWait, .returns]

/-- The two bytes of `é` are forwarded one by one. -/
def cutInTwo : List Label :=
  [.remoteWrites 2, .readStdout 1 false, .record .stdout, .send .stdout, .readStdout 1 false,
    .record .stdout, .send .stdout, .waitReturns, .selectWait, .returns]

/-- The exit code is lost, the output is neither recorded nor sent, or what is sent is not the
output. -/
theorem completion_lost :
    (Interleaving [] 0 pumpFirst ∧ ¬ Completed [] 0 (run (step 0) (init []) pumpFirst)) ∧
    (Interleaving [104] 0 waitFirst ∧
      ¬ Completed [104] 0 (run (step 0) (init [104]) waitFirst)) ∧
    (Interleaving [0xC3, 0xA9] 0 cutInTwo ∧
      ¬ Completed [0xC3, 0xA9] 0 (run (step 0) (init [0xC3, 0xA9]) cutInTwo)) ∧
    ¬ ∀ output status ls, Interleaving output status ls →
      Completed output status (run (step status) (init output) ls) := by
  have hpump : Interleaving [] 0 pumpFirst ∧
      ¬ Completed [] 0 (run (step 0) (init []) pumpFirst) := by
    refine ⟨⟨by decide, by decide⟩, ?_⟩
    rintro ⟨-, -, -, result, hresult, hcode⟩
    obtain rfl := Option.some.inj ((show _ = some ⟨0, 0, none⟩ by decide).symm.trans hresult)
    cases hcode
  refine ⟨hpump, ⟨⟨by decide, by decide⟩, ?_⟩, ⟨⟨by decide, by decide⟩, ?_⟩, ?_⟩
  · rintro ⟨-, hsent, -, -⟩
    exact absurd hsent (by decide)
  · rintro ⟨-, -, hcarried, -⟩
    have hfirst := hcarried ([0xC3], dataFrame [0xC3]) List.mem_cons_self
    exact not_valid_lead ((carried_dataFrame _).mp hfirst)
  · intro h
    exact hpump.2 (h [] 0 pumpFirst hpump.1)

end OpsPlatform.Terminal.Completion
