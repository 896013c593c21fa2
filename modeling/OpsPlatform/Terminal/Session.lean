/-
One terminal connection (`runSession` and the end of `ServeWS` in `internal/terminal/handler.go`):
the goroutines that write to its websocket, statement by statement.

The reader answers pings, two pumps forward the output of the shell, and the goroutine of the
request sends the exit frame, or an error frame when the session could not be set up.  What the
browser, the SSH server and the scheduler do is in the labels.
-/
import OpsPlatform.Lib.Run
import OpsPlatform.Lib.Writers

namespace OpsPlatform.Terminal

open Lib Lib.Run Lib.Writers

inductive Goroutine where
  | reader
  | stdout
  | stderr
  /-- the goroutine of the request -/
  | main
deriving DecidableEq

/-- The sources of the two pumps. -/
inductive Source where
  | stdout
  | stderr

def Source.pump : Source → Goroutine
  | stdout => .stdout
  | stderr => .stderr

/-- What is written to the websocket.  With a chunk of output the pump remembers whether its
`Read` also returned an error. -/
inductive Frame where
  | pong
  | data (payload : String) (readErr : Bool)
  | exit (code : Int)
  | error (message : String)
deriving DecidableEq

def Frame.readErr : Frame → Bool
  | data _ readErr => readErr
  | _ => false

/-- `inboundFrame`. -/
structure InboundFrame where
  type : String
  payload : String := ""
  cols : Int := 0
  rows : Int := 0

/-- What `session.Wait` returns. -/
inductive WaitResult where
  | ok
  | exitError (code : Int)
  | other

/-- The frame for the end of the shell, if there is one. -/
def WaitResult.exitFrame : WaitResult → Option Frame
  | ok => some (.exit 0)
  | exitError code => some (.exit code)
  | other => none

structure State where
  phase : Goroutine → Phase Frame
  /-- the goroutines have been started -/
  started : Bool := false
  /-- `sessionCtx` is done -/
  cancelled : Bool := false
  waitCh : Option WaitResult := none

/-- `runSession` is called. -/
def init : State := { phase := Function.update (fun _ => .absent) .main .waiting }

inductive Label where
  /-- a step of `runSession` before its goroutines fails -/
  | setupFails (message : String)
  | setupDone
  /-- the context of the request is cancelled -/
  | contextDone
  /-- a message is read; `none` for one that is not JSON -/
  | receive (frame : Option InboundFrame) (stdinFails : Bool)
  | receiveFails
  /-- the reader sees that `sessionCtx` is done -/
  | readerCancelled
  | read (src : Source) (chunk : String) (readErr : Bool)
  | waitReturns (result : WaitResult)
  /-- the `select` takes the branch of `sessionCtx` -/
  | selectDone
  /-- the `select` takes the branch of `waitCh` -/
  | selectWait
  | startWrite (g : Goroutine)
  | endWrite (g : Goroutine) (failed : Bool)

namespace State

variable (s : State)

def move (g : Goroutine) (p : Phase Frame) : State :=
  { s with phase := Function.update s.phase g p }

/-- The goroutine returns, with its deferred `sessionCancel`. -/
def stop (g : Goroutine) : State := { s.move g .ended with cancelled := true }

/-- The reader has read a message. -/
def receive (stdinFails : Bool) : Option InboundFrame → State
  | none => s
  | some frame =>
    if frame.type = "data" then if stdinFails then s.stop .reader else s
    else if frame.type = "ping" then s.move .reader (.holding .pong)
    else s

/-- A pump has read `chunk`. -/
def read (src : Source) (chunk : String) (readErr : Bool) : State :=
  if chunk ≠ "" then s.move src.pump (.holding (.data chunk readErr))
  else if readErr then s.stop src.pump
  else s

/-- The end of `runSession` after the `select`. -/
def exit : Option Frame → State
  | some frame => s.move .main (.holding frame)
  | none => s.stop .main

/-- A write call returns. -/
def endWrite (g : Goroutine) (failed : Bool) (frame : Frame) : State :=
  match g with
  | .reader => s.move .reader .waiting
  | .main => s.stop .main
  | g => if failed || frame.readErr then s.stop g else s.move g .waiting

/-- The goroutines are started. -/
def start : State :=
  { s with started := true
           phase := fun g => if g = .main then s.phase .main else .waiting }

end State

def step (s : State) : Label → State
  | .setupFails message =>
    if s.started = false ∧ s.phase .main = .waiting then s.move .main (.holding (.error message))
    else s
  | .setupDone => if s.started = false ∧ s.phase .main = .waiting then s.start else s
  | .contextDone => { s with cancelled := true }
  | .receive frame stdinFails =>
    if s.phase .reader = .waiting then s.receive stdinFails frame else s
  | .receiveFails => if s.phase .reader = .waiting then s.stop .reader else s
  | .readerCancelled =>
    if s.phase .reader = .waiting ∧ s.cancelled = true then s.stop .reader else s
  | .read src chunk readErr =>
    if s.phase src.pump = .waiting then s.read src chunk readErr else s
  | .waitReturns result =>
    if s.started = true ∧ s.waitCh.isNone = true then { s with waitCh := some result } else s
  | .selectDone =>
    if s.started = true ∧ s.phase .main = .waiting ∧ s.cancelled = true then s.stop .main else s
  | .selectWait =>
    if s.started = true ∧ s.phase .main = .waiting then
      match s.waitCh with
      | none => s
      | some result => s.exit result.exitFrame
    else s
  | .startWrite g => { s with phase := startWrite s.phase g }
  | .endWrite g failed =>
    match s.phase g with
    | .writing frame => s.endWrite g failed frame
    | _ => s

/-- The goroutine to which a step gives a frame once the session runs: the reader with a ping, a
pump with output, and the goroutine of the request with an exit status. -/
def offered (s : State) : Label → Option Goroutine
  | .receive (some frame) _ =>
    if s.phase .reader = .waiting ∧ frame.type = "ping" then some .reader else none
  | .read src chunk _ =>
    if s.phase src.pump = .waiting ∧ chunk ≠ "" then some src.pump else none
  | .selectWait =>
    if s.started = true ∧ s.phase .main = .waiting ∧
        (s.waitCh.bind WaitResult.exitFrame).isSome = true then some .main
    else none
  | _ => none

/-- Pings, output and the exit status come one after the other: none reaches a goroutine while
another one still has a frame to write. -/
def Spaced (s : State) (l : Label) : Prop := ∀ g, offered s l = some g → FreeFor s.phase g

/-! ### At most one goroutine has a frame -/

/-- At most one goroutine has a frame, and before the others are started it is the one of the
request. -/
structure Inv (s : State) : Prop where
  oneBusy : OneBusy s.phase
  alone : s.started = false → ∀ g, g ≠ .main → s.phase g = .absent

section

variable {s : State}

lemma inv_init : Inv init := by
  refine ⟨?_, ?_⟩
  · have habsent : OneBusy (fun _ : Goroutine => (.absent : Phase Frame)) := by
      intro g hg
      cases hg
    exact habsent.update fun hp => by cases hp
  · intro _ g hg
    simp [init, Function.update_of_ne hg]

/-- A goroutine that runs goes on. -/
lemma Inv.move (h : Inv s) {g : Goroutine} (hg : s.phase g ≠ .absent) {p : Phase Frame}
    (hp : p.isBusy = true → (s.phase g).isBusy = true ∨ FreeFor s.phase g) :
    Inv (s.move g p) := by
  refine ⟨h.oneBusy.update hp, ?_⟩
  intro hstarted g' hg'
  have hne : g' ≠ g := by
    rintro rfl
    exact hg (h.alone hstarted g' hg')
  show Function.update s.phase g p g' = .absent
  rw [Function.update_of_ne hne]
  exact h.alone hstarted g' hg'

lemma Inv.wait (h : Inv s) {g : Goroutine} (hg : s.phase g ≠ .absent) : Inv (s.move g .waiting) :=
  h.move hg fun hp => by cases hp

lemma Inv.stop (h : Inv s) {g : Goroutine} (hg : s.phase g ≠ .absent) : Inv (s.stop g) := by
  have hmove : Inv (s.move g .ended) := h.move hg fun hp => by cases hp
  exact ⟨hmove.oneBusy, hmove.alone⟩

lemma ne_absent_of_waiting {p : Phase Frame} (h : p = .waiting) : p ≠ .absent := by
  rw [h]
  simp

/-- Before the goroutines are started, the goroutine of the request has the websocket for
itself. -/
lemma Inv.freeFor_main (h : Inv s) (hstarted : s.started = false) : FreeFor s.phase .main := by
  intro g hg
  rw [h.alone hstarted g hg]
  rfl

lemma inv_start (hmain : s.phase .main = .waiting) : Inv s.start := by
  refine ⟨?_, fun hstarted => by cases hstarted⟩
  intro g hg
  have hidle : (s.start.phase g).isBusy = false := by
    show (if g = .main then s.phase .main else .waiting).isBusy = false
    rw [hmain]
    split <;> rfl
  rw [Set.mem_ofPred_eq, hidle] at hg
  cases hg

lemma Inv.receive (h : Inv s) (hreader : s.phase .reader = .waiting) (frame : InboundFrame)
    (stdinFails : Bool) (hspaced : frame.type = "ping" → FreeFor s.phase .reader) :
    Inv (s.receive stdinFails (some frame)) := by
  rw [State.receive]
  split
  · split
    · exact h.stop (ne_absent_of_waiting hreader)
    · exact h
  · split
    · next hping => exact h.move (ne_absent_of_waiting hreader) fun _ => Or.inr (hspaced hping)
    · exact h

lemma Inv.read (h : Inv s) {src : Source} (hpump : s.phase src.pump = .waiting) (chunk : String)
    (readErr : Bool) (hspaced : chunk ≠ "" → FreeFor s.phase src.pump) :
    Inv (s.read src chunk readErr) := by
  rw [State.read]
  split
  · next hchunk => exact h.move (ne_absent_of_waiting hpump) fun _ => Or.inr (hspaced hchunk)
  · split
    · exact h.stop (ne_absent_of_waiting hpump)
    · exact h

lemma Inv.endWrite (h : Inv s) {g : Goroutine} {frame : Frame} (hg : s.phase g = .writing frame)
    (failed : Bool) : Inv (s.endWrite g failed frame) := by
  have hrunning : s.phase g ≠ .absent := by
    rw [hg]
    simp
  have hpump : Inv (if failed || frame.readErr then s.stop g else s.move g .waiting) := by
    split
    · exact h.stop hrunning
    · exact h.wait hrunning
  cases g with
  | reader => exact h.wait hrunning
  | main => exact h.stop hrunning
  | stdout => exact hpump
  | stderr => exact hpump

/-- A step that gives nobody a frame while another goroutine has one keeps the invariant. -/
lemma Inv.step (h : Inv s) {l : Label} (hspaced : Spaced s l) : Inv (step s l) := by
  cases l with
  | setupFails message =>
    rw [Terminal.step]
    split
    · next hmain =>
      refine h.move (ne_absent_of_waiting hmain.2) fun _ => Or.inr ?_
      exact h.freeFor_main hmain.1
    · exact h
  | setupDone =>
    rw [Terminal.step]
    split
    · next hmain => exact inv_start hmain.2
    · exact h
  | contextDone => exact ⟨h.oneBusy, h.alone⟩
  | receive frame stdinFails =>
    rw [Terminal.step]
    split
    · next hreader =>
      cases frame with
      | none => exact h
      | some frame =>
        -- a ping is answered by the reader, which needs the others to be free
        refine h.receive hreader frame stdinFails fun hping => hspaced .reader ?_
        simp [offered, hreader, hping]
    · exact h
  | receiveFails =>
    rw [Terminal.step]
    split
    · next hreader => exact h.stop (ne_absent_of_waiting hreader)
    · exact h
  | readerCancelled =>
    rw [Terminal.step]
    split
    · next hreader => exact h.stop (ne_absent_of_waiting hreader.1)
    · exact h
  | read src chunk readErr =>
    rw [Terminal.step]
    split
    · next hpump =>
      -- a chunk is offered by the pump
      refine h.read hpump chunk readErr fun hchunk => hspaced src.pump ?_
      simp [offered, hpump, hchunk]
    · exact h
  | waitReturns result =>
    rw [Terminal.step]
    split
    · exact ⟨h.oneBusy, h.alone⟩
    · exact h
  | selectDone =>
    rw [Terminal.step]
    split
    · next hmain => exact h.stop (ne_absent_of_waiting hmain.2.1)
    · exact h
  | selectWait =>
    rw [Terminal.step]
    split
    · next hmain =>
      split
      · exact h
      · next result hresult =>
        cases hframe : result.exitFrame with
        | none => exact h.stop (ne_absent_of_waiting hmain.2)
        | some frame =>
          refine h.move (ne_absent_of_waiting hmain.2) fun _ => Or.inr (hspaced .main ?_)
          simp [offered, hmain, hresult, hframe]
    · exact h
  | startWrite g =>
    refine ⟨h.oneBusy.startWrite g, ?_⟩
    intro hstarted g' hg'
    have habsent := h.alone hstarted g' hg'
    show Writers.startWrite s.phase g g' = .absent
    by_cases hne : g' = g
    · rw [← hne, Writers.startWrite, Function.update_self, habsent]
      rfl
    · rw [startWrite_of_ne hne]
      exact habsent
  | endWrite g failed =>
    rw [Terminal.step]
    split
    · next frame hframe => exact h.endWrite hframe failed
    · exact h

/-- At most one write call is in progress if frames come one after the other. -/
lemma oneWriter_of_spaced {ls : List Label} (h : Along Terminal.step Spaced init ls) :
    OneWriter (run Terminal.step init ls).phase := by
  have hinv := invariant_along (I := Inv) (fun _ _ hs hok => Inv.step hs hok) inv_init h
  exact hinv.oneBusy.oneWriter

/-! ### Two goroutines with frames -/

/-- A step that offers a frame makes its goroutine busy and leaves the others as they are. -/
lemma phase_of_offered {l : Label} {g : Goroutine} (h : offered s l = some g) :
    ∃ frame, (Terminal.step s l).phase = Function.update s.phase g (.holding frame) := by
  cases l with
  | receive frame stdinFails =>
    cases frame with
    | none => cases h
    | some frame =>
      rw [offered] at h
      split at h
      · next hping =>
        obtain rfl := Option.some.inj h
        refine ⟨.pong, ?_⟩
        simp [Terminal.step, State.receive, hping, State.move]
      · cases h
  | read src chunk readErr =>
    rw [offered] at h
    split at h
    · next hchunk =>
      obtain rfl := Option.some.inj h
      refine ⟨.data chunk readErr, ?_⟩
      simp [Terminal.step, State.read, hchunk, State.move]
    · cases h
  | selectWait =>
    rw [offered] at h
    split at h
    · next hmain =>
      obtain rfl := Option.some.inj h
      obtain ⟨hstarted, hwaiting, hsome⟩ := hmain
      obtain ⟨frame, hframe⟩ := Option.isSome_iff_exists.mp hsome
      obtain ⟨result, hresult, hexit⟩ := Option.bind_eq_some_iff.mp hframe
      refine ⟨frame, ?_⟩
      simp [Terminal.step, hstarted, hwaiting, hresult, State.exit, hexit, State.move]
    · cases h
  | _ => cases h

/-- Wherever a frame is offered while another goroutine has one, the scheduler can let both
write at the same time. -/
lemma overlap_of_not_spaced {l : Label} (h : ¬ Spaced s l) :
    ∃ ls, ¬ OneWriter (run Terminal.step s (l :: ls)).phase := by
  rw [Spaced] at h
  push Not at h
  obtain ⟨g, hoffered, hbusy⟩ := h
  obtain ⟨frame, hphase⟩ := phase_of_offered hoffered
  obtain ⟨g', hboth⟩ := exists_not_oneWriter_of_not_freeFor hbusy frame
  refine ⟨[.startWrite g, .startWrite g'], ?_⟩
  show ¬ OneWriter (startWrite (startWrite (Terminal.step s l).phase g) g')
  rw [hphase]
  exact hboth

end

end OpsPlatform.Terminal
