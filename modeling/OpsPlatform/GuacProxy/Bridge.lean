/-
One RDP connection (`bridge` and what `ServeWS` does after it, in
`internal/guacproxy/handler.go`).

The pump forwards instructions of guacd to the websocket; a second goroutine reads the websocket
and never writes to it.  The first of them that fails ends `bridge`, and for an error that is
not a normal close `ServeWS` writes an error instruction, whether or not the pump has ended.
-/
import OpsPlatform.Lib.Run
import OpsPlatform.Lib.Writers

namespace OpsPlatform.GuacProxy.Bridge

open Lib Lib.Run Lib.Writers

/-- The goroutines that write to the websocket. -/
inductive Goroutine where
  | pump
  /-- the goroutine of the request -/
  | main
deriving DecidableEq

/-- What is written to the websocket. -/
inductive Frame where
  | instruction (payload : String)
  | error (message : String)
deriving DecidableEq

/-- An error as `isClosedErr` sees it. -/
structure BridgeErr where
  message : String
  isEOF : Bool := false
  isCloseError : Bool := false

def isClosedErr (e : BridgeErr) : Bool := e.isEOF || e.isCloseError

structure State where
  phase : Goroutine → Phase Frame
  /-- the goroutine that reads the websocket runs -/
  reading : Bool := true
  errCh : List BridgeErr := []

/-- `bridge` has started its goroutines. -/
def init : State := { phase := fun _ => .waiting }

inductive Label where
  /-- the pump has read an instruction -/
  | instruction (payload : String)
  | guacdFails (e : BridgeErr)
  /-- `ReadMessage` or the write to guacd fails -/
  | receiveFails (e : BridgeErr)
  /-- `bridge` returns the first error -/
  | bridgeReturns
  | startWrite (g : Goroutine)
  /-- the write call returns -/
  | endWrite (g : Goroutine) (failed : Option BridgeErr)

namespace State

variable (s : State)

def move (g : Goroutine) (p : Phase Frame) : State :=
  { s with phase := Function.update s.phase g p }

/-- The pump returns with an error. -/
def pumpFails (e : BridgeErr) : State := { s.move .pump .ended with errCh := s.errCh ++ [e] }

/-- The rest of `ServeWS`, as far as it writes to the websocket. -/
def afterBridge (e : BridgeErr) : State :=
  if isClosedErr e then s.move .main .ended else s.move .main (.holding (.error e.message))

def endWrite (failed : Option BridgeErr) : Goroutine → State
  | .main => s.move .main .ended
  | .pump =>
    match failed with
    | none => s.move .pump .waiting
    | some e => s.pumpFails e

end State

def step (s : State) : Label → State
  | .instruction payload =>
    if s.phase .pump = .waiting then s.move .pump (.holding (.instruction payload)) else s
  | .guacdFails e => if s.phase .pump = .waiting then s.pumpFails e else s
  | .receiveFails e =>
    if s.reading = true then { s with reading := false, errCh := s.errCh ++ [e] } else s
  | .bridgeReturns =>
    match s.errCh with
    | [] => s
    | e :: rest =>
      -- a second error that is already there is drained
      if s.phase .main = .waiting then { s with errCh := rest.drop 1 }.afterBridge e else s
  | .startWrite g => { s with phase := startWrite s.phase g }
  | .endWrite g failed =>
    match s.phase g with
    | .writing _ => s.endWrite failed g
    | _ => s

/-- The goroutine to which a step gives something to write: the pump with an instruction, and
the goroutine of the request with an error that is not a normal close. -/
def offered (s : State) : Label → Option Goroutine
  | .instruction _ => if s.phase .pump = .waiting then some .pump else none
  | .bridgeReturns =>
    match s.errCh with
    | [] => none
    | e :: _ => if s.phase .main = .waiting ∧ isClosedErr e = false then some .main else none
  | _ => none

/-- Instructions and the error come one after the other. -/
def Spaced (s : State) (l : Label) : Prop := ∀ g, offered s l = some g → FreeFor s.phase g

/-! ### At most one goroutine has something to write -/

section

variable {s : State}

lemma oneBusy_init : OneBusy init.phase := by
  intro g hg
  cases hg

lemma oneBusy_ended (h : OneBusy s.phase) (g : Goroutine) : OneBusy (s.move g .ended).phase :=
  h.update fun hp => by cases hp

lemma oneBusy_endWrite (h : OneBusy s.phase) (g : Goroutine) (failed : Option BridgeErr) :
    OneBusy (s.endWrite failed g).phase := by
  cases g with
  | main => exact oneBusy_ended h .main
  | pump =>
    cases failed with
    | none => exact h.update fun hp => by cases hp
    | some e => exact oneBusy_ended h .pump

lemma oneBusy_step (h : OneBusy s.phase) {l : Label} (hspaced : Spaced s l) :
    OneBusy (step s l).phase := by
  cases l with
  | instruction payload =>
    rw [step]
    split
    · next hpump =>
      -- the pump is given an instruction, which needs the other goroutine to be free
      refine h.update fun _ => Or.inr (hspaced .pump ?_)
      simp [offered, hpump]
    · exact h
  | guacdFails e =>
    rw [step]
    split
    · exact oneBusy_ended h .pump
    · exact h
  | receiveFails e =>
    rw [step]
    split <;> exact h
  | bridgeReturns =>
    rw [step]
    split
    · exact h
    · next e rest herr =>
      split
      · next hmain =>
        rw [State.afterBridge]
        split
        · exact h.update fun hp => by cases hp
        · next hclosed =>
          refine h.update fun _ => Or.inr (hspaced .main ?_)
          simp [offered, herr, hmain, hclosed]
      · exact h
  | startWrite g => exact h.startWrite g
  | endWrite g failed =>
    rw [step]
    split
    · exact oneBusy_endWrite h g failed
    · exact h

/-- At most one write call is in progress if what is written comes one after the other. -/
lemma oneWriter_of_spaced {ls : List Label} (h : Along step Spaced init ls) :
    OneWriter (run step init ls).phase := by
  have hbusy := invariant_along (I := fun s : State => OneBusy s.phase)
    (fun _ _ hs hok => oneBusy_step hs hok) oneBusy_init h
  exact hbusy.oneWriter

/-! ### Two goroutines with something to write -/

lemma phase_of_offered {l : Label} {g : Goroutine} (h : offered s l = some g) :
    ∃ frame, (step s l).phase = Function.update s.phase g (.holding frame) := by
  cases l with
  | instruction payload =>
    rw [offered] at h
    split at h
    · next hpump =>
      obtain rfl := Option.some.inj h
      refine ⟨.instruction payload, ?_⟩
      simp [step, hpump, State.move]
    · cases h
  | bridgeReturns =>
    rw [offered] at h
    split at h
    · cases h
    · next e rest herr =>
      split at h
      · next hmain =>
        obtain rfl := Option.some.inj h
        refine ⟨.error e.message, ?_⟩
        simp [step, herr, hmain, State.afterBridge, State.move]
      · cases h
  | _ => cases h

/-- Wherever something to write is offered while the other goroutine is busy, the scheduler can
let both write at the same time. -/
lemma overlap_of_not_spaced {l : Label} (h : ¬ Spaced s l) :
    ∃ ls, ¬ OneWriter (run step s (l :: ls)).phase := by
  rw [Spaced] at h
  push Not at h
  obtain ⟨g, hoffered, hbusy⟩ := h
  obtain ⟨frame, hphase⟩ := phase_of_offered hoffered
  obtain ⟨g', hboth⟩ := exists_not_oneWriter_of_not_freeFor hbusy frame
  refine ⟨[.startWrite g, .startWrite g'], ?_⟩
  show ¬ OneWriter (startWrite (startWrite (step s l).phase g) g')
  rw [hphase]
  exact hboth

end

end OpsPlatform.GuacProxy.Bridge
