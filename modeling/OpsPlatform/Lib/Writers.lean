/-
Goroutines that write to one connection without a lock.

Each goroutine waits, then holds something that it is going to write, then is inside the write
call.  Nothing keeps two goroutines that hold something from being inside their calls at the
same time (`not_oneWriter_of_busy`); there is at most one call as long as something to write
reaches a goroutine only while no other one is busy.
-/
import Mathlib.Tactic.Common
import Mathlib.Data.Set.Subsingleton
import Mathlib.Logic.Function.Basic

namespace Lib.Writers

variable {G F : Type} [DecidableEq G]

inductive Phase (F : Type) where
  /-- not started -/
  | absent
  | waiting
  /-- before the write call -/
  | holding (f : F)
  /-- inside the write call -/
  | writing (f : F)
  | ended
deriving DecidableEq

def Phase.isBusy : Phase F → Bool
  | .holding _ => true
  | .writing _ => true
  | _ => false

def Phase.isWriting : Phase F → Bool
  | .writing _ => true
  | _ => false

/-- At most one goroutine is inside a write call. -/
def OneWriter (phase : G → Phase F) : Prop := {g | (phase g).isWriting = true}.Subsingleton

/-- At most one goroutine has something to write. -/
def OneBusy (phase : G → Phase F) : Prop := {g | (phase g).isBusy = true}.Subsingleton

/-- No goroutine but `g` has something to write. -/
def FreeFor (phase : G → Phase F) (g : G) : Prop := ∀ g', g' ≠ g → (phase g').isBusy = false

/-- The write call begins with what is held. -/
def Phase.start : Phase F → Phase F
  | .holding f => .writing f
  | p => p

/-- The goroutine enters the write call, if it holds something. -/
def startWrite (phase : G → Phase F) (g : G) : G → Phase F :=
  Function.update phase g (phase g).start

lemma Phase.isBusy_start (p : Phase F) : p.start.isBusy = p.isBusy := by
  cases p <;> rfl

lemma Phase.isWriting_start {p : Phase F} (h : p.isBusy = true) : p.start.isWriting = true := by
  cases p <;> first | rfl | cases h

lemma Phase.isBusy_of_isWriting {p : Phase F} (h : p.isWriting = true) : p.isBusy = true := by
  cases p <;> first | rfl | cases h

variable {phase : G → Phase F}

omit [DecidableEq G] in
lemma OneBusy.oneWriter (h : OneBusy phase) : OneWriter phase := by
  intro g hg g' hg'
  exact h (Phase.isBusy_of_isWriting hg) (Phase.isBusy_of_isWriting hg')

/-- A goroutine becomes busy only if it was, or if all others are not. -/
lemma OneBusy.update (h : OneBusy phase) {g : G} {p : Phase F}
    (hp : p.isBusy = true → (phase g).isBusy = true ∨ FreeFor phase g) :
    OneBusy (Function.update phase g p) := by
  have hbusy : ∀ g₀, (Function.update phase g p g₀).isBusy = true → g₀ ≠ g →
      (phase g₀).isBusy = true := by
    intro g₀ hg₀ hne
    rw [Function.update_of_ne hne] at hg₀
    exact hg₀
  -- the goroutine itself and another one are not busy together
  have hself : ∀ g₀, (Function.update phase g p g₀).isBusy = true → g₀ ≠ g →
      p.isBusy = true → False := by
    intro g₀ hg₀ hne hbusyp
    rcases hp hbusyp with hg | hfree
    · exact hne (h (hbusy g₀ hg₀ hne) hg)
    · have := hbusy g₀ hg₀ hne
      rw [hfree g₀ hne] at this
      cases this
  intro g₁ hg₁ g₂ hg₂
  by_cases h₁ : g₁ = g
  · by_cases h₂ : g₂ = g
    · rw [h₁, h₂]
    · rw [Set.mem_ofPred_eq, h₁, Function.update_self] at hg₁
      exact (hself g₂ hg₂ h₂ hg₁).elim
  · by_cases h₂ : g₂ = g
    · rw [Set.mem_ofPred_eq, h₂, Function.update_self] at hg₂
      exact (hself g₁ hg₁ h₁ hg₂).elim
    · exact h (hbusy g₁ hg₁ h₁) (hbusy g₂ hg₂ h₂)

lemma OneBusy.startWrite (h : OneBusy phase) (g : G) : OneBusy (startWrite phase g) := by
  refine h.update fun hbusy => Or.inl ?_
  rw [← Phase.isBusy_start]
  exact hbusy

lemma isWriting_startWrite {g : G} (h : (phase g).isBusy = true) :
    (startWrite phase g g).isWriting = true := by
  rw [startWrite, Function.update_self]
  exact Phase.isWriting_start h

lemma startWrite_of_ne {g g' : G} (hne : g' ≠ g) : startWrite phase g g' = phase g' :=
  Function.update_of_ne hne _ _

/-- Two goroutines with something to write can be inside their calls together. -/
lemma not_oneWriter_of_busy {g g' : G} (hne : g ≠ g') (hg : (phase g).isBusy = true)
    (hg' : (phase g').isBusy = true) : ¬ OneWriter (startWrite (startWrite phase g) g') := by
  intro h
  have hbusy : (startWrite phase g g').isBusy = true := by
    rw [startWrite_of_ne hne.symm]
    exact hg'
  have hwriting : (startWrite (startWrite phase g) g' g).isWriting = true := by
    rw [startWrite_of_ne hne]
    exact isWriting_startWrite hg
  exact hne (h hwriting (isWriting_startWrite hbusy))

omit [DecidableEq G] in
lemma exists_busy_of_not_freeFor {g : G} (h : ¬ FreeFor phase g) :
    ∃ g', g' ≠ g ∧ (phase g').isBusy = true := by
  rw [FreeFor] at h
  push Not at h
  obtain ⟨g', hne, hg'⟩ := h
  exact ⟨g', hne, by simpa using hg'⟩

/-- So can one that is given something while another is busy, and that other one. -/
lemma exists_not_oneWriter_of_not_freeFor {g : G} (h : ¬ FreeFor phase g) (f : F) :
    ∃ g', ¬ OneWriter (startWrite (startWrite (Function.update phase g (.holding f)) g) g') := by
  obtain ⟨g', hne, hg'⟩ := exists_busy_of_not_freeFor h
  refine ⟨g', not_oneWriter_of_busy hne.symm ?_ ?_⟩
  · rw [Function.update_self]
    rfl
  · rw [Function.update_of_ne hne]
    exact hg'

end Lib.Writers
