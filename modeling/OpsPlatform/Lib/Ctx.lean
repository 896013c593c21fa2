/-
Contexts of Go that are cancelled, or run out of time, at some point of a run.

Whoever runs a program counts its steps; a context knows the step from which on it is over.  That
covers every point at which it may be cancelled.  A statement that is issued under a context that is
over fails without effect.
-/
import Mathlib.Tactic.Common
import Mathlib.Data.Nat.Notation

namespace Lib

/-- A context, by the step from which on it is over. -/
structure Ctx where
  endsAt : Option ℕ := none
deriving DecidableEq

namespace Ctx

/-- `ctx.Err() != nil` at a step. -/
def isOver (ctx : Ctx) (step : ℕ) : Bool := ctx.endsAt.any (decide <| · ≤ step)

/-- `context.WithTimeout`: over with its parent, or from a step of its own on. -/
def withTimeout (ctx : Ctx) (step : Option ℕ) : Ctx where
  endsAt := match ctx.endsAt, step with
    | some n, some m => some (min n m)
    | some n, none => some n
    | none, step => step

/-- A statement under the context. -/
def exec {ε α : Type*} (ctx : Ctx) (step : ℕ) (err : ε) (x : Except ε α) : Except ε α :=
  if ctx.isOver step = true then .error err else x

variable {ctx : Ctx} {step step' : ℕ}

/-- A context that is over stays so. -/
lemma over_of_le (hle : step ≤ step') (h : ctx.isOver step = true) : ctx.isOver step' = true := by
  obtain ⟨_ | n⟩ := ctx
  · cases h
  · simp only [isOver, Option.any_some, decide_eq_true_eq] at h ⊢
    omega

lemma over_withTimeout (m : Option ℕ) :
    (ctx.withTimeout m).isOver step = (ctx.isOver step || m.any (decide <| · ≤ step)) := by
  obtain ⟨_ | n⟩ := ctx
  · cases m <;> simp [isOver, withTimeout]
  · cases m with
    | none => simp [isOver, withTimeout]
    | some m =>
      simp only [isOver, withTimeout, Option.any_some, ← Bool.decide_or]
      exact decide_eq_decide.mpr (by omega)

lemma exec_eq_ok {ε α : Type*} {err : ε} {x : Except ε α} {a : α} :
    ctx.exec step err x = .ok a ↔ ctx.isOver step = false ∧ x = .ok a := by
  rw [exec]
  cases ctx.isOver step <;> simp

end Ctx

end Lib
