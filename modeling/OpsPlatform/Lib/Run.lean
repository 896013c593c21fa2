/-
Deterministic transition systems driven by a schedule.

A system is a step function `step : σ → ι → σ`.  The labels `ι` carry every choice that is
not the program's own: which thread moves next, what its environment answers, what time it
is.  A schedule, a list of labels, then determines the run, and a statement about every
interleaving is a quantification over lists.  A label that is not enabled in a state leaves
that state as it is.
-/
import Mathlib.Tactic.Common
import Mathlib.Data.List.Basic

namespace Lib.Run

variable {σ ι : Type*} (step : σ → ι → σ)

/-- The state after a schedule. -/
def run (s : σ) (ls : List ι) : σ := ls.foldl step s

@[simp] lemma run_nil (s : σ) : run step s [] = s := rfl

@[simp] lemma run_cons (s : σ) (l : ι) (ls : List ι) :
    run step s (l :: ls) = run step (step s l) ls := rfl

lemma run_append (s : σ) (ls ms : List ι) :
    run step s (ls ++ ms) = run step (run step s ls) ms := by
  simp [run, List.foldl_append]

/-- Every step of the run meets `ok`, a condition on the state before the step and on the
label. -/
def Along (ok : σ → ι → Prop) : σ → List ι → Prop
  | _, [] => True
  | s, l :: ls => ok s l ∧ Along ok (step s l) ls

@[simp] lemma along_nil (ok : σ → ι → Prop) (s : σ) : Along step ok s [] := trivial

@[simp] lemma along_cons (ok : σ → ι → Prop) (s : σ) (l : ι) (ls : List ι) :
    Along step ok s (l :: ls) ↔ ok s l ∧ Along step ok (step s l) ls := Iff.rfl

/-- The steps of a run can be checked one after the other. -/
instance decidableAlong (ok : σ → ι → Prop) [∀ s l, Decidable (ok s l)] :
    (s : σ) → (ls : List ι) → Decidable (Along step ok s ls)
  | _, [] => isTrue trivial
  | s, l :: ls =>
    have := decidableAlong ok (step s l) ls
    inferInstanceAs (Decidable (ok s l ∧ Along step ok (step s l) ls))

variable {step}

/-- **The invariant rule**, for the runs whose steps all meet a condition. -/
lemma invariant_along {ok : σ → ι → Prop} {I : σ → Prop}
    (hstep : ∀ s l, I s → ok s l → I (step s l)) {s : σ} {ls : List ι} (h : I s)
    (hok : Along step ok s ls) : I (run step s ls) := by
  induction ls generalizing s with
  | nil => exact h
  | cons l ls ih => exact ih (hstep s l h hok.1) hok.2

/-- **The invariant rule.** -/
lemma invariant {I : σ → Prop} (hstep : ∀ s l, I s → I (step s l)) {s : σ} (h : I s)
    (ls : List ι) : I (run step s ls) := by
  induction ls generalizing s with
  | nil => exact h
  | cons l ls ih => exact ih (hstep s l h)

/-! ### Counting along a run -/

variable (step) in
/-- The sum of the weights of the steps of a run; with a `0`/`1` weight, the number of steps
of one kind. -/
def tally (f : σ → ι → σ → ℕ) : σ → List ι → ℕ
  | _, [] => 0
  | s, l :: ls => f s l (step s l) + tally f (step s l) ls

@[simp] lemma tally_nil (f : σ → ι → σ → ℕ) (s : σ) : tally step f s [] = 0 := rfl

@[simp] lemma tally_cons (f : σ → ι → σ → ℕ) (s : σ) (l : ι) (ls : List ι) :
    tally step f s (l :: ls) = f s l (step s l) + tally step f (step s l) ls := rfl

lemma tally_zero (s : σ) (ls : List ι) : tally step (fun _ _ _ => 0) s ls = 0 := by
  induction ls generalizing s with
  | nil => rfl
  | cons l ls ih => rw [tally_cons, ih]

/-- **The potential rule.**  If every step from a state with the invariant pays for its weight
`f` with its weight `g` and with the potential `Φ`, then so does the whole run. -/
lemma tally_le_of_potential {f g : σ → ι → σ → ℕ} {I : σ → Prop} {Φ : σ → ℕ}
    (hI : ∀ s l, I s → I (step s l))
    (hstep : ∀ s l, I s → f s l (step s l) + Φ (step s l) ≤ g s l (step s l) + Φ s)
    {s : σ} (hs : I s) (ls : List ι) :
    tally step f s ls + Φ (run step s ls) ≤ tally step g s ls + Φ s := by
  induction ls generalizing s with
  | nil => simp
  | cons l ls ih =>
    have h := hstep s l hs
    have h' := ih (hI s l hs)
    simp only [tally_cons, run_cons]
    omega

end Lib.Run
