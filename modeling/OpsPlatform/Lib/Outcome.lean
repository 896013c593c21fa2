/-
Fallible computations.

`Except` with its bind rule, by which a chain of steps that succeeded is taken apart one step
at a time.
-/
import Mathlib.Tactic.Common

namespace Lib

universe u v

variable {ε : Type u} {α β : Type v}

lemma Except.ok_bind (a : α) (f : α → Except ε β) : (Except.ok a >>= f) = f a := rfl

/-- A chain of two steps succeeded: so did the first, and then the second. -/
lemma Except.bind_eq_ok {x : Except ε α} {f : α → Except ε β} {b : β} :
    (x >>= f) = .ok b ↔ ∃ a, x = .ok a ∧ f a = .ok b := by
  constructor
  · intro h
    rcases x with e | a
    · cases h
    · exact ⟨a, rfl, h⟩
  · rintro ⟨a, rfl, h⟩
    exact h

/-- A guard succeeded: its condition does not hold. -/
lemma Except.ite_error_eq_ok {p : Prop} [Decidable p] {e : ε} {x : Except ε α} {a : α} :
    (if p then .error e else x) = .ok a ↔ ¬ p ∧ x = .ok a := by
  by_cases h : p <;> simp [h]

lemma Except.mapError_eq_ok {ε' : Type u} {x : Except ε α} {f : ε → ε'} {a : α} :
    x.mapError f = .ok a ↔ x = .ok a := by
  cases x <;> simp [Except.mapError]

/-- A computation succeeded of which only the first component is kept. -/
lemma Except.map_fst_eq_ok {x : Except ε (α × β)} {a : α} (h : x.map Prod.fst = .ok a) :
    ∃ b, x = .ok (a, b) := by
  rcases x with e | ⟨a', b⟩
  · cases h
  · obtain rfl : a' = a := Except.ok.inj h
    exact ⟨b, rfl⟩

/-- A loop over a list succeeds when every round does, with the result in its place. -/
lemma Except.mapM_of_map_eq {f : α → Except ε β} {l : List α} {bs : List β}
    (h : l.map f = bs.map .ok) : l.mapM f = .ok bs := by
  induction l generalizing bs with
  | nil =>
    obtain rfl : bs = [] := by simpa using h.symm
    rfl
  | cons a l ih =>
    rcases bs with _ | ⟨b, bs⟩
    · cases h
    · rw [List.map_cons, List.map_cons, List.cons.injEq] at h
      rw [List.mapM_cons, h.1, ih h.2]
      rfl

/-- A loop over a list succeeded: so did every round, with the result in its place. -/
lemma Except.map_eq_of_mapM {f : α → Except ε β} {l : List α} {bs : List β}
    (h : l.mapM f = .ok bs) : l.map f = bs.map .ok := by
  induction l generalizing bs with
  | nil =>
    obtain rfl : [] = bs := Except.ok.inj h
    rfl
  | cons a l ih =>
    rw [List.mapM_cons, Except.bind_eq_ok] at h
    obtain ⟨b, hb, h⟩ := h
    rw [Except.bind_eq_ok] at h
    obtain ⟨bs', hbs', h⟩ := h
    obtain rfl := Except.ok.inj h
    rw [List.map_cons, List.map_cons, hb, ih hbs']

/-- A loop over a list ends with the error of the first round that fails. -/
lemma Except.mapM_of_first_error {f : α → Except ε β} {before after : List α} {a : α} {e : ε}
    (hbefore : ∀ a ∈ before, ∃ b, f a = .ok b) (ha : f a = .error e) :
    (before ++ a :: after).mapM f = .error e := by
  induction before with
  | nil =>
    rw [List.nil_append, List.mapM_cons, ha]
    rfl
  | cons a' before ih =>
    obtain ⟨b, hb⟩ := hbefore a' (List.mem_cons_self ..)
    rw [List.cons_append, List.mapM_cons, hb, ih fun a ha => hbefore a (List.mem_cons_of_mem _ ha)]
    rfl

/-! ### Loops that return early -/

/-- The state in which a computation ends that may return early, with the state as its error. -/
def Except.final {σ : Type u} : Except σ σ → σ
  | .ok s => s
  | .error s => s

/-- What holds when the first of two computations ends, and is kept by the second, holds at the
end. -/
lemma Except.final_bind {σ : Type u} {I : σ → Prop} {x : Except σ σ} {f : σ → Except σ σ}
    (hx : I (Except.final x)) (hf : ∀ s, I s → I (Except.final (f s))) :
    I (Except.final (x >>= f)) := by
  cases x with
  | error s => exact hx
  | ok s => exact hf s hx

/-- **The rule for loops** that may return early: what each round keeps holds at the end. -/
lemma Except.final_foldlM {σ : Type u} {α : Type*} {I : σ → Prop} {f : σ → α → Except σ σ}
    (hstep : ∀ s a, I s → I (Except.final (f s a))) {s : σ} (h : I s) (l : List α) :
    I (Except.final (l.foldlM f s)) := by
  induction l generalizing s with
  | nil => exact h
  | cons a l ih =>
    rw [List.foldlM_cons]
    exact Except.final_bind (hstep s a h) fun s' hs' => ih hs'

end Lib
