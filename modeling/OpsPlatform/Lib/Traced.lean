/-
Computations that leave a trace.

A `Traced` computation has a list of events and a result; what its environment answers to an
event is part of the event's outcome.  `Performs P` says that every event has the property
`P`.  The rules below follow the constructs of a program, so that a statement about all its
events is proved along its text.
-/
import Mathlib.Tactic.Common

namespace Lib

/-- A fallible computation of `α` with its events. -/
structure Traced (ε η α : Type) where
  events : List ε
  result : Except η α

namespace Traced

variable {ε η α β : Type}

/-- A computation without events. -/
def ofExcept (x : Except η α) : Traced ε η α := ⟨[], x⟩

/-- One event, with the answer of the environment. -/
def emit (e : ε) (outcome : Except η α) : Traced ε η α := ⟨[e], outcome⟩

protected def bind (x : Traced ε η α) (f : α → Traced ε η β) : Traced ε η β :=
  match x.result with
  | .error e => ⟨x.events, .error e⟩
  | .ok a => ⟨x.events ++ (f a).events, (f a).result⟩

instance : Monad (Traced ε η) where
  pure a := ofExcept (.ok a)
  bind := Traced.bind

def mapError (f : η → η) (x : Traced ε η α) : Traced ε η α := ⟨x.events, x.result.mapError f⟩

@[simp] lemma result_mapError (f : η → η) (x : Traced ε η α) :
    (x.mapError f).result = x.result.mapError f := rfl

lemma bind_of_error {x : Traced ε η α} {e : η} (h : x.result = .error e)
    (f : α → Traced ε η β) : x >>= f = ⟨x.events, .error e⟩ := by
  show Traced.bind x f = _
  rw [Traced.bind, h]

lemma bind_of_ok {x : Traced ε η α} {a : α} (h : x.result = .ok a) (f : α → Traced ε η β) :
    x >>= f = ⟨x.events ++ (f a).events, (f a).result⟩ := by
  show Traced.bind x f = _
  rw [Traced.bind, h]

instance : LawfulMonad (Traced ε η) := LawfulMonad.mk' _
  (by
    rintro α ⟨events, result⟩
    show Traced.bind _ _ = _
    cases result <;> simp [Traced.bind, ofExcept])
  (by
    intro α β a f
    show Traced.bind (ofExcept (.ok a)) f = f a
    simp [Traced.bind, ofExcept])
  (by
    rintro α β γ ⟨events, result⟩ f g
    show Traced.bind (Traced.bind _ _) _ = Traced.bind _ fun a => Traced.bind _ _
    cases result with
    | error e => rfl
    | ok a => cases h : (f a).result <;> simp [Traced.bind, h])

lemma result_bind_of_ok {x : Traced ε η α} {a : α} (h : x.result = .ok a)
    (f : α → Traced ε η β) : (x >>= f).result = (f a).result := by
  rw [bind_of_ok h]

@[simp] lemma map_unit (x : Traced ε η Unit) : (fun _ => ()) <$> x = x := id_map x

/-- A chain succeeded: so did its first step, and then the rest. -/
lemma bind_result_eq_ok {x : Traced ε η α} {f : α → Traced ε η β} {b : β}
    (h : (x >>= f).result = .ok b) : ∃ a, x.result = .ok a ∧ (f a).result = .ok b := by
  cases hx : x.result with
  | error e =>
    rw [bind_of_error hx] at h
    cases h
  | ok a =>
    rw [bind_of_ok hx] at h
    exact ⟨a, rfl, h⟩

/-! ### What a computation may do -/

/-- Every event of the computation has the property. -/
def Performs (P : ε → Prop) (x : Traced ε η α) : Prop := ∀ e ∈ x.events, P e

variable {P : ε → Prop}

lemma performs_ofExcept (x : Except η α) : Performs P (ofExcept x) := by
  intro e he
  cases he

lemma performs_emit {e : ε} (h : P e) (outcome : Except η α) : Performs P (emit e outcome) := by
  intro e' he'
  rw [List.mem_singleton.mp he']
  exact h

lemma Performs.mapError {x : Traced ε η α} (h : Performs P x) (f : η → η) :
    Performs P (x.mapError f) := h

lemma Performs.bind {x : Traced ε η α} {f : α → Traced ε η β} (hx : Performs P x)
    (hf : ∀ a, x.result = .ok a → Performs P (f a)) : Performs P (x >>= f) := by
  cases h : x.result with
  | error e =>
    rw [bind_of_error h]
    exact hx
  | ok a =>
    rw [bind_of_ok h]
    intro e he
    rcases List.mem_append.mp he with he | he
    · exact hx e he
    · exact hf a h e he

end Traced

end Lib
