/-
Computations that open handles and have to close them.

The events of a `Traced` computation are that a handle is opened, that it is closed, or
something else.  `held` is what the events leave open.  `Owns` says of a computation that it
leaves nothing open when it fails, and what it leaves open when it succeeds; its rules follow the
constructs of a program.  `erase` forgets the handles, so that a program with handles refines the
one without.
-/
import OpsPlatform.Lib.Outcome
import OpsPlatform.Lib.Traced

namespace Lib.Leases

open Traced

inductive Event (ρ ε : Type) where
  | opened (r : ρ)
  | closed (r : ρ)
  | other (e : ε)
deriving DecidableEq

variable {ρ ε η α β : Type}

/-- The event, unless it is about a handle. -/
def Event.other? : Event ρ ε → Option ε
  | .opened _ => none
  | .closed _ => none
  | .other e => some e

/-! ### Programs -/

/-- A step that is about no handle. -/
def lift (x : Traced ε η α) : Traced (Event ρ ε) η α := ⟨x.events.map .other, x.result⟩

/-- A step that opens the handle it gives. -/
def acquire (x : Traced ε η ρ) : Traced (Event ρ ε) η ρ := do
  let r ← lift x
  emit (.opened r) (.ok r)

/-- A step, and after it `cleanup` when it has failed. -/
def onError (cleanup : List (Event ρ ε)) (x : Traced (Event ρ ε) η α) :
    Traced (Event ρ ε) η α :=
  match x.result with
  | .error e => ⟨x.events ++ cleanup, .error e⟩
  | .ok _ => x

@[simp] lemma result_lift (x : Traced ε η α) :
    (lift x : Traced (Event ρ ε) η α).result = x.result := rfl

@[simp] lemma result_onError (cleanup : List (Event ρ ε)) (x : Traced (Event ρ ε) η α) :
    (onError cleanup x).result = x.result := by
  rw [onError]
  split
  · next h => rw [h]
  · rfl

/-! ### Without the handles -/

/-- The computation without what it says about handles. -/
def erase (x : Traced (Event ρ ε) η α) : Traced ε η α :=
  ⟨x.events.filterMap Event.other?, x.result⟩

@[simp] lemma result_erase (x : Traced (Event ρ ε) η α) : (erase x).result = x.result := rfl

@[simp] lemma erase_ofExcept (x : Except η α) :
    erase (ofExcept x : Traced (Event ρ ε) η α) = ofExcept x := rfl

@[simp] lemma erase_pure (a : α) : erase (pure a : Traced (Event ρ ε) η α) = pure a := rfl

@[simp] lemma erase_lift (x : Traced ε η α) : erase (lift x : Traced (Event ρ ε) η α) = x := by
  have hevents : (x.events.map (Event.other (ρ := ρ))).filterMap Event.other? = x.events := by
    rw [List.filterMap_map]
    exact List.filterMap_some
  rw [erase, lift, hevents]

@[simp] lemma erase_mapError (f : η → η) (x : Traced (Event ρ ε) η α) :
    erase (x.mapError f) = (erase x).mapError f := rfl

@[simp] lemma erase_bind (x : Traced (Event ρ ε) η α) (f : α → Traced (Event ρ ε) η β) :
    erase (x >>= f) = erase x >>= fun a => erase (f a) := by
  cases h : x.result with
  | error e =>
    rw [bind_of_error h, bind_of_error (x := erase x) h]
    rfl
  | ok a =>
    rw [bind_of_ok h, bind_of_ok (x := erase x) h]
    simp [erase]

@[simp] lemma erase_map (f : α → β) (x : Traced (Event ρ ε) η α) :
    erase (f <$> x) = f <$> erase x := by
  rw [map_eq_pure_bind, map_eq_pure_bind, erase_bind]
  rfl

@[simp] lemma erase_acquire (x : Traced ε η ρ) : erase (acquire x) = x := by
  rw [acquire, erase_bind, erase_lift]
  exact bind_pure x

lemma erase_onError {cleanup : List (Event ρ ε)} (h : cleanup.filterMap Event.other? = [])
    (x : Traced (Event ρ ε) η α) : erase (onError cleanup x) = erase x := by
  rw [onError]
  split
  · next e he => simp [erase, h, he]
  · rfl

/-! ### What is open -/

section

variable [DecidableEq ρ]

def Event.apply (open_ : List ρ) : Event ρ ε → List ρ
  | .opened r => r :: open_
  | .closed r => open_.erase r
  | .other _ => open_

/-- The handles that are open after the events. -/
def held (before : List ρ) (es : List (Event ρ ε)) : List ρ := es.foldl Event.apply before

@[simp] lemma held_nil (before : List ρ) : held before ([] : List (Event ρ ε)) = before := rfl

lemma held_append (before : List ρ) (es es' : List (Event ρ ε)) :
    held before (es ++ es') = held (held before es) es' := List.foldl_append

@[simp] lemma held_map_other (before : List ρ) (es : List ε) :
    held before (es.map Event.other) = before := by
  induction es with
  | nil => rfl
  | cons e es ih => exact ih

/-- Nothing is open when the computation fails; when it gives `a`, `after a` is. -/
structure Owns (before : List ρ) (x : Traced (Event ρ ε) η α) (after : α → List ρ) : Prop where
  failed : ∀ e, x.result = .error e → held before x.events = []
  done : ∀ a, x.result = .ok a → held before x.events = after a

variable {before : List ρ}

lemma owns_pure {a : α} {after : α → List ρ} (h : before = after a) :
    Owns before (pure a : Traced (Event ρ ε) η α) after := by
  refine ⟨fun e he => (by cases he), fun a' ha' => ?_⟩
  obtain rfl := Except.ok.inj ha'
  exact h

/-- A step without events may fail as long as nothing is open. -/
lemma owns_ofExcept (x : Except η α) :
    Owns ([] : List ρ) (ofExcept x : Traced (Event ρ ε) η α) fun _ => [] :=
  ⟨fun _ _ => rfl, fun _ _ => rfl⟩

lemma owns_lift (x : Traced ε η α) : Owns ([] : List ρ) (lift x) fun _ => [] :=
  ⟨fun _ _ => held_map_other _ _, fun _ _ => held_map_other _ _⟩

lemma owns_acquire (x : Traced ε η ρ) : Owns [] (acquire x) fun r => [r] := by
  cases h : x.result with
  | error e =>
    have hacquire : acquire x = ⟨x.events.map .other, .error e⟩ := bind_of_error (x := lift x) h _
    rw [hacquire]
    exact ⟨fun _ _ => held_map_other _ _, fun a ha => by cases ha⟩
  | ok r =>
    have hacquire : acquire x = ⟨x.events.map .other ++ [.opened r], .ok r⟩ :=
      bind_of_ok (x := lift x) h _
    rw [hacquire]
    refine ⟨fun e he => (by cases he), fun a ha => ?_⟩
    obtain rfl := Except.ok.inj ha
    rw [held_append, held_map_other]
    rfl

/-- With handles open, a step that may fail needs a cleanup that closes them. -/
lemma owns_onError {cleanup : List (Event ρ ε)} (h : held before cleanup = [])
    (x : Traced ε η α) : Owns before (onError cleanup (lift x)) fun _ => before := by
  rw [onError]
  split
  · refine ⟨fun _ _ => ?_, fun a ha => by cases ha⟩
    rw [held_append, lift, held_map_other, h]
  · next heq => exact ⟨fun e he => (by rw [heq] at he; cases he), fun _ _ => held_map_other _ _⟩

lemma Owns.mapError {x : Traced (Event ρ ε) η α} {after : α → List ρ} (h : Owns before x after)
    (f : η → η) : Owns before (x.mapError f) after := by
  refine ⟨fun e he => ?_, fun a ha => h.done a (Except.mapError_eq_ok.mp ha)⟩
  cases hx : x.result with
  | error e' => exact h.failed e' hx
  | ok a =>
    rw [result_mapError, hx] at he
    cases he

lemma Owns.bind {x : Traced (Event ρ ε) η α} {f : α → Traced (Event ρ ε) η β}
    {between : α → List ρ} {after : β → List ρ} (hx : Owns before x between)
    (hf : ∀ a, x.result = .ok a → Owns (between a) (f a) after) : Owns before (x >>= f) after := by
  cases h : x.result with
  | error e =>
    rw [bind_of_error h]
    exact ⟨fun _ _ => hx.failed e h, fun b hb => by cases hb⟩
  | ok a =>
    have hheld : held before (x.events ++ (f a).events) = held (between a) (f a).events := by
      rw [held_append, hx.done a h]
    rw [bind_of_ok h]
    exact ⟨fun e he => hheld.trans ((hf a h).failed e he),
      fun b hb => hheld.trans ((hf a h).done b hb)⟩

/-- Nothing stays open: not when the computation fails, and not when what it gives is closed. -/
structure LeakFree (close : α → List (Event ρ ε)) (x : Traced (Event ρ ε) η α) : Prop where
  failed : ∀ e, x.result = .error e → held [] x.events = []
  released : ∀ a, x.result = .ok a → held [] (x.events ++ close a) = []

lemma Owns.leakFree {x : Traced (Event ρ ε) η α} {after : α → List ρ} (h : Owns [] x after)
    {close : α → List (Event ρ ε)} (hclose : ∀ a, held (after a) (close a) = []) :
    LeakFree close x := by
  refine ⟨h.failed, fun a ha => ?_⟩
  rw [held_append, h.done a ha, hclose a]

end

end Lib.Leases
