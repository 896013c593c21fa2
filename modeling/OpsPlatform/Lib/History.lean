/-
Histories: lists of events, the latest first.

A transition system that keeps a history turns a statement about the order of events into one
about list splits: in `later ++ e :: earlier` the events of `earlier` came before `e`.
`Throughout P` says that every event had the property `P` with respect to what came before it;
a step that adds no event keeps it, and a step that adds `e` has to show `P` for `e` only.
-/
import Mathlib.Tactic.Common
import Mathlib.Data.List.Basic

namespace Lib.History

variable {ε : Type*} {P : ε → List ε → Prop}

/-- Every event has the property `P` with respect to the events before it. -/
def Throughout (P : ε → List ε → Prop) : List ε → Prop
  | [] => True
  | e :: es => P e es ∧ Throughout P es

@[simp] lemma throughout_nil : Throughout P [] := trivial

@[simp] lemma throughout_cons {e : ε} {es : List ε} :
    Throughout P (e :: es) ↔ P e es ∧ Throughout P es := Iff.rfl

lemma Throughout.of_split {later earlier : List ε} {e : ε}
    (h : Throughout P (later ++ e :: earlier)) : P e earlier := by
  induction later with
  | nil => exact h.1
  | cons e' later ih => exact ih h.2

/-- What holds of an event and its past also holds with respect to the whole history, if `P` is
about the existence of earlier events. -/
lemma Throughout.forall_mem {Q : ε → List ε → Prop} {es : List ε} (h : Throughout P es)
    (hQ : ∀ e es, P e es → Q e (e :: es))
    (hmono : ∀ e e' es, Q e es → Q e (e' :: es)) : ∀ e ∈ es, Q e es := by
  induction es with
  | nil => simp
  | cons e' es ih =>
    intro e he
    rcases List.mem_cons.mp he with rfl | he
    · exact hQ _ _ h.1
    · exact hmono _ _ _ (ih h.2 e he)

/-- Events of a kind that does not follow itself happen at most once. -/
lemma Throughout.countP_le_one {q : ε → Bool} {es : List ε} (h : Throughout P es)
    (hq : ∀ e es, P e es → q e = true → ∀ e' ∈ es, q e' = false) : es.countP q ≤ 1 := by
  induction es with
  | nil => simp
  | cons e es ih =>
    by_cases he : q e = true
    · have hnone : es.countP q = 0 := by
        rw [List.countP_eq_zero]
        intro e' he'
        simp [hq e es h.1 he e' he']
      rw [List.countP_cons_of_pos he]
      omega
    · rw [List.countP_cons_of_neg he]
      exact ih h.2

/-- If each event that closes comes after an event that opens, with no other of the two kinds in
between, then there are at most as many that close as that open. -/
lemma Throughout.countP_le {opens closes : ε → Bool} {es : List ε} (h : Throughout P es)
    (hcloses : ∀ e es, P e es → closes e = true → opens e = false ∧
      ∃ e', es.find? (fun e => opens e || closes e) = some e' ∧ opens e' = true) :
    es.countP closes ≤ es.countP opens := by
  -- one more has opened while the last of the two kinds is an opening
  have hcount : es.countP closes +
      (if ∃ e, es.find? (fun e => opens e || closes e) = some e ∧ opens e = true then 1 else 0) ≤
        es.countP opens := by
    induction es with
    | nil => simp
    | cons e es ih =>
      have hle := ih h.2
      rw [List.countP_cons, List.countP_cons, List.find?_cons]
      by_cases hc : closes e = true
      · obtain ⟨ho, hlast⟩ := hcloses e es h.1 hc
        rw [if_pos hlast] at hle
        simp [hc, ho]
        omega
      · by_cases ho : opens e = true
        · simp [hc, ho]
          omega
        · simpa [hc, ho] using hle
  omega

end Lib.History
