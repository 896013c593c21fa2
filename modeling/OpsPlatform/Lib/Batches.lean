/-
Lists in batches of a size: the slices that a loop `for start := 0; start < n; start += size` takes.
-/
import Mathlib.Tactic.Common
import Mathlib.Data.List.Basic
import Mathlib.Algebra.Order.Ring.Nat

namespace Lib

variable {α : Type*} {size : ℕ} {l : List α}

/-- The slices `l[start:start+size]`, the last of which may be shorter. -/
def batches (size : ℕ) (l : List α) : List (List α) :=
  (List.range ((l.length + size - 1) / size)).map fun i => (l.drop (size * i)).take size

lemma flatten_slices (size : ℕ) (l : List α) (k : ℕ) :
    ((List.range k).map fun i => (l.drop (size * i)).take size).flatten = l.take (size * k) := by
  induction k with
  | zero => simp
  | succ k ih =>
    rw [List.range_succ, List.map_append, List.flatten_append, ih, Nat.mul_succ, List.take_add]
    simp

/-- Nothing is left out, and nothing is taken twice. -/
lemma flatten_batches (h : 0 < size) (l : List α) : (batches size l).flatten = l := by
  rw [batches, flatten_slices]
  refine List.take_of_length_le ?_
  have hdiv := Nat.div_add_mod (l.length + size - 1) size
  have hmod := Nat.mod_lt (l.length + size - 1) h
  omega

lemma length_le_of_mem_batches {b : List α} (h : b ∈ batches size l) : b.length ≤ size := by
  obtain ⟨i, -, rfl⟩ := List.mem_map.mp h
  rw [List.length_take]
  exact Nat.min_le_left _ _

lemma ne_nil_of_mem_batches (hsize : 0 < size) {b : List α} (h : b ∈ batches size l) : b ≠ [] := by
  obtain ⟨i, hi, rfl⟩ := List.mem_map.mp h
  rw [List.mem_range, Nat.lt_div_iff_mul_lt hsize] at hi
  refine List.ne_nil_of_length_pos ?_
  rw [List.length_take, List.length_drop]
  rw [Nat.mul_comm] at hi
  omega

/-- Pages that are cut from different lists make up one list of keys, if the lists agree on the
keys. -/
lemma flatMap_pages {β : Type*} {key : α → β} {keys : List β} {lists : ℕ → List α}
    (hsize : 0 < size) (h : ∀ k, (lists k).map key = keys) :
    ((List.range ((keys.length + size - 1) / size)).flatMap fun k =>
      ((lists k).drop (size * k)).take size).map key = keys := by
  have hpage : ∀ k, (((lists k).drop (size * k)).take size).map key =
      (keys.drop (size * k)).take size := by
    intro k
    rw [List.map_take, List.map_drop, h]
  rw [List.map_flatMap]
  simp only [hpage]
  exact flatten_batches hsize keys

/-- The number of batches is rounded up. -/
lemma length_batches (size : ℕ) (l : List α) :
    (batches size l).length = (l.length + size - 1) / size := by
  rw [batches, List.length_map, List.length_range]

end Lib
