/-
Finite maps as association lists.

A key occurs at most once, so that `List.lookup` and membership say the same; `set` keeps this.
`merge` assigns all the entries of a second map.
-/
import Mathlib.Tactic.Common
import Mathlib.Data.List.Basic
import Mathlib.Data.List.Nodup

namespace Lib.Assoc

variable {κ β : Type*} [DecidableEq κ]

/-- `m[k] = v`. -/
def set (k : κ) (v : β) : List (κ × β) → List (κ × β)
  | [] => [(k, v)]
  | e :: m => if e.1 = k then (k, v) :: m else e :: set k v m

/-- All the assignments of a second map. -/
def merge (m m' : List (κ × β)) : List (κ × β) := m'.foldl (fun m e => set e.1 e.2 m) m

lemma lookup_cons_eq (k : κ) (e : κ × β) (m : List (κ × β)) :
    (e :: m).lookup k = if k = e.1 then some e.2 else m.lookup k := by
  rw [List.lookup_cons]
  by_cases h : k = e.1
  · rw [if_pos h, beq_iff_eq.mpr h]
  · rw [if_neg h, beq_eq_false_iff_ne.mpr h]

lemma lookup_set (k k' : κ) (v : β) (m : List (κ × β)) :
    (set k v m).lookup k' = if k' = k then some v else m.lookup k' := by
  induction m with
  | nil => rw [set, lookup_cons_eq]
  | cons e m ih =>
    rw [set, lookup_cons_eq]
    by_cases he : e.1 = k
    · rw [if_pos he, lookup_cons_eq, he]
      by_cases h : k' = k <;> simp [h]
    · rw [if_neg he, lookup_cons_eq, ih]
      by_cases h : k' = e.1
      · simp [h, he]
      · simp [h]

lemma mem_keys_set {k k' : κ} {v : β} {m : List (κ × β)} :
    k' ∈ (set k v m).map Prod.fst ↔ k' = k ∨ k' ∈ m.map Prod.fst := by
  induction m with
  | nil => simp [set]
  | cons e m ih =>
    rw [set]
    by_cases he : e.1 = k
    · simp [he]
    · rw [if_neg he, List.map_cons, List.mem_cons, ih, List.map_cons, List.mem_cons]
      tauto

lemma nodup_set {k : κ} {v : β} {m : List (κ × β)} (h : (m.map Prod.fst).Nodup) :
    ((set k v m).map Prod.fst).Nodup := by
  induction m with
  | nil => simp [set]
  | cons e m ih =>
    rw [List.map_cons, List.nodup_cons] at h
    rw [set]
    by_cases he : e.1 = k
    · rw [if_pos he, List.map_cons, List.nodup_cons, ← he]
      exact h
    · rw [if_neg he, List.map_cons, List.nodup_cons, mem_keys_set]
      exact ⟨fun hmem => hmem.elim he h.1, ih h.2⟩

lemma length_set_le (k : κ) (v : β) (m : List (κ × β)) : (set k v m).length ≤ m.length + 1 := by
  induction m with
  | nil => exact Nat.le_refl 1
  | cons e m ih =>
    rw [set]
    split
    · exact Nat.le_succ _
    · exact Nat.succ_le_succ ih

/-- An entry is found under its key, and what is found is an entry. -/
lemma lookup_eq_some_iff {k : κ} {v : β} {m : List (κ × β)} (h : (m.map Prod.fst).Nodup) :
    m.lookup k = some v ↔ (k, v) ∈ m := by
  induction m with
  | nil => simp
  | cons e m ih =>
    obtain ⟨k', v'⟩ := e
    rw [List.map_cons, List.nodup_cons] at h
    rw [lookup_cons_eq, List.mem_cons, Prod.mk.injEq]
    by_cases hk : k = k'
    · subst hk
      have hnot : (k, v) ∉ m := fun hmem => h.1 (List.mem_map.mpr ⟨(k, v), hmem, rfl⟩)
      simp [hnot, eq_comm]
    · simp [hk, ih h.2]

lemma isSome_lookup {k : κ} {m : List (κ × β)} :
    (m.lookup k).isSome = true ↔ k ∈ m.map Prod.fst := by
  induction m with
  | nil => simp
  | cons e m ih =>
    rw [lookup_cons_eq, List.map_cons, List.mem_cons]
    by_cases hk : k = e.1
    · simp [hk]
    · rw [if_neg hk, ih, or_iff_right hk]

/-- What the second map has wins. -/
lemma lookup_merge {m m' : List (κ × β)} (h : (m'.map Prod.fst).Nodup) (k : κ) :
    (merge m m').lookup k = (m'.lookup k).or (m.lookup k) := by
  induction m' generalizing m with
  | nil => simp [merge]
  | cons e m' ih =>
    rw [List.map_cons, List.nodup_cons] at h
    have hrest : (merge m (e :: m')).lookup k =
        (m'.lookup k).or ((set e.1 e.2 m).lookup k) := ih h.2
    rw [hrest, lookup_set, lookup_cons_eq]
    by_cases hk : k = e.1
    · have hnone : m'.lookup k = none := by
        rw [← Option.not_isSome_iff_eq_none, isSome_lookup, hk]
        exact h.1
      rw [hnone, if_pos hk, if_pos hk]
      rfl
    · rw [if_neg hk, if_neg hk]

/-! ### Caches -/

section

variable {ρ : Type*} {key : ρ → κ} {compute : ρ → β} {before : List ρ} {m : List (κ × β)}

/-- What the map holds under the key of `q`, or else what is computed for `q` and kept there. -/
def cached (key : ρ → κ) (compute : ρ → β) (m : List (κ × β)) (q : ρ) : β × List (κ × β) :=
  match m.lookup (key q) with
  | some v => (v, m)
  | none => (compute q, set (key q) (compute q) m)

/-- The first of the requests that has the key of `q`. -/
def firstWithKey (key : ρ → κ) (requests : List ρ) (q : ρ) : Option ρ :=
  requests.find? fun p => key p = key q

/-- The map holds under each key what was computed for the first request that had it. -/
def Remembers (key : ρ → κ) (compute : ρ → β) (before : List ρ) (m : List (κ × β)) : Prop :=
  ∀ q, m.lookup (key q) = (firstWithKey key before q).map compute

lemma remembers_nil : Remembers key compute [] [] := fun _ => rfl

lemma firstWithKey_append (before after : List ρ) (q q' : ρ) :
    firstWithKey key (before ++ q :: after) q' = (firstWithKey key before q').or
      (if key q = key q' then some q else firstWithKey key after q') := by
  rw [firstWithKey, List.find?_append, List.find?_cons]
  by_cases h : key q = key q' <;> simp [h, firstWithKey]

/-- The first request with the key of a request is among those up to it. -/
lemma firstWithKey_self (before after : List ρ) (q : ρ) :
    firstWithKey key (before ++ q :: after) q = some ((firstWithKey key before q).getD q) := by
  rw [firstWithKey_append, if_pos rfl]
  cases firstWithKey key before q <;> rfl

lemma of_firstWithKey {requests : List ρ} {p q : ρ} (h : firstWithKey key requests q = some p) :
    p ∈ requests ∧ key p = key q :=
  ⟨List.mem_of_find?_eq_some h, by simpa using List.find?_some h⟩

lemma exists_firstWithKey (key : ρ → κ) {requests : List ρ} {q : ρ} (h : q ∈ requests) :
    ∃ p, firstWithKey key requests q = some p :=
  Option.isSome_iff_exists.mp (List.find?_isSome.mpr ⟨q, h, decide_eq_true rfl⟩)

/-- A request is answered with what was computed for the first one that had its key. -/
lemma cached_answer (h : Remembers key compute before m) (q : ρ) :
    (cached key compute m q).1 = compute ((firstWithKey key before q).getD q) := by
  rw [cached, h q]
  cases firstWithKey key before q <;> rfl

lemma remembers_cached (h : Remembers key compute before m) (q : ρ) :
    Remembers key compute (before ++ [q]) (cached key compute m q).2 := by
  intro q'
  rw [firstWithKey_append, cached, h q]
  cases hfirst : firstWithKey key before q with
  | some p =>
    -- a key that is there is not that of a new entry
    have hor : (firstWithKey key before q').or (if key q = key q' then some q else none) =
        firstWithKey key before q' := by
      by_cases hkey : key q = key q'
      · have hsame : firstWithKey key before q' = some p := by
          rw [← hfirst, firstWithKey, firstWithKey, hkey]
        rw [hsame, Option.some_or]
      · rw [if_neg hkey, Option.or_none]
    exact (h q').trans (congrArg (Option.map compute) hor.symm)
  | none =>
    show (set (key q) (compute q) m).lookup (key q') = _
    rw [lookup_set, h q']
    by_cases hkey : key q = key q'
    · have hsame : firstWithKey key before q' = none := by
        rw [← hfirst, firstWithKey, firstWithKey, hkey]
      rw [if_pos hkey.symm, if_pos hkey, hsame]
      rfl
    · rw [if_neg (Ne.symm hkey), if_neg hkey]
      exact congrArg (Option.map compute) (Option.or_none).symm

end

end Lib.Assoc
