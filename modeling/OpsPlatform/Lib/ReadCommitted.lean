/-
A table under READ COMMITTED, as far as transactions that write see it.

`rows` are the committed rows.  A transaction writes new versions of rows, or new rows, which
nobody else sees until it commits; before it writes under a key it takes the lock of that key,
and it keeps its locks to its end.  A statement that finds a lock taken waits, and then goes on
with what is committed by then.  What carries the proofs is `undisturbed_commit`: the
committed row of a key that one transaction holds does not change under the commits of the
others.
-/
import OpsPlatform.Lib.Table
import Mathlib.Logic.Function.Basic

set_option linter.unusedSectionVars false

namespace Lib.ReadCommitted

open Lib.Table

variable {T K V : Type} [DecidableEq T] [DecidableEq K]

/-! ### Rows by their keys -/

section

variable (key : V → K)

/-- The row with the key `k`. -/
def find (rows : List V) (k : K) : Option V := rows.find? fun v => key v == k

/-- The rows after a version `v`: it replaces the one with its key, or is a new row. -/
def install (rows : List V) (v : V) : List V :=
  if (find key rows (key v)).isSome then updateWhere (fun r => key r == key v) (fun _ => v) rows
  else rows ++ [v]

variable {key}

lemma key_of_find {rows : List V} {k : K} {v : V} (h : find key rows k = some v) : key v = k := by
  simpa using List.find?_some h

lemma mem_of_find {rows : List V} {k : K} {v : V} (h : find key rows k = some v) : v ∈ rows :=
  List.mem_of_find?_eq_some h

lemma find_eq_none {rows : List V} {k : K} : find key rows k = none ↔ ∀ v ∈ rows, key v ≠ k := by
  simp [find]

lemma install_of_none {rows : List V} {v : V} (h : find key rows (key v) = none) :
    install key rows v = rows ++ [v] := by
  simp [install, h]

/-- A version with a new key is added. -/
lemma mem_install_of_none {rows : List V} {v r : V} (h : find key rows (key v) = none) :
    r ∈ install key rows v ↔ r ∈ rows ∨ r = v := by
  rw [install_of_none h, List.mem_append, List.mem_singleton]

lemma install_of_some {rows : List V} {v r : V} (h : find key rows (key v) = some r) :
    install key rows v = updateWhere (fun r => key r == key v) (fun _ => v) rows := by
  simp [install, h]

/-- Under its own key a version is found after it is installed; elsewhere nothing changes. -/
lemma find_install (rows : List V) (v : V) (k : K) :
    find key (install key rows v) k = if key v = k then some v else find key rows k := by
  cases h : find key rows (key v) with
  | none =>
    rw [install_of_none h, find, List.find?_append]
    by_cases hk : key v = k
    · rw [if_pos hk]
      have hnone : rows.find? (fun r => key r == k) = none := by
        rw [← hk]
        exact h
      rw [hnone]
      simp [hk]
    · rw [if_neg hk, List.find?_singleton]
      simp [hk, find]
  | some r =>
    rw [install_of_some h, find, updateWhere, List.find?_map]
    by_cases hk : key v = k
    · subst hk
      -- the rows that match afterwards are those that matched before
      have hpred : ((fun r => key r == key v) ∘ fun r => if key r == key v then v else r) =
          fun r => key r == key v := by
        ext r
        by_cases hr : key r = key v <;> simp [hr]
      have hfound : rows.find? (fun r => key r == key v) = some r := h
      have hkey : key r = key v := key_of_find h
      rw [hpred, hfound, if_pos rfl]
      simp [hkey]
    · rw [if_neg hk]
      have hpred : ((fun r => key r == k) ∘ fun r => if key r == key v then v else r) =
          fun r => key r == k := by
        ext r
        by_cases hr : key r = key v
        · simp [hr]
        · simp [hr]
      rw [hpred]
      show (find key rows k).map _ = find key rows k
      cases hfound : find key rows k with
      | none => rfl
      | some r' =>
        have hkey : key r' ≠ key v := by
          rw [key_of_find hfound]
          exact fun h => hk h.symm
        simp [hkey]

/-- The rows after an installation: the version itself, and the rows with other keys. -/
lemma mem_install {rows : List V} {v r : V} :
    r ∈ install key rows v ↔ r = v ∨ (r ∈ rows ∧ key r ≠ key v) := by
  cases h : find key rows (key v) with
  | none =>
    rw [mem_install_of_none h]
    have hne := find_eq_none.mp h
    constructor
    · rintro (hr | rfl)
      · exact Or.inr ⟨hr, hne r hr⟩
      · exact Or.inl rfl
    · rintro (rfl | ⟨hr, -⟩)
      · exact Or.inr rfl
      · exact Or.inl hr
  | some r₀ =>
    rw [install_of_some h, mem_updateWhere]
    constructor
    · rintro ⟨r₁, hr₁, ⟨-, rfl⟩ | ⟨hne, rfl⟩⟩
      · exact Or.inl rfl
      · exact Or.inr ⟨hr₁, by simpa using hne⟩
    · rintro (rfl | ⟨hr, hne⟩)
      · exact ⟨r₀, mem_of_find h, Or.inl ⟨by simp [key_of_find h], rfl⟩⟩
      · exact ⟨r, hr, Or.inr ⟨by simpa using hne, rfl⟩⟩

/-- An update of one row is the installation of its new version. -/
lemma install_eq_updateWhere {rows : List V} (hkeys : (rows.map key).Nodup) {r : V}
    (hr : r ∈ rows) {hit : V → Bool} {f : V → V} (hhit : hit r = true)
    (honly : ∀ v ∈ rows, hit v = true → key v = key r) (hkey : key (f r) = key r) :
    install key rows (f r) = updateWhere hit f rows := by
  have hsame : ∀ v ∈ rows, key v = key r → v = r := fun v hv h =>
    List.inj_on_of_nodup_map hkeys hv hr h
  have hfind : find key rows (key (f r)) = some r := by
    refine find?_eq_of_nodup hkeys hr (by simp [hkey]) ?_
    intro v _ hv
    simpa [hkey] using hv
  rw [install_of_some hfind, updateWhere, updateWhere]
  refine List.map_congr_left fun v hv => ?_
  by_cases hvr : v = r
  · subst hvr
    simp [hkey, hhit]
  · have hne : key v ≠ key r := fun h => hvr (hsame v hv h)
    have hmiss : hit v = false := by
      cases h : hit v with
      | false => rfl
      | true => exact absurd (honly v hv h) hne
    simp [hkey, hne, hmiss]

/-- Keys stay unique. -/
lemma nodup_install {rows : List V} (hkeys : (rows.map key).Nodup) (v : V) :
    ((install key rows v).map key).Nodup := by
  cases h : find key rows (key v) with
  | none =>
    rw [install_of_none h]
    exact nodup_map_append hkeys (find_eq_none.mp h)
  | some r =>
    rw [install_of_some h]
    refine nodup_map_updateWhere ?_ hkeys
    intro r hr
    exact (by simpa using hr : key r = key v).symm

end

/-! ### Transactions -/

/-- A table with the locks and the uncommitted versions of its transactions. -/
structure Store (T K V : Type) where
  rows : List V
  holder : K → Option T
  pending : T → List V

namespace Store

variable (key : V → K)

/-- A table on which no transaction works. -/
def ofRows (rows : List V) : Store T K V := ⟨rows, fun _ => none, fun _ => []⟩

/-- The lock of `k` can be taken by `t`. -/
def free (s : Store T K V) (t : T) (k : K) : Bool := s.holder k = none ∨ s.holder k = some t

def lock (s : Store T K V) (t : T) (k : K) : Store T K V :=
  { s with holder := Function.update s.holder k (some t) }

/-- A new version, under the lock of its key. -/
def write (s : Store T K V) (t : T) (v : V) : Store T K V :=
  { s.lock t (key v) with pending := Function.update s.pending t (s.pending t ++ [v]) }

/-- The end of a transaction with the rows that it leaves. -/
def finish (s : Store T K V) (t : T) (rows : List V) : Store T K V where
  rows := rows
  holder k := if s.holder k = some t then none else s.holder k
  pending := Function.update s.pending t []

def rollback (s : Store T K V) (t : T) : Store T K V := s.finish t s.rows

def commit (s : Store T K V) (t : T) : Store T K V :=
  s.finish t ((s.pending t).foldl (install key) s.rows)

@[simp] lemma pending_finish (s : Store T K V) (t : T) (rows : List V) :
    (s.finish t rows).pending = Function.update s.pending t [] := rfl

lemma pending_finish_self (s : Store T K V) (t : T) (rows : List V) :
    (s.finish t rows).pending t = [] := by
  rw [pending_finish, Function.update_self]

@[simp] lemma pending_write (s : Store T K V) (t : T) (v : V) :
    (s.write key t v).pending = Function.update s.pending t (s.pending t ++ [v]) := rfl

/-- The first write of a transaction is all that it has. -/
lemma pending_write_self {s : Store T K V} {t : T} (h : s.pending t = []) (v : V) :
    (s.write key t v).pending t = [v] := by
  rw [pending_write, Function.update_self, h, List.nil_append]

@[simp] lemma holder_lock (s : Store T K V) (t : T) (k : K) :
    (s.lock t k).holder = Function.update s.holder k (some t) := rfl

@[simp] lemma holder_write (s : Store T K V) (t : T) (v : V) :
    (s.write key t v).holder = Function.update s.holder (key v) (some t) := rfl

/-- Keys are unique, and what is written is locked. -/
structure Sound (s : Store T K V) : Prop where
  keys : (s.rows.map key).Nodup
  held : ∀ t, ∀ v ∈ s.pending t, s.holder (key v) = some t

variable {key}

lemma sound_ofRows {rows : List V} (h : (rows.map key).Nodup) :
    Sound key (ofRows rows : Store T K V) := ⟨h, by intro t v hv; cases hv⟩

lemma Sound.lock {s : Store T K V} (h : Sound key s) {t : T} {k : K} (hfree : s.free t k = true) :
    Sound key (s.lock t k) := by
  refine ⟨h.keys, ?_⟩
  intro t' v hv
  have hheld := h.held t' v hv
  rw [holder_lock, Function.update_apply]
  split
  · next hk =>
    -- the lock was free, so its holder can only be `t`
    rw [hk] at hheld
    simp only [free, hheld, decide_eq_true_eq] at hfree
    rcases hfree with hnone | hsome
    · cases hnone
    · exact hsome.symm
  · exact hheld

lemma Sound.write {s : Store T K V} (h : Sound key s) {t : T} {v : V}
    (hfree : s.free t (key v) = true) : Sound key (s.write key t v) := by
  refine ⟨h.keys, ?_⟩
  intro t' w hw
  rw [pending_write, Function.update_apply] at hw
  have hlock := (h.lock hfree).held
  split at hw
  · next ht =>
    rcases List.mem_append.mp hw with hw | hw
    · exact hlock t' w (by rw [ht]; exact hw)
    · obtain rfl := List.mem_singleton.mp hw
      rw [holder_write, Function.update_self, ht]
  · exact hlock t' w hw

lemma Sound.finish {s : Store T K V} (h : Sound key s) (t : T) {rows : List V}
    (hkeys : (rows.map key).Nodup) : Sound key (s.finish t rows) := by
  refine ⟨hkeys, ?_⟩
  intro t' v hv
  rw [pending_finish, Function.update_apply] at hv
  split at hv
  · cases hv
  · next ht =>
    have hheld := h.held t' v hv
    show (if s.holder (key v) = some t then none else s.holder (key v)) = some t'
    rw [if_neg (by rw [hheld]; exact fun heq => ht (Option.some.inj heq)), hheld]

lemma nodup_foldl_install {rows : List V} (hkeys : (rows.map key).Nodup) (vs : List V) :
    ((vs.foldl (install key) rows).map key).Nodup := by
  induction vs generalizing rows with
  | nil => exact hkeys
  | cons v vs ih => exact ih (nodup_install hkeys v)

lemma Sound.commit {s : Store T K V} (h : Sound key s) (t : T) : Sound key (s.commit key t) :=
  h.finish t (nodup_foldl_install h.keys _)

lemma Sound.rollback {s : Store T K V} (h : Sound key s) (t : T) : Sound key (s.rollback t) :=
  h.finish t h.keys

lemma find_foldl_install {rows vs : List V} {k : K} (h : ∀ v ∈ vs, key v ≠ k) :
    find key (vs.foldl (install key) rows) k = find key rows k := by
  induction vs generalizing rows with
  | nil => rfl
  | cons v vs ih =>
    rw [List.foldl_cons, ih fun w hw => h w (List.mem_cons_of_mem v hw), find_install,
      if_neg (h v List.mem_cons_self)]

/-- No row is lost. -/
lemma find_foldl_install_ne_none {rows : List V} {k : K} (h : find key rows k ≠ none)
    (vs : List V) : find key (vs.foldl (install key) rows) k ≠ none := by
  induction vs generalizing rows with
  | nil => exact h
  | cons v vs ih =>
    refine ih ?_
    rw [find_install]
    split
    · simp
    · exact h

/-! ### What the others do -/

/-- From `s` to `s'` nothing happens to what the transaction `t` has written and locked. -/
structure Undisturbed (key : V → K) (t : T) (s s' : Store T K V) : Prop where
  pending : s'.pending t = s.pending t
  holder : ∀ k, s.holder k = some t → s'.holder k = some t
  row : ∀ k, s.holder k = some t → find key s'.rows k = find key s.rows k

lemma undisturbed_refl (t : T) (s : Store T K V) : Undisturbed key t s s :=
  ⟨rfl, fun _ h => h, fun _ _ => rfl⟩

lemma undisturbed_lock {s : Store T K V} {t t' : T} {k : K} (hfree : s.free t' k = true)
    (ht : t ≠ t') : Undisturbed key t s (s.lock t' k) := by
  refine ⟨rfl, ?_, fun _ _ => rfl⟩
  intro k' hheld
  rw [holder_lock, Function.update_apply]
  split
  · next hk =>
    rw [← hk] at hfree
    simp only [free, hheld, decide_eq_true_eq] at hfree
    rcases hfree with hnone | hsome
    · cases hnone
    · exact absurd (Option.some.inj hsome) ht
  · exact hheld

lemma undisturbed_write {s : Store T K V} {t t' : T} {v : V} (hfree : s.free t' (key v) = true)
    (ht : t ≠ t') : Undisturbed key t s (s.write key t' v) := by
  have hlock : Undisturbed key t s (s.lock t' (key v)) := undisturbed_lock hfree ht
  refine ⟨?_, hlock.holder, fun _ _ => rfl⟩
  rw [pending_write, Function.update_of_ne ht]

lemma undisturbed_finish {s : Store T K V} {t t' : T} {rows : List V} (ht : t ≠ t')
    (hrows : ∀ k, s.holder k = some t → find key rows k = find key s.rows k) :
    Undisturbed key t s (s.finish t' rows) := by
  refine ⟨?_, ?_, hrows⟩
  · rw [pending_finish, Function.update_of_ne ht]
  · intro k hheld
    show (if s.holder k = some t' then none else s.holder k) = some t
    rw [if_neg (by rw [hheld]; exact fun heq => ht (Option.some.inj heq)), hheld]

lemma undisturbed_rollback {s : Store T K V} {t t' : T} (ht : t ≠ t') :
    Undisturbed key t s (s.rollback t') := undisturbed_finish ht fun _ _ => rfl

/-- What one transaction has locked stays as it is under the commits of the others. -/
lemma Sound.undisturbed_commit {s : Store T K V} (h : Sound key s) {t t' : T} (ht : t ≠ t') :
    Undisturbed key t s (s.commit key t') := by
  refine undisturbed_finish ht ?_
  intro k hheld
  refine find_foldl_install ?_
  intro v hv heq
  have hheld' := h.held t' v hv
  rw [heq, hheld] at hheld'
  exact ht (Option.some.inj hheld')

end Store

end Lib.ReadCommitted
