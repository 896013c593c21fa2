/-
A list grouped by a key.

The groups are a map that is filled in one pass: each element is added to what the map has under
its key.  A group is what the pass would have made of the elements with this key alone, so that a
fact about nested groups is a fact about one group at a time.
-/
import Mathlib.Data.List.Perm.Basic
import Mathlib.Data.List.Sort
import OpsPlatform.Lib.Assoc

namespace Lib.Grouping

open Assoc

variable {α β κ : Type} [DecidableEq κ]

/-- What the map has under a key. -/
def get (k : κ) (groups : List (κ × β)) : Option β := groups.lookup k

lemma get_set (k k' : κ) (v : β) (groups : List (κ × β)) :
    get k' (set k v groups) = if k' = k then some v else get k' groups :=
  lookup_set k k' v groups

section

variable (key : α → κ) (add : β → α → β) (empty : β)

/-- One element is added to the group of its key. -/
def place (groups : List (κ × β)) (a : α) : List (κ × β) :=
  set (key a) (add ((get (key a) groups).getD empty) a) groups

def group (l : List α) : List (κ × β) := l.foldl (place key add empty) []

variable {key add empty}

/-- A further pass over a map adds the elements of each key to its group. -/
lemma get_foldl_place (groups : List (κ × β)) (l : List α) (k : κ) :
    get k (l.foldl (place key add empty) groups) =
      if k ∈ l.map key then
        some ((l.filter (key · = k)).foldl add ((get k groups).getD empty))
      else get k groups := by
  induction l generalizing groups with
  | nil => simp
  | cons a l ih =>
    rw [List.foldl_cons, ih, place, get_set, List.map_cons]
    by_cases ha : k = key a
    · subst ha
      have hfilter : (a :: l).filter (key · = key a) = a :: l.filter (key · = key a) := by simp
      rw [if_pos rfl, if_pos List.mem_cons_self, hfilter, List.foldl_cons, Option.getD_some]
      split
      · rfl
      · next hl =>
        -- no later element has the key
        have hnone : l.filter (key · = key a) = [] := by
          rw [List.filter_eq_nil_iff]
          intro b hb heq
          exact hl (List.mem_map.mpr ⟨b, hb, by simpa using heq⟩)
        rw [hnone]
        rfl
    · simp [ha, Ne.symm ha]

lemma get_group (l : List α) (k : κ) :
    get k (group key add empty l) =
      if k ∈ l.map key then some ((l.filter (key · = k)).foldl add empty) else none :=
  get_foldl_place [] l k

lemma nodup_keys_group (l : List α) : ((group key add empty l).map Prod.fst).Nodup := by
  have hfold : ∀ groups : List (κ × β), (groups.map Prod.fst).Nodup →
      ((l.foldl (place key add empty) groups).map Prod.fst).Nodup := by
    induction l with
    | nil => exact fun _ h => h
    | cons a l ih => exact fun groups h => ih _ (nodup_set h)
  exact hfold [] List.nodup_nil

lemma mem_keys_group {l : List α} {k : κ} :
    k ∈ (group key add empty l).map Prod.fst ↔ k ∈ l.map key := by
  rw [← isSome_lookup, ← get, get_group]
  split <;> simp_all

end

/-! ### Nothing is lost -/

/-- The elements of all keys are the elements of the list. -/
lemma perm_flatMap_filter {key : α → κ} {keys : List κ} {l : List α} (hnodup : keys.Nodup)
    (hall : ∀ a ∈ l, key a ∈ keys) : (keys.flatMap fun k => l.filter (key · = k)).Perm l := by
  induction keys generalizing l with
  | nil =>
    have hnil : l = [] := List.eq_nil_iff_forall_not_mem.mpr fun a ha => by
      simpa using hall a ha
    simp [hnil]
  | cons k keys ih =>
    obtain ⟨hk, hnodup⟩ := List.nodup_cons.mp hnodup
    have hothers : (keys.flatMap fun k' => l.filter (key · = k')) =
        keys.flatMap fun k' => (l.filter (fun a => ! decide (key a = k))).filter (key · = k') := by
      refine List.flatMap_congr fun k' hk' => ?_
      rw [List.filter_filter]
      refine List.filter_congr fun a _ => ?_
      have hne : k' ≠ k := fun heq => hk (heq ▸ hk')
      by_cases ha : key a = k' <;> simp [ha, hne]
    rw [List.flatMap_cons, hothers]
    refine ((ih hnodup ?_).append_left _).trans (List.filter_append_perm _ _)
    intro a ha
    obtain ⟨ha, hne⟩ := List.mem_filter.mp ha
    exact (List.mem_cons.mp (hall a ha)).resolve_left (by simpa using hne)

/-! ### Sorted keys -/

lemma orderedInsert_congr {r s : α → α → Prop} [DecidableRel r] [DecidableRel s] {a : α}
    {l : List α} (h : ∀ b ∈ l, r a b ↔ s a b) : l.orderedInsert r a = l.orderedInsert s a := by
  induction l with
  | nil => rfl
  | cons b l ih =>
    rw [List.orderedInsert_cons, List.orderedInsert_cons,
      ih fun c hc => h c (List.mem_cons_of_mem _ hc)]
    exact if_congr (h b List.mem_cons_self) rfl rfl

/-- A sort of keys that are all different does not ask how a key compares with itself. -/
lemma insertionSort_congr {r s : α → α → Prop} [DecidableRel r] [DecidableRel s] {l : List α}
    (hnodup : l.Nodup) (h : ∀ a b, a ≠ b → (r a b ↔ s a b)) :
    l.insertionSort r = l.insertionSort s := by
  induction l with
  | nil => rfl
  | cons a l ih =>
    obtain ⟨ha, hnodup⟩ := List.nodup_cons.mp hnodup
    rw [List.insertionSort_cons, List.insertionSort_cons, ih hnodup]
    refine orderedInsert_congr fun b hb => h a b ?_
    rintro rfl
    exact ha ((List.mem_insertionSort s).mp hb)

end Lib.Grouping
