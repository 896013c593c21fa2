/-
Statements with positional parameters.

A builder joins conditions by `AND`; each has a placeholder `$n` for the `n`th argument, counted
from 1.  The server takes a statement with as many arguments as its placeholders ask for, and
each argument only at the type of its condition.
-/
import Mathlib.Tactic.Common
import Mathlib.Data.List.Basic

namespace Lib.Positional

variable {κ α ρ : Type*}

/-- A statement under construction: `index` is the next placeholder. -/
structure Statement (κ α : Type*) where
  conds : List (κ × ℕ) := []
  args : List α := []
  index : ℕ := 1

/-- One more condition, with its argument. -/
def Statement.add (q : Statement κ α) (k : κ) (a : α) : Statement κ α :=
  { conds := q.conds ++ [(k, q.index)], args := q.args ++ [a], index := q.index + 1 }

def Statement.ofList (l : List (κ × α)) : Statement κ α := l.foldl (fun q p => q.add p.1 p.2) {}

/-- The value of `$n`. -/
def bound (args : List α) : ℕ → Option α
  | 0 => none
  | n + 1 => args[n]?

/-- How many arguments a statement with these placeholders takes. -/
def parameters (placeholders : List ℕ) : ℕ := placeholders.foldr max 0

/-- What the conditions say of a row; `sat k a` is `none` when `a` has not the type of `k`. -/
def meaning (sat : κ → α → Option (ρ → Bool)) (args : List α) :
    List (κ × ℕ) → Option (ρ → Bool)
  | [] => some fun _ => true
  | (k, n) :: conds => do
    let p ← (bound args n).bind (sat k)
    let q ← meaning sat args conds
    some fun r => p r && q r

/-- The conditions with their arguments, without placeholders. -/
def conjunction (sat : κ → α → Option (ρ → Bool)) : List (κ × α) → Option (ρ → Bool)
  | [] => some fun _ => true
  | (k, a) :: l => do
    let p ← sat k a
    let q ← conjunction sat l
    some fun r => p r && q r

lemma conjunction_append {sat : κ → α → Option (ρ → Bool)} {l l' : List (κ × α)}
    {p p' : ρ → Bool} (h : conjunction sat l = some p) (h' : conjunction sat l' = some p') :
    conjunction sat (l ++ l') = some fun r => p r && p' r := by
  induction l generalizing p with
  | nil =>
    obtain rfl := Option.some.inj h
    simpa using h'
  | cons x l ih =>
    obtain ⟨k, a⟩ := x
    rw [conjunction] at h
    obtain ⟨u, hu, v, hv, rfl⟩ : ∃ u, sat k a = some u ∧ ∃ v, conjunction sat l = some v ∧
        (fun r => u r && v r) = p := by simpa [Option.bind_eq_some_iff] using h
    simp [conjunction, hu, ih hv, Bool.and_assoc]

/-! ### The builder -/

lemma parameters_append (ns ms : List ℕ) :
    parameters (ns ++ ms) = max (parameters ns) (parameters ms) := by
  induction ns with
  | nil => exact (Nat.zero_max _).symm
  | cons n ns ih =>
    change max n (parameters (ns ++ ms)) = max (max n (parameters ns)) (parameters ms)
    rw [ih, Nat.max_assoc]

section

variable (q : Statement κ α) (l : List (κ × α))

lemma foldl_add : l.foldl (fun q p => q.add p.1 p.2) q =
    { conds := q.conds ++ (l.zipIdx q.index).map fun x => (x.1.1, x.2)
      args := q.args ++ l.map Prod.snd
      index := q.index + l.length } := by
  induction l generalizing q with
  | nil => simp
  | cons p l ih =>
    rw [List.foldl_cons, ih, Statement.add]
    simp [Nat.add_assoc, Nat.add_comm 1]

lemma ofList_args : (Statement.ofList l).args = l.map Prod.snd := by
  rw [Statement.ofList, foldl_add]
  rfl

lemma ofList_index : (Statement.ofList l).index = l.length + 1 := by
  rw [Statement.ofList, foldl_add]
  exact Nat.add_comm 1 l.length

lemma ofList_conds :
    (Statement.ofList l).conds = (l.zipIdx 1).map fun x => (x.1.1, x.2) := by
  rw [Statement.ofList, foldl_add]
  rfl

/-- A statement takes as many arguments as it has. -/
lemma parameters_ofList :
    parameters ((Statement.ofList l).conds.map Prod.snd) = (Statement.ofList l).args.length := by
  have hindices : ∀ (l : List (κ × α)) (n : ℕ),
      parameters ((l.zipIdx (n + 1)).map Prod.snd) = if l = [] then 0 else n + l.length := by
    intro l
    induction l with
    | nil => exact fun _ => rfl
    | cons p l ih =>
      intro n
      change max (n + 1) (parameters ((l.zipIdx (n + 1 + 1)).map Prod.snd)) = _
      rw [ih, if_neg (List.cons_ne_nil p l), List.length_cons]
      cases l <;> simp <;> omega
  rw [ofList_conds, ofList_args, List.map_map, List.length_map]
  refine (hindices l 0).trans ?_
  cases l <;> simp

lemma ofList_add (k : κ) (a : α) : (Statement.ofList l).add k a = .ofList (l ++ [(k, a)]) := by
  rw [Statement.ofList, Statement.ofList, List.foldl_append]
  rfl

end

lemma bound_append (before after : List α) (a : α) :
    bound (before ++ a :: after) (before.length + 1) = some a := by
  rw [bound, List.getElem?_append_right (Nat.le_refl _), Nat.sub_self]
  rfl

/-- The placeholders of a list of conditions that starts behind `before` arguments. -/
lemma meaning_zipIdx (sat : κ → α → Option (ρ → Bool)) (l : List (κ × α)) (before after : List α) :
    meaning sat (before ++ l.map Prod.snd ++ after)
      ((l.zipIdx (before.length + 1)).map fun x => (x.1.1, x.2)) = conjunction sat l := by
  induction l generalizing before with
  | nil => rfl
  | cons p l ih =>
    obtain ⟨k, a⟩ := p
    have hrest := ih (before ++ [a])
    rw [List.length_append, List.length_singleton] at hrest
    simp only [List.map_cons, List.zipIdx_cons, List.append_assoc, List.cons_append,
      List.nil_append] at hrest ⊢
    rw [meaning, conjunction, bound_append, hrest]
    rfl

/-- **Each placeholder stands for the argument of its own condition**, whatever arguments follow
those of the conditions. -/
theorem meaning_ofList (sat : κ → α → Option (ρ → Bool)) (l : List (κ × α)) (after : List α) :
    meaning sat ((Statement.ofList l).args ++ after) (Statement.ofList l).conds =
      conjunction sat l := by
  rw [ofList_args, ofList_conds]
  exact meaning_zipIdx sat l [] after

end Lib.Positional
