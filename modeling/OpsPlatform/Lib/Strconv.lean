/-
Decimal numbers as text: `strconv.Atoi` of Go's standard library; and the arithmetic of `int64`.

`Atoi` reads more than `Itoa` writes: a sign and leading zeros are accepted too.  The canonical
spelling of a number is the one that `Itoa` writes.
-/
import Mathlib.Algebra.Ring.Int.Defs
import Mathlib.Algebra.Ring.Nat
import Mathlib.Data.List.TakeWhile
import Mathlib.Tactic.Common

namespace Lib.Strconv

/-- The value of a list of decimal digits. -/
def digits (cs : List Char) : Option ℕ :=
  if cs ≠ [] ∧ cs.all Char.isDigit then
    some (cs.foldl (fun n c => 10 * n + (c.toNat - '0'.toNat)) 0)
  else none

/-- A number that fits in `int`, which has 64 bits. -/
def inRange (n : Int) : Option Int := if -(2 ^ 63) ≤ n ∧ n < 2 ^ 63 then some n else none

/-- `strconv.Atoi`, with `none` for its errors: an optional sign and at least one digit. -/
def atoi (cs : List Char) : Option Int :=
  match cs with
  | '-' :: ds => (digits ds).bind fun n => inRange (-n)
  | '+' :: ds => (digits ds).bind fun n => inRange n
  | ds => (digits ds).bind fun n => inRange n

/-- The number that `strconv.Atoi` returns, also beside an error: zero for what is no number, and
the nearest `int` for one out of range. -/
def atoiValue (cs : List Char) : Int :=
  match cs with
  | '-' :: ds => ((digits ds).map fun n : ℕ => max (-(2 ^ 63)) (-(n : Int))).getD 0
  | '+' :: ds => ((digits ds).map fun n : ℕ => min (2 ^ 63 - 1) (n : Int)).getD 0
  | ds => ((digits ds).map fun n : ℕ => min (2 ^ 63 - 1) (n : Int)).getD 0

lemma range_of_inRange {n m : Int} (h : inRange n = some m) : -(2 ^ 63) ≤ m ∧ m < 2 ^ 63 := by
  rw [inRange] at h
  split at h
  · next hrange =>
    obtain rfl := Option.some.inj h
    exact hrange
  · cases h

/-- What is read fits in an `int`. -/
lemma range_of_atoi {cs : List Char} {n : Int} (h : atoi cs = some n) :
    -(2 ^ 63) ≤ n ∧ n < 2 ^ 63 := by
  rw [atoi.eq_def] at h
  split at h <;>
  · obtain ⟨d, -, hrange⟩ := Option.bind_eq_some_iff.mp h
    exact range_of_inRange hrange

lemma atoiValue_of_atoi {cs : List Char} {n : Int} (h : atoi cs = some n) : atoiValue cs = n := by
  rw [atoi.eq_def] at h
  rw [atoiValue.eq_def]
  split at h <;>
  · obtain ⟨d, hd, hrange⟩ := Option.bind_eq_some_iff.mp h
    have hn := range_of_inRange hrange
    rw [inRange] at hrange
    have hd' := Option.some.inj (Option.ite_none_right_eq_some.mp hrange).2
    simp only [hd, Option.map_some, Option.getD_some]
    omega

/-! ### Arithmetic -/

/-- The value of an expression of type `int64`, which wraps around. -/
def int64 (n : Int) : Int := n.bmod (2 ^ 64)

lemma int64_eq_self {n : Int} (h : -(2 ^ 63) ≤ n ∧ n < 2 ^ 63) : int64 n = n := by
  rw [int64, Int.bmod_def]
  split <;> omega

lemma int64_mul_int64 (m n : Int) : int64 (int64 m * n) = int64 (m * n) := Int.bmod_mul_bmod

lemma int64_pos_iff (n : Int) : 0 < int64 n ↔ 0 < n % 2 ^ 64 ∧ n % 2 ^ 64 < 2 ^ 63 := by
  rw [int64, Int.bmod_def]
  split <;> omega

/-- What has wrapped around is far away. -/
lemma int64_of_le {n : Int} (h : 2 ^ 63 ≤ n) : int64 n + 2 ^ 64 ≤ n := by
  rw [int64, Int.bmod_def]
  split <;> omega

/-! ### Digits of a text -/

/-- Decimal digits without a leading zero, or the one digit zero. -/
def Canonical (cs : List Char) : Prop :=
  cs ≠ [] ∧ cs.all Char.isDigit = true ∧ (cs = ['0'] ∨ cs.head? ≠ some '0')

instance (cs : List Char) : Decidable (Canonical cs) := inferInstanceAs (Decidable (_ ∧ _ ∧ _))

lemma digits_eq_some_iff {cs : List Char} {n : ℕ} :
    digits cs = some n ↔ cs ≠ [] ∧ cs.all Char.isDigit = true ∧ Nat.ofDigitChars 10 cs 0 = n := by
  rw [digits]
  split
  · next h => simp [h, Nat.ofDigitChars]
  · next h =>
    simp only [reduceCtorEq, false_iff]
    exact fun h' => h ⟨h'.1, h'.2.1⟩

lemma toNat_of_isDigit {c : Char} (h : c.isDigit = true) : 48 ≤ c.toNat ∧ c.toNat ≤ 57 := by
  exact Char.isDigit_iff_toNat.mp h

lemma isDigit_toDigits {n : ℕ} {c : Char} (h : c ∈ Nat.toDigits 10 n) : c.isDigit = true :=
  Nat.isDigit_of_mem_toDigits (by decide) (by decide) h

lemma digits_toDigits (n : ℕ) : digits (Nat.toDigits 10 n) = some n :=
  digits_eq_some_iff.mpr ⟨Nat.toDigits_ne_nil, List.all_eq_true.mpr fun _ => isDigit_toDigits,
    Nat.ofDigitChars_ten_toDigits⟩

/-- Digits have no sign. -/
lemma atoi_of_isDigit {cs : List Char} (h : cs.all Char.isDigit = true) :
    atoi cs = (digits cs).bind fun n => inRange n := by
  unfold atoi
  split
  · next ds =>
    simp only [List.all_cons, Bool.and_eq_true] at h
    exact absurd h.1 (by decide)
  · next ds =>
    simp only [List.all_cons, Bool.and_eq_true] at h
    exact absurd h.1 (by decide)
  · rfl

/-- `Atoi` reads what `Itoa` writes. -/
lemma atoi_toDigits {n : ℕ} (h : n < 2 ^ 63) : atoi (Nat.toDigits 10 n) = some (n : Int) := by
  rw [atoi_of_isDigit (List.all_eq_true.mpr fun _ => isDigit_toDigits), digits_toDigits]
  have hlt : (n : Int) < 2 ^ 63 := by exact_mod_cast h
  rw [Option.bind_some, inRange, if_pos ⟨by omega, hlt⟩]

/-- The same of a number below zero. -/
lemma atoi_neg_toDigits {n : ℕ} (h : n ≤ 2 ^ 63) :
    atoi ('-' :: Nat.toDigits 10 n) = some (-(n : Int)) := by
  have hle : (n : Int) ≤ 2 ^ 63 := by exact_mod_cast h
  rw [atoi, digits_toDigits, Option.bind_some, inRange, if_pos ⟨by omega, by omega⟩]

/-! ### The canonical spelling -/

lemma digitChar_of_isDigit {c : Char} (h : c.isDigit = true) :
    c.toNat - 48 < 10 ∧ (c.toNat - 48).digitChar = c := by
  have hrange := toNat_of_isDigit h
  obtain ⟨d, hd, hc⟩ : ∃ d, d < 10 ∧ c.toNat = 48 + d := ⟨c.toNat - 48, by omega, by omega⟩
  refine ⟨by omega, ?_⟩
  have hsub : c.toNat - 48 = d := by omega
  rw [hsub]
  apply Char.toNat_inj.mp
  rw [Nat.toNat_digitChar_of_lt_ten hd, hc]

/-- Digits that follow a number that is not zero extend its digits. -/
lemma toDigits_append_of_isDigit {cs : List Char} (h : ∀ c ∈ cs, c.isDigit = true) {m : ℕ}
    (hm : 0 < m) : Nat.toDigits 10 m ++ cs = Nat.toDigits 10 (Nat.ofDigitChars 10 cs m) := by
  induction cs generalizing m with
  | nil => simp
  | cons c cs ih =>
    obtain ⟨hlt, hchar⟩ := digitChar_of_isDigit (h c List.mem_cons_self)
    have hdigit : Nat.toDigits 10 (c.toNat - 48) = [c] := by
      rw [Nat.toDigits_of_lt_base hlt, hchar]
    have hrest := ih (fun c' hc' => h c' (List.mem_cons_of_mem _ hc'))
      (m := 10 * m + (c.toNat - 48)) (by omega)
    rw [← Nat.toDigits_append_toDigits (by decide) hm hlt, hdigit, List.append_assoc] at hrest
    rw [Nat.ofDigitChars_cons]
    exact hrest

/-- Digits without a leading zero are those of their value. -/
lemma eq_toDigits_of_head {c : Char} {cs : List Char} (h : ∀ d ∈ c :: cs, d.isDigit = true)
    (hc : c ≠ '0') : c :: cs = Nat.toDigits 10 (Nat.ofDigitChars 10 (c :: cs) 0) := by
  obtain ⟨hlt, hchar⟩ := digitChar_of_isDigit (h c List.mem_cons_self)
  have hpos : 0 < c.toNat - 48 := by
    refine Nat.pos_of_ne_zero fun hzero => hc ?_
    rw [← hchar, hzero]
    rfl
  have happend := toDigits_append_of_isDigit (fun d hd => h d (List.mem_cons_of_mem _ hd)) hpos
  rw [Nat.toDigits_of_lt_base hlt, hchar] at happend
  rw [Nat.ofDigitChars_cons, Nat.mul_zero, Nat.zero_add]
  exact happend

lemma head?_toDigits_ne {n : ℕ} (h : 0 < n) : (Nat.toDigits 10 n).head? ≠ some '0' := by
  induction n using Nat.strongRecOn with
  | _ n ih =>
    by_cases hn : n < 10
    · rw [Nat.toDigits_of_lt_base hn]
      simp only [List.head?_cons, Ne, Option.some.injEq, Nat.digitChar_eq_zero]
      omega
    · rw [Nat.toDigits_of_base_le (by decide) (by omega), List.head?_append]
      have hhead := ih (n / 10) (by omega) (by omega)
      cases hd : (Nat.toDigits 10 (n / 10)).head? with
      | none => exact absurd (List.head?_eq_none_iff.mp hd) Nat.toDigits_ne_nil
      | some d =>
        rw [hd] at hhead
        exact hhead

lemma canonical_toDigits (n : ℕ) : Canonical (Nat.toDigits 10 n) := by
  refine ⟨Nat.toDigits_ne_nil, List.all_eq_true.mpr fun _ => isDigit_toDigits, ?_⟩
  rcases Nat.eq_zero_or_pos n with rfl | h
  · exact Or.inl (Nat.toDigits_zero 10)
  · exact Or.inr (head?_toDigits_ne h)

/-- A canonical text is the one that `Itoa` writes for the value that `Atoi` reads. -/
lemma canonical_iff {cs : List Char} {n : ℕ} (h : atoi cs = some (n : Int)) :
    Canonical cs ↔ cs = Nat.toDigits 10 n := by
  constructor
  · rintro ⟨hne, hdigit, hzero⟩
    rw [atoi_of_isDigit hdigit, Option.bind_eq_some_iff] at h
    obtain ⟨m, hm, hrange⟩ := h
    obtain ⟨-, -, hvalue⟩ := digits_eq_some_iff.mp hm
    have hmn : m = n := by
      rw [inRange] at hrange
      split at hrange
      · exact Int.ofNat_inj.mp (Option.some.inj hrange)
      · cases hrange
    rw [← hmn, ← hvalue]
    rcases hzero with rfl | hzero
    · rfl
    · rcases cs with _ | ⟨c, cs⟩
      · exact absurd rfl hne
      · exact eq_toDigits_of_head (List.all_eq_true.mp hdigit) fun hc => hzero (by rw [hc]; rfl)
  · rintro rfl
    exact canonical_toDigits n

end Lib.Strconv
