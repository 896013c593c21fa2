/-
JavaScript on text: `String.prototype.trim` and `Number` of a string.

`trim` and Go's `strings.TrimSpace` disagree on two characters, U+FEFF and U+0085.  `Number` is
exact here; rounding to a double changes no whole number below `2 ^ 53`.
-/
import Mathlib.Data.Rat.Defs
import Mathlib.Algebra.Order.Field.Rat
import Mathlib.Tactic.Linarith
import Mathlib.Tactic.NormNum
import OpsPlatform.Lib.Strconv
import OpsPlatform.Lib.Text

namespace Lib.JsText

open Text Strconv

/-! ### Trimming -/

/-- `WhiteSpace` and `LineTerminator`. -/
def isSpace (c : Char) : Bool := (Text.isSpace c && c.toNat != 0x85) || c.toNat == 0xfeff

/-- The characters without those of a kind at both ends. -/
def trimBy (p : Char → Bool) (cs : List Char) : List Char :=
  ((cs.dropWhile p).reverse.dropWhile p).reverse

/-- `s.trim()`. -/
def trim (s : String) : String := String.ofList (trimBy isSpace s.toList)

lemma trimBy_sublist (p : Char → Bool) (cs : List Char) : (trimBy p cs).Sublist cs := by
  have hback : (trimBy p cs).Sublist (cs.dropWhile p).reverse.reverse :=
    (List.dropWhile_sublist p).reverse
  rw [List.reverse_reverse] at hback
  exact hback.trans (List.dropWhile_sublist p)

lemma trimBy_eq_self {p : Char → Bool} {cs : List Char} (h : ∀ c ∈ cs, p c = false) :
    trimBy p cs = cs := by
  have hrev : ∀ c ∈ cs.reverse, p c = false := fun c hc => h c (by simpa using hc)
  rw [trimBy, dropWhile_eq_self h, dropWhile_eq_self hrev, List.reverse_reverse]

@[simp] lemma trim_empty : trim "" = "" := rfl

/-- What Go and JavaScript trim together is nothing when either trims nothing. -/
lemma trimSpace_trim_eq_self_iff {s : String} :
    trimSpace (trim s) = s ↔ trim s = s ∧ trimSpace s = s := by
  constructor
  · intro h
    have htrim : trim s = s := by
      have hchars := congrArg String.toList h
      rw [trimSpace, trim, String.toList_ofList, String.toList_ofList] at hchars
      have hgo :
          (trimBy Text.isSpace (trimBy isSpace s.toList)).Sublist (trimBy isSpace s.toList) :=
        trimBy_sublist _ _
      rw [show trimBy Text.isSpace (trimBy isSpace s.toList) = s.toList from hchars] at hgo
      rw [trim, (trimBy_sublist isSpace s.toList).antisymm hgo, String.ofList_toList]
    rw [htrim] at h
    exact ⟨htrim, h⟩
  · rintro ⟨htrim, htrimSpace⟩
    rw [htrim, htrimSpace]

/-! ### Numbers -/

/-- A number. -/
inductive Number where
  | nan
  | infinity (negative : Bool)
  | finite (q : ℚ)
deriving DecidableEq

namespace Number

/-- The number is not `NaN` and not zero. -/
def truthy : Number → Bool
  | nan => false
  | infinity _ => true
  | finite q => q != 0

/-- `Number.isFinite(n) && n > 0`. -/
def isPositive : Number → Bool
  | finite q => decide (0 < q)
  | _ => false

/-- A value beyond the range of doubles is an infinity. -/
def ofRat (q : ℚ) : Number :=
  if 2 ^ 1024 - 2 ^ 970 ≤ q then infinity false
  else if q ≤ -(2 ^ 1024 - 2 ^ 970) then infinity true
  else finite q

/-- Decimal digits, maybe none. -/
def digitsOrNone (cs : List Char) : Option ℕ := if cs = [] then some 0 else digits cs

/-- Digits with a decimal point somewhere, maybe at an end. -/
def mantissa (cs : List Char) : Option ℚ :=
  let whole := cs.takeWhile (· != '.')
  let fraction := (cs.dropWhile (· != '.')).drop 1
  if whole = [] ∧ fraction = [] then none
  else do
    let w ← digitsOrNone whole
    let f ← digitsOrNone fraction
    some (w + f / 10 ^ fraction.length)

/-- An exponent, with the letter in front of it, or nothing. -/
def exponent : List Char → Option ℤ
  | [] => some 0
  | _ :: '-' :: cs => (digits cs).map fun n => -n
  | _ :: '+' :: cs => (digits cs).map fun n => n
  | _ :: cs => (digits cs).map fun n => n

/-- `StrUnsignedDecimalLiteral`. -/
def unsignedDecimal (cs : List Char) : Option ℚ :=
  if cs = "Infinity".toList then some (2 ^ 1024)
  else do
    let m ← mantissa (cs.takeWhile fun c => c != 'e' && c != 'E')
    let x ← exponent (cs.dropWhile fun c => c != 'e' && c != 'E')
    some (m * 10 ^ x)

/-- The value of a digit in a base up to 16. -/
def digitValue (c : Char) : ℕ :=
  if c.isDigit then c.toNat - 48 else if c.isLower then c.toNat - 87 else c.toNat - 55

/-- `0x`, `0o` and `0b`. -/
def radixDigits (base : ℕ) (cs : List Char) : Option ℚ :=
  if cs ≠ [] ∧ cs.all (fun c => c.isAlphanum && digitValue c < base) = true then
    some (cs.foldl (fun n c => n * base + digitValue c) 0 : ℕ)
  else none

/-- `StrNumericLiteral`. -/
def literal : List Char → Option ℚ
  | '0' :: 'x' :: cs | '0' :: 'X' :: cs => radixDigits 16 cs
  | '0' :: 'o' :: cs | '0' :: 'O' :: cs => radixDigits 8 cs
  | '0' :: 'b' :: cs | '0' :: 'B' :: cs => radixDigits 2 cs
  | '-' :: cs => (unsignedDecimal cs).map fun q => -q
  | '+' :: cs => unsignedDecimal cs
  | cs => unsignedDecimal cs

/-- `Number(s)`. -/
def ofString (s : String) : Number :=
  let cs := trimBy isSpace s.toList
  if cs = [] then finite 0
  else match literal cs with
    | some q => ofRat q
    | none => nan

/-! #### Whole numbers -/

lemma mantissa_of_isDigit {cs : List Char} (hcs : cs ≠ []) (h : cs.all Char.isDigit = true) {n : ℕ}
    (hn : digits cs = some n) : mantissa cs = some n := by
  have hpoint : ∀ c ∈ cs, (c != '.') = true := by
    intro c hc
    have hdigit := List.all_eq_true.mp h c hc
    rw [bne_iff_ne]
    rintro rfl
    cases hdigit
  have htake : cs.takeWhile (· != '.') = cs := List.takeWhile_eq_self_iff.mpr hpoint
  have hdrop : cs.dropWhile (· != '.') = [] := List.dropWhile_eq_nil_iff.mpr hpoint
  rw [mantissa, htake, hdrop]
  simp [hcs, digitsOrNone, hn]

lemma unsignedDecimal_of_isDigit {cs : List Char} (hcs : cs ≠ []) (h : cs.all Char.isDigit = true)
    {n : ℕ} (hn : digits cs = some n) : unsignedDecimal cs = some n := by
  have hletter : ∀ c ∈ cs, (c != 'e' && c != 'E') = true := by
    intro c hc
    have hdigit := List.all_eq_true.mp h c hc
    rw [Bool.and_eq_true, bne_iff_ne, bne_iff_ne]
    constructor <;> rintro rfl <;> cases hdigit
  have htake : cs.takeWhile (fun c => c != 'e' && c != 'E') = cs :=
    List.takeWhile_eq_self_iff.mpr hletter
  have hdrop : cs.dropWhile (fun c => c != 'e' && c != 'E') = [] :=
    List.dropWhile_eq_nil_iff.mpr hletter
  have hword : cs ≠ "Infinity".toList := by
    rintro rfl
    revert h
    decide
  rw [unsignedDecimal, if_neg hword, htake, hdrop, mantissa_of_isDigit hcs h hn]
  simp [exponent]

/-- Digits have no sign and no base. -/
lemma literal_of_isDigit {cs : List Char} (hcs : cs ≠ []) (h : cs.all Char.isDigit = true) {n : ℕ}
    (hn : digits cs = some n) : literal cs = some n := by
  rw [← unsignedDecimal_of_isDigit hcs h hn]
  unfold literal
  split <;> first | rfl | simp only [List.all_cons, Bool.and_eq_true] at h
  all_goals first | exact absurd h.2.1 (by decide) | exact absurd h.1 (by decide)

/-- `Number(String(n))`. -/
lemma ofString_toString {n : ℕ} (h : n < 2 ^ 53) : ofString (toString (n : ℤ)) = finite n := by
  have htext : (toString (n : ℤ)).toList = Nat.toDigits 10 n := by
    show (Nat.repr n).toList = _
    rw [Nat.repr, String.toList_ofList]
  have hdigits : (Nat.toDigits 10 n).all Char.isDigit = true :=
    List.all_eq_true.mpr fun _ => isDigit_toDigits
  have htrim : trimBy isSpace (Nat.toDigits 10 n) = Nat.toDigits 10 n := by
    refine trimBy_eq_self fun c hc => ?_
    have hrange := toNat_of_isDigit (isDigit_toDigits hc)
    simp only [isSpace, Text.isSpace, Bool.or_eq_false_iff, Bool.and_eq_false_iff,
      decide_eq_false_iff_not, beq_eq_false_iff_ne]
    omega
  rw [ofString, htext, htrim]
  simp only [Nat.toDigits_ne_nil, if_false,
    literal_of_isDigit Nat.toDigits_ne_nil hdigits (digits_toDigits n)]
  have hsmall : (n : ℚ) < 2 ^ 53 := by exact_mod_cast h
  have hpos : (0 : ℚ) ≤ n := Nat.cast_nonneg n
  have hbound : (2 ^ 53 : ℚ) ≤ 2 ^ 1024 - 2 ^ 970 := by
    have hone : (1 : ℚ) ≤ 2 ^ 970 := one_le_pow₀ (by norm_num)
    have hsplit : (2 ^ 1024 : ℚ) = 2 ^ 970 * 2 ^ 54 := by rw [← pow_add]
    rw [hsplit]
    generalize (2 : ℚ) ^ 970 = x at hone ⊢
    linarith
  show ofRat n = finite n
  unfold ofRat
  generalize (2 : ℚ) ^ 1024 - 2 ^ 970 = bound at hbound ⊢
  rw [if_neg (not_le.mpr (hsmall.trans_le hbound)), if_neg (by linarith)]

end Number

end Lib.JsText
